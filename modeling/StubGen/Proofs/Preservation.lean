import StubGen.Proofs.Placement
import StubGen.Text.Blank

/-!
# What a placement keeps

A block is put between two parts of a text. In front of a suite these parts make up the text. Inside
namespaces the second part is overwritten and only closing braces are written again, so other
characters after the first of these braces are lost.

Results:

1. `splice_keeps`: what remains of a text around a placed block, and exactly when that is the whole
   text but for blanks.
2. `splice_loses_comment`: a comment behind the last brace is lost.
-/

namespace StubGen

/-- The text with all blanks erased. -/
def Text.withoutBlanks (t : Text) : Text := t.filter (!isBlank ·)

namespace Placement

open Text

theorem withoutBlanks_append (a b : Text) :
    withoutBlanks (a ++ b) = withoutBlanks a ++ withoutBlanks b := List.filter_append a b

theorem withoutBlanks_closers (count : Nat) :
    withoutBlanks (List.replicate count [closer, '\n']).flatten = List.replicate count closer := by
  have hone : withoutBlanks [closer, '\n'] = [closer] := by decide
  induction count with
  | zero => rfl
  | succ count ih =>
    rw [List.replicate_succ, List.flatten_cons, withoutBlanks_append, hone, ih, List.replicate_succ]
    rfl

/-- Of the characters that are not blank, only closing braces remain exactly if there are no
others. -/
theorem filter_closer_eq_withoutBlanks_iff (t : Text) :
    t.filter (· == closer) = withoutBlanks t ↔ ∀ c ∈ t, isBlank c = true ∨ c = closer := by
  constructor
  · intro h c hc
    by_cases hblank : isBlank c = true
    · exact .inl hblank
    · have hkept : c ∈ withoutBlanks t := List.mem_filter.mpr ⟨hc, by simp [hblank]⟩
      rw [← h] at hkept
      exact .inr (by simpa using (List.mem_filter.mp hkept).2)
  · intro h
    refine List.filter_congr fun c hc => ?_
    have hcloser : isBlank closer = false := by decide
    rcases h c hc with hblank | rfl
    · have hne : c ≠ closer := by
        rintro rfl
        rw [hcloser] at hblank
        exact absurd hblank Bool.false_ne_true
      simp [hblank, hne]
    · simp [hcloser]

/-- What remains of the text inside namespaces: all of the first part, and of the second one the
closing braces. -/
theorem withoutBlanks_around_insideNamespaces {t : Text} {offset : Nat}
    (h : insideClosers t (leadingNamespaces t) = .ok offset) :
    withoutBlanks (takeBytes offset t ++ tail t ⟨offset, leadingNamespaces t, .insideNamespaces⟩) =
      withoutBlanks (takeBytes offset t) ++ (dropBytes offset t).filter (· == closer) := by
  obtain ⟨before, after, hsplit, rfl, hcount, -⟩ := insideClosers_eq_ok_iff.mp h
  have hafter : dropBytes (byteSize before) t = after := by
    rw [hsplit, dropBytes_byteSize_append]
  rw [withoutBlanks_append, hafter, List.filter_beq, hcount]
  simp only [tail, withoutBlanks_closers]

/-- No text of a target is lost around a placed block, with two provisos. In front of a suite the
text around the block is the target itself. Inside namespaces all that stands before the place is
kept, and of what stands after it the closing braces; so the text around the block is the target but
for blanks exactly if nothing but blanks and closing braces stood there. -/
theorem splice_keeps {t : Text} {kind : BlockKind} {point : InsertionPoint}
    (h : locate t kind = .ok point) (block : Text) :
    apply t point block = takeBytes point.offset t ++ block ++ tail t point ∧
    (point.mode = .beforeSuite → takeBytes point.offset t ++ tail t point = t) ∧
    (point.mode = .insideNamespaces →
      withoutBlanks (takeBytes point.offset t ++ tail t point) =
          withoutBlanks (takeBytes point.offset t) ++
            (dropBytes point.offset t).filter (· == closer) ∧
      (withoutBlanks (takeBytes point.offset t ++ tail t point) = withoutBlanks t ↔
        ∀ c ∈ dropBytes point.offset t, isBlank c = true ∨ c = closer)) := by
  have happly : apply t point block = takeBytes point.offset t ++ block ++ tail t point := by
    rw [apply, splice, List.append_assoc]
  refine ⟨happly, ?_⟩
  rcases locate_eq_ok h with ⟨offset, -, rfl⟩ | ⟨offset, hinside, rfl⟩
  · refine ⟨fun _ => takeBytes_append_dropBytes offset t, ?_⟩
    intro hmode
    cases hmode
  · have hkept := withoutBlanks_around_insideNamespaces hinside
    have hwhole : withoutBlanks t =
        withoutBlanks (takeBytes offset t) ++ withoutBlanks (dropBytes offset t) := by
      rw [← withoutBlanks_append, takeBytes_append_dropBytes]
    refine ⟨?_, fun _ => ⟨hkept, ?_⟩⟩
    · intro hmode
      cases hmode
    · rw [hkept, hwhole, List.append_cancel_left_eq]
      exact filter_closer_eq_withoutBlanks_iff _

/-- A file that ends with its closing braces keeps all its text. -/
theorem splice_keeps_braces :
    locate "namespace a \x7b \x7d \x7d\n".toList .test = .ok ⟨16, 1, .insideNamespaces⟩ ∧
    withoutBlanks (takeBytes 16 "namespace a \x7b \x7d \x7d\n".toList ++
      tail "namespace a \x7b \x7d \x7d\n".toList ⟨16, 1, .insideNamespaces⟩) =
    withoutBlanks "namespace a \x7b \x7d \x7d\n".toList := by
  have h : locate "namespace a \x7b \x7d \x7d\n".toList .test =
      .ok ⟨16, 1, .insideNamespaces⟩ := by rfl
  have hrest : dropBytes 16 "namespace a \x7b \x7d \x7d\n".toList = [closer, '\n'] := by rfl
  have hblank : isBlank '\n' = true := by decide
  refine ⟨h, (((splice_keeps h []).2.2 rfl).2).mpr ?_⟩
  rw [hrest]
  simp [hblank]

/-- A comment behind the last closing brace is overwritten and not written again. -/
theorem splice_loses_comment :
    locate "namespace a \x7b\n\x7d // a\n".toList .test = .ok ⟨14, 1, .insideNamespaces⟩ ∧
    apply "namespace a \x7b\n\x7d // a\n".toList ⟨14, 1, .insideNamespaces⟩ "int b;\n".toList =
      "namespace a \x7b\nint b;\n\x7d\n".toList ∧
    withoutBlanks (takeBytes 14 "namespace a \x7b\n\x7d // a\n".toList ++
      tail "namespace a \x7b\n\x7d // a\n".toList ⟨14, 1, .insideNamespaces⟩) ≠
    withoutBlanks "namespace a \x7b\n\x7d // a\n".toList :=
  ⟨by rfl, by decide +kernel, by decide +kernel⟩

end Placement

end StubGen
