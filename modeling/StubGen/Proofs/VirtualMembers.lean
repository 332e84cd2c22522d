import StubGen.Proofs.Members

/-!
# Virtual members

In an interface every line can declare a member, in a class only one with the word `virtual`. The two
scans of a body come to the same lines as long as a line without the word is never wrapped: what the
scan of an interface reads there, the scan of a class passes.

Results:

1. `scanBody_class_eq`: the same body, scanned as a class and as an interface.
2. `scanMembers_class_eq`: the members of a class are the virtual ones among those of the interface,
   and a scan that fails does so for both, with the same error.
-/

namespace StubGen

open Text

/-- The line on which the member starts has the word `virtual`. -/
def Member.startsVirtual (ls : List Text) (m : Member) : Bool :=
  hasWord virtualWord (ls.getD (m.lineNumber - 1) [])

/-- A line without the word `virtual` closes a parameter list if it opens one. -/
def ClosesUnlessVirtual (line : Text) : Prop :=
  '(' ∈ line → hasWord virtualWord line = false → ')' ∈ line

instance (line : Text) : Decidable (ClosesUnlessVirtual line) :=
  inferInstanceAs (Decidable ('(' ∈ line → hasWord virtualWord line = false → ')' ∈ line))

section

variable {ls : List Text} {line : Text} {start : Nat}

theorem startsVirtual_eq (h : ls[start]? = some line) (text : Text) :
    Member.startsVirtual ls ⟨start + 1, text⟩ = hasWord virtualWord line := by
  rw [Member.startsVirtual, Nat.add_sub_cancel, List.getD_eq_getElem?_getD, h, Option.getD_some]

theorem signatureFrom_of_not_virtual (h : ClosesUnlessVirtual line)
    (hplain : hasWord virtualWord line = false) (rest : List Text) :
    signatureFrom line rest = .ok (line, 0) := by
  refine if_neg fun hwrapped => ?_
  obtain ⟨hopen, hnone⟩ := isWrapped_iff.mp hwrapped
  exact hnone (h hopen hplain)

/-- A class has the members of the same body, read as an interface, that start on a virtual line. -/
theorem scanBody_class_eq {body : List Text} (hbody : ls.drop start = body)
    (hclosed : ∀ line ∈ body, ClosesUnlessVirtual line) (skip : Nat) :
    scanBody false (start + 1) skip body =
      (scanBody true (start + 1) skip body).map (List.filter (Member.startsVirtual ls)) := by
  induction body generalizing start skip with
  | nil => rw [scanBody, scanBody]; rfl
  | cons line rest ih =>
    obtain ⟨hfound, htail⟩ := of_drop_eq_cons hbody
    have hrest := ih htail fun other hother => hclosed other (List.mem_cons_of_mem line hother)
    cases skip with
    | succ skip => exact hrest skip
    | zero =>
      cases hend : occursIn "\x7d;".toList line with
      | true =>
        rw [scanBody_end hend, scanBody_end hend]
        rfl
      | false =>
        have hinterface : isCandidate true line = true := rfl
        rw [scanBody_read hend hinterface]
        cases hvirtual : hasWord virtualWord line with
        | true =>
          -- Both scans read the declaration, and go on behind it.
          have hclass : isCandidate false line = true := hvirtual
          rw [scanBody_read hend hclass]
          cases signatureFrom line rest with
          | error e => rfl
          | ok signature =>
            obtain ⟨raw, extra⟩ := signature
            simp only [bind, Except.bind, hrest extra]
            cases scanBody true (start + 1 + 1) extra rest with
            | error e => rfl
            | ok members =>
              have hkept : ∀ text, Member.startsVirtual ls ⟨start + 1, text⟩ = true :=
                fun text => (startsVirtual_eq hfound text).trans hvirtual
              refine congrArg Except.ok ?_
              cases memberText? raw <;> simp [hkept]
        | false =>
          -- The interface reads this line alone, so both scans come to the next one.
          have hclass : isCandidate false line = false := hvirtual
          rw [scanBody_pass hend hclass, hrest 0,
            signatureFrom_of_not_virtual (hclosed line List.mem_cons_self) hvirtual]
          simp only [bind, Except.bind]
          cases scanBody true (start + 1 + 1) 0 rest with
          | error e => rfl
          | ok members =>
            have hdropped : ∀ text, Member.startsVirtual ls ⟨start + 1, text⟩ = false :=
              fun text => (startsVirtual_eq hfound text).trans hvirtual
            refine congrArg Except.ok ?_
            cases memberText? line <;> simp [hdropped]

end

/-- If below the anchor no line without the word `virtual` is wrapped, a scan of the class gives the
members of the interface that start on a line with the word, in order and unchanged; and it fails
exactly if the scan of the interface fails, with the same error. -/
theorem scanMembers_class_eq {text anchor : Text}
    (hclosed : ∀ i, findAnchor (lines text) anchor = .ok i →
      ∀ line ∈ (lines text).drop (i + 1), ClosesUnlessVirtual line) :
    scanMembers text anchor false =
      (scanMembers text anchor true).map (List.filter (Member.startsVirtual (lines text))) := by
  simp only [scanMembers]
  cases hanchor : findAnchor (lines text) anchor with
  | error e => rfl
  | ok i =>
    refine scanBody_class_eq rfl (fun line hline => hclosed i hanchor line ?_) 0
    rw [bodyStart, ← List.drop_drop] at hline
    exact List.mem_of_mem_drop hline

/-- A wrapped virtual member, one that is not virtual, and a line of parameters with neither. -/
theorem scanMembers_class_eq_wrapped :
    let text := "class A \x7b\n  virtual int f(int a,\n    B b);\n  void g();\n\x7d;\n".toList
    scanMembers text "class A \x7b".toList true =
        .ok [⟨2, "int f(int a,    B b);".toList⟩, ⟨4, "void g();".toList⟩] ∧
      scanMembers text "class A \x7b".toList false = .ok [⟨2, "int f(int a,    B b);".toList⟩] := by
  intro text
  have hinterface : scanMembers text "class A \x7b".toList true =
      .ok [⟨2, "int f(int a,    B b);".toList⟩, ⟨4, "void g();".toList⟩] := by rfl
  have hclass := @scanMembers_class_eq text "class A \x7b".toList (by
    intro i hi
    have hanchor : findAnchor (lines text) "class A \x7b".toList = .ok 0 := by rfl
    rw [hanchor] at hi
    cases hi
    decide +kernel)
  rw [hinterface] at hclass
  exact ⟨hinterface, hclass⟩

end StubGen
