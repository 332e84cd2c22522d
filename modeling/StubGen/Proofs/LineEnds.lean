import StubGen.Mock
import StubGen.Proofs.Placement
import StubGen.Proofs.Text
import StubGen.TestStub

/-!
# Line ends

A text may end its lines with a line feed, or with a carriage return and a line feed. All that is
read line by line does not see the difference. The suites of a test file are looked for in the text
as a whole, and there a carriage return is one more blank.

Results:

1. `lines_withReturns`: the lines are the same.
2. `lastSuite?_withReturns`: the suite that is declared last is the same.
3. `generate_withReturns`: so mocks, stubs, the errors and the namespaces are the same, also for an
   anchor that was copied with its line end.
-/

namespace StubGen

open Text

/-! ## 1. Lines -/

namespace Text

/-- The text with a carriage return in front of every line feed. -/
def withReturns : Text → Text
  | [] => []
  | c :: rest => if c = '\n' then '\r' :: '\n' :: withReturns rest else c :: withReturns rest

theorem withReturns_newline (rest : Text) :
    withReturns ('\n' :: rest) = '\r' :: '\n' :: withReturns rest := if_pos rfl

theorem withReturns_cons {c : Char} (hc : c ≠ '\n') (rest : Text) :
    withReturns (c :: rest) = c :: withReturns rest := if_neg hc

/-- The lines of a text without carriage returns, behind the part of a line that is read already. -/
theorem lines_append_withReturns (read : Text) {t : Text} (hread : '\r' ∉ read ∧ '\n' ∉ read)
    (ht : '\r' ∉ t) : lines (read ++ withReturns t) = lines (read ++ t) := by
  induction t generalizing read with
  | nil => rfl
  | cons c rest ih =>
    rw [List.mem_cons, not_or] at ht
    by_cases hc : c = '\n'
    · subst hc
      have hrest : lines (withReturns rest) = lines rest := ih [] (by simp) ht.2
      have hsplit : read ++ '\r' :: '\n' :: withReturns rest =
          (read ++ ['\r']) ++ '\n' :: withReturns rest := by simp
      have hnl : '\n' ∉ read ++ ['\r'] := by simpa using hread.2
      rw [withReturns_newline, hsplit, lines_append_cons, lines_append_cons, hrest,
        lines_of_not_mem hnl, lines_of_not_mem hread.2, dropReturn_append_return,
        dropReturn_of_not_mem hread.1]
    · have hnext : '\r' ∉ read ++ [c] ∧ '\n' ∉ read ++ [c] := by
        simp [hread, ht.1, Ne.symm hc]
      have h := ih (read ++ [c]) hnext ht.2
      rw [withReturns_cons hc]
      simpa only [List.append_assoc, List.singleton_append] using h

theorem lines_withReturns {t : Text} (h : '\r' ∉ t) : lines (withReturns t) = lines t :=
  lines_append_withReturns [] (by simp) h

end Text

/-! ## 2. Suites -/

namespace Text

variable {p : Char → Bool}

theorem dropWhile_withReturns (h : p '\r' = p '\n') (t : Text) :
    (withReturns t).dropWhile p = withReturns (t.dropWhile p) := by
  induction t with
  | nil => rfl
  | cons c rest ih =>
    by_cases hc : c = '\n'
    · subst hc
      cases hp : p '\n' with
      | true => simp [withReturns_newline, h, hp, ih]
      | false => simp [withReturns_newline, h, hp]
    · cases hp : p c with
      | true => simp [withReturns_cons hc, hp, ih]
      | false => simp [withReturns_cons hc, hp]

theorem takeWhile_withReturns (hreturn : p '\r' = false) (hnl : p '\n' = false) (t : Text) :
    (withReturns t).takeWhile p = t.takeWhile p := by
  induction t with
  | nil => rfl
  | cons c rest ih =>
    by_cases hc : c = '\n'
    · subst hc
      simp [withReturns_newline, hreturn, hnl]
    · simp [withReturns_cons hc, List.takeWhile_cons, ih]

theorem stripStart?_withReturns {beginning : Text} (hreturn : '\r' ∉ beginning)
    (hnl : '\n' ∉ beginning) (t : Text) :
    stripStart? beginning (withReturns t) = (stripStart? beginning t).map withReturns := by
  induction beginning generalizing t with
  | nil => rfl
  | cons b beginning ih =>
    rw [List.mem_cons, not_or] at hreturn hnl
    cases t with
    | nil => rfl
    | cons c rest =>
      by_cases hc : c = '\n'
      · subst hc
        rw [withReturns_newline, stripStart?, stripStart?, if_neg (Ne.symm hreturn.1),
          if_neg (Ne.symm hnl.1)]
        rfl
      · rw [withReturns_cons hc, stripStart?, stripStart?]
        split
        · exact ih hreturn.2 hnl.2 rest
        · rfl

theorem head?_withReturns_eq_iff {c : Char} (hreturn : c ≠ '\r') (hnl : c ≠ '\n') (t : Text) :
    (withReturns t).head? = some c ↔ t.head? = some c := by
  cases t with
  | nil => rfl
  | cons d rest =>
    by_cases hd : d = '\n'
    · subst hd
      simp [withReturns_newline, Ne.symm hreturn, Ne.symm hnl]
    · simp [withReturns_cons hd]

end Text

/-- A suite is declared at the start of a text whatever its line ends are. -/
theorem suiteAt?_withReturns (t : Text) : suiteAt? (withReturns t) = suiteAt? t := by
  have hblank : isBlank '\r' = isBlank '\n' := by decide
  have hreturn : isWord '\r' = false := by decide
  have hnl : isWord '\n' = false := by decide
  have hstart : ∀ t, trimStart (withReturns t) = withReturns (trimStart t) :=
    dropWhile_withReturns hblank
  have hcomma : ∀ t, ((withReturns t).head? == some ',') = (t.head? == some ',') := by
    intro t
    rw [Bool.eq_iff_iff, beq_iff_eq, beq_iff_eq]
    exact head?_withReturns_eq_iff (by decide) (by decide) t
  unfold suiteAt?
  rw [stripStart?_withReturns (by decide) (by decide)]
  cases stripStart? (suiteMacro ++ ['(']) t with
  | none => rfl
  | some arguments =>
    simp only [Option.map_some, Option.bind_eq_bind, Option.bind_some, hstart, hcomma,
      takeWhile_withReturns hreturn hnl, dropWhile_withReturns (hreturn.trans hnl.symm)]

/-- The suite that is declared last is the same. -/
theorem lastSuite?_withReturns (t : Text) : lastSuite? (withReturns t) = lastSuite? t := by
  have hnone : ∀ c rest, c = '\r' ∨ c = '\n' → suiteAt? (c :: rest) = none := by
    rintro c rest (rfl | rfl) <;> rfl
  induction t with
  | nil => rfl
  | cons c rest ih =>
    by_cases hc : c = '\n'
    · -- No suite is declared from a line end on, so the rest decides.
      subst hc
      rw [withReturns_newline, lastSuite?, lastSuite?, lastSuite?, ih, hnone _ _ (.inl rfl),
        hnone _ _ (.inr rfl), hnone _ _ (.inr rfl)]
      cases lastSuite? rest with
      | none => rfl
      | some name => rfl
    · have hhere := suiteAt?_withReturns (c :: rest)
      rw [withReturns_cons hc] at hhere ⊢
      rw [lastSuite?, lastSuite?, ih, hhere]

/-! ## 3. Generated text -/

section

variable {ending : Text} (hending : ending = [] ∨ ending = ['\r', '\n'])

include hending

theorem findAnchor_append_lineEnd (ls : List Text) (anchor : Text) :
    findAnchor ls (anchor ++ ending) = findAnchor ls anchor := by
  have hblank : ∀ c ∈ ending, isBlank c = true := by
    rcases hending with rfl | rfl
    · exact List.forall_mem_nil _
    · exact List.all_eq_true.mp (by decide)
  rw [findAnchor, findAnchor, trim_append_of_blank_right hblank]

theorem isInterfaceAnchor_append_lineEnd (anchor : Text) :
    isInterfaceAnchor (anchor ++ ending) = isInterfaceAnchor anchor := by
  have hrest : occursIn "__interface".toList ['\n'] = false := by decide
  rcases hending with rfl | rfl
  · rw [List.append_nil]
  · rw [isInterfaceAnchor, occursIn_append_cons (by decide), hrest, Bool.or_false]
    rfl

end

/-- What is generated does not depend on the line ends of the text, of the anchor and of the existing
test file. -/
theorem generate_withReturns {t : Text} (ht : '\r' ∉ t) (names : SourceNames) (anchor : Text)
    (existing : Option Text) {ending ending' : Text}
    (hending : ending = [] ∨ ending = ['\r', '\n'])
    (hending' : ending' = [] ∨ ending' = ['\r', '\n']) :
    Mock.generate names (withReturns t) (anchor ++ ending) =
      Mock.generate names t (anchor ++ ending') ∧
    TestStub.generate names (withReturns t) (anchor ++ ending) (existing.map withReturns) =
      TestStub.generate names t (anchor ++ ending') existing ∧
    Placement.leadingNamespaces (withReturns t) = Placement.leadingNamespaces t := by
  have hlines := lines_withReturns ht
  have hsuite : (existing.map withReturns).bind lastSuite? = existing.bind lastSuite? := by
    cases existing with
    | none => rfl
    | some e => exact lastSuite?_withReturns e
  refine ⟨?_, ?_, ?_⟩
  · simp only [Mock.generate, scanDeclarations, scanMembers, hlines,
      findAnchor_append_lineEnd hending, findAnchor_append_lineEnd hending',
      isInterfaceAnchor_append_lineEnd hending, isInterfaceAnchor_append_lineEnd hending']
  · simp only [TestStub.generate, hlines, hsuite, findAnchor_append_lineEnd hending,
      findAnchor_append_lineEnd hending']
  · rw [Placement.leadingNamespaces, hlines, Placement.leadingNamespaces]

/-- A member that goes on in the next line and a suite that does, with both kinds of line ends. -/
theorem generate_withReturns_wrapped :
    let t := "__interface IA\n\x7b\n  int run(int a,\n    B b) = 0;\n\x7d;\n".toList
    let e := "TYPED_TEST_SUITE(\n  MyTest\n,T);\n".toList
    let d : Declaration := ⟨"int".toList, "run".toList,
      [⟨"int".toList, "a".toList⟩, ⟨"B".toList, "b".toList⟩], "(int a,    B b)".toList, false⟩
    '\r' ∉ t ∧
      Mock.generate (SourceNames.ofPath "IA.h".toList) (withReturns t)
          ("__interface IA".toList ++ ['\r', '\n']) =
        .ok ⟨"AMock".toList, "IA".toList, [{ d with overridable := true }]⟩ ∧
      TestStub.generate (SourceNames.ofPath "IA.h".toList) (withReturns t)
          ("  int run(int a,".toList ++ []) (some (withReturns e)) = .ok ⟨"MyTest".toList, d⟩ := by
  intro t e d
  have ht : '\r' ∉ t := by decide
  have hmock := generate_withReturns ht (SourceNames.ofPath "IA.h".toList) "__interface IA".toList
    none (.inr rfl) (.inl rfl)
  have hstub := generate_withReturns ht (SourceNames.ofPath "IA.h".toList)
    "  int run(int a,".toList (some e) (.inl rfl) (.inl rfl)
  exact ⟨ht, hmock.1.trans rfl, hstub.2.1.trans rfl⟩

end StubGen
