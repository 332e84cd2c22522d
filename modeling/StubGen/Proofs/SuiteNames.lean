import StubGen.Proofs.Declaration
import StubGen.Proofs.WholeWords

/-!
# Where a text declares a suite

The search for the last suite of a text looks at every position. It is described by the stretches of
text that declare a suite: from the macro to the comma after the name.

Results:

1. `suiteAt?_eq_some_iff`: a text starts with a suite exactly if a declaring stretch is in front.
2. `lastSuite?_eq_none_iff`: no suite is found exactly if no such stretch stands in the text.
3. `lastSuite?_append_eq_none` and the lemmas after it: where texts without a suite can be joined
   without making one.
4. `lastSuite?_append_stubBlock`: adding a test stub to a text does not add a suite.
-/

namespace StubGen

open Text

/-! ## 1. Stretches that declare a suite -/

/-- A stretch from the macro to the comma, with the suite's name between blanks. -/
structure DeclaresSuite (name stretch : Text) : Prop where
  shape : ∃ blanks more, stretch = suiteMacro ++ '(' :: (blanks ++ (name ++ (more ++ [',']))) ∧
    (∀ c ∈ blanks, isBlank c = true) ∧ ∀ c ∈ more, isBlank c = true
  named : name ≠ []
  word : ∀ c ∈ name, isWord c = true

theorem suiteAt?_append_of_declares {name stretch rest : Text} (h : DeclaresSuite name stretch) :
    suiteAt? (stretch ++ rest) = some name := by
  obtain ⟨⟨blanks, more, rfl, hblanks, hmore⟩, hnamed, hword⟩ := h
  obtain ⟨first, others, rfl⟩ := List.exists_cons_of_ne_nil hnamed
  have hfirst : isBlank first = false := isBlank_of_isWord (hword first List.mem_cons_self)
  have harguments : stripStart? (suiteMacro ++ ['('])
      (suiteMacro ++ '(' :: (blanks ++ (first :: others ++ (more ++ [',']))) ++ rest) =
      some (blanks ++ first :: (others ++ (more ++ ',' :: rest))) := by
    rw [stripStart?_eq_some_iff]
    simp
  have hname : trimStart (blanks ++ first :: (others ++ (more ++ ',' :: rest))) =
      first :: others ++ (more ++ ',' :: rest) := dropWhile_append_cons_of_stop hblanks hfirst _
  -- The word ends at a blank or at the comma, and neither is part of a word.
  obtain ⟨stop, after, hsplit, hstop⟩ : ∃ stop after,
      more ++ ',' :: rest = stop :: after ∧ isWord stop = false := by
    cases more with
    | nil => exact ⟨',', rest, rfl, by decide⟩
    | cons b more => exact ⟨b, _, rfl, isWord_of_isBlank (hmore b List.mem_cons_self)⟩
  have hcomma : trimStart (more ++ ',' :: rest) = ',' :: rest :=
    dropWhile_append_cons_of_stop hmore (by decide) rest
  rw [suiteAt?, harguments]
  simp only [Option.bind_eq_bind, Option.bind_some, hname]
  rw [hsplit, takeWhile_append_cons_of_stop hword hstop, dropWhile_append_cons_of_stop hword hstop,
    ← hsplit, hcomma]
  rfl

/-- A text starts with a suite exactly if it starts with a stretch that declares one. -/
theorem suiteAt?_eq_some_iff {t name : Text} :
    suiteAt? t = some name ↔ ∃ stretch, DeclaresSuite name stretch ∧ stretch <+: t := by
  constructor
  · intro h
    simp only [suiteAt?, Option.bind_eq_bind, Option.bind_eq_some_iff] at h
    obtain ⟨arguments, harguments, h⟩ := h
    split at h
    · next hfound =>
      cases h
      rw [Bool.and_eq_true, Bool.not_eq_true', List.isEmpty_eq_false_iff, beq_iff_eq] at hfound
      obtain ⟨hnamed, hhead⟩ := hfound
      obtain ⟨rest, hrest⟩ := List.head?_eq_some_iff.mp hhead
      have hsplit : arguments = arguments.takeWhile isBlank ++
          ((trimStart arguments).takeWhile isWord ++
            (((trimStart arguments).dropWhile isWord).takeWhile isBlank ++ ',' :: rest)) := by
        simp only [← hrest, trimStart, List.takeWhile_append_dropWhile]
      rw [stripStart?_eq_some_iff, hsplit] at harguments
      refine ⟨_, ⟨⟨arguments.takeWhile isBlank,
        ((trimStart arguments).dropWhile isWord).takeWhile isBlank, rfl, ?_, ?_⟩, hnamed, ?_⟩,
        rest, ?_⟩
      · exact List.all_eq_true.mp List.all_takeWhile
      · exact List.all_eq_true.mp List.all_takeWhile
      · exact List.all_eq_true.mp List.all_takeWhile
      · rw [harguments]
        simp
    · cases h
  · rintro ⟨stretch, hstretch, rest, rfl⟩
    exact suiteAt?_append_of_declares hstretch

/-! ## 2. The last suite -/

theorem lastSuite?_append_of_some {b name : Text} (a : Text) (h : lastSuite? b = some name) :
    lastSuite? (a ++ b) = some name := by
  induction a with
  | nil => exact h
  | cons c a ih => rw [List.cons_append, lastSuite?, ih]

/-- No suite is found exactly if no stretch of the text declares one. -/
theorem lastSuite?_eq_none_iff {t : Text} :
    lastSuite? t = none ↔ ∀ name stretch, DeclaresSuite name stretch → ¬ stretch <:+: t := by
  induction t with
  | nil =>
    refine ⟨fun _ name stretch h hin => ?_, fun _ => rfl⟩
    obtain ⟨⟨blanks, more, rfl, -⟩, -⟩ := h
    simp at hin
  | cons c rest ih =>
    rw [lastSuite?]
    constructor
    · intro h name stretch hstretch hin
      split at h
      · cases h
      · next hrest =>
        rcases List.infix_cons_iff.mp hin with hstart | hin
        · rw [suiteAt?_eq_some_iff.mpr ⟨stretch, hstretch, hstart⟩] at h
          cases h
        · exact ih.mp hrest name stretch hstretch hin
    · intro h
      have hrest : lastSuite? rest = none :=
        ih.mpr fun name stretch hstretch hin => h name stretch hstretch (List.infix_cons hin)
      rw [hrest]
      cases hhere : suiteAt? (c :: rest) with
      | none => rfl
      | some name =>
        obtain ⟨stretch, hstretch, hstart⟩ := suiteAt?_eq_some_iff.mp hhere
        exact absurd hstart.isInfix (h name stretch hstretch)

/-! ## 3. Texts without a suite -/

section

variable {a b : Text}

theorem lastSuite?_eq_none_of_infix (h : lastSuite? b = none) (hin : a <:+: b) :
    lastSuite? a = none := by
  rw [lastSuite?_eq_none_iff] at h ⊢
  intro name stretch hstretch hin'
  exact h name stretch hstretch (hin'.trans hin)

/-- A stretch ends with its only comma, after an opening parenthesis. -/
theorem DeclaresSuite.eq_concat {name stretch : Text} (h : DeclaresSuite name stretch) :
    ∃ start, stretch = start ++ [','] ∧ ',' ∉ start ∧ '(' ∈ start := by
  obtain ⟨⟨blanks, more, rfl, hblanks, hmore⟩, -, hword⟩ := h
  have hcomma : isBlank ',' = false ∧ isWord ',' = false := ⟨by decide, by decide⟩
  have hblank : ∀ {run : Text}, (∀ c ∈ run, isBlank c = true) → ',' ∉ run := by
    intro run hrun hmem
    rw [hrun _ hmem] at hcomma
    cases hcomma.1
  refine ⟨suiteMacro ++ '(' :: (blanks ++ (name ++ more)), by simp, ?_, by simp⟩
  simp only [List.mem_append, List.mem_cons, not_or]
  refine ⟨by decide, by decide, hblank hblanks, fun hmem => ?_, hblank hmore⟩
  rw [hword _ hmem] at hcomma
  cases hcomma.2

/-- A text without a comma adds no suite. -/
theorem lastSuite?_append_eq_none (ha : lastSuite? a = none) (hb : ',' ∉ b) :
    lastSuite? (a ++ b) = none := by
  rw [lastSuite?_eq_none_iff] at ha ⊢
  rintro name stretch hstretch ⟨before, after, h⟩
  obtain ⟨start, rfl, -⟩ := hstretch.eq_concat
  have hsplit : (before ++ start) ++ ',' :: after = a ++ b := by simpa using h
  rcases List.append_eq_append_iff.mp hsplit with ⟨a', rfl, hb'⟩ | ⟨c', -, rfl⟩
  · cases a' with
    | nil => exact hb (by rw [← List.nil_append b, ← hb']; exact List.mem_cons_self)
    | cons d a' =>
      obtain ⟨rfl, -⟩ := List.cons.inj hb'
      exact ha name _ hstretch ⟨before, a', by simp⟩
  · exact hb (List.mem_append_right c' List.mem_cons_self)

/-- A comma ends a stretch only if an opening parenthesis stands before it. -/
theorem lastSuite?_append_comma_eq_none (ha : '(' ∉ a) (hb : lastSuite? b = none) :
    lastSuite? (a ++ ',' :: b) = none := by
  rw [lastSuite?_eq_none_iff] at hb ⊢
  intro name stretch hstretch hin
  obtain ⟨start, rfl, hcomma, hopen⟩ := hstretch.eq_concat
  have hnot : ¬ start <:+ a := fun hsuffix => ha (hsuffix.subset hopen)
  rcases infix_append_cons hcomma List.not_mem_nil hnot hin with hin | hin
  · exact ha (hin.subset (List.mem_append_left _ hopen))
  · exact hb name _ hstretch hin

theorem lastSuite?_of_comma_not_mem (hb : ',' ∉ b) : lastSuite? b = none :=
  lastSuite?_append_eq_none (a := []) rfl hb

theorem lastSuite?_of_open_not_mem (hb : '(' ∉ b) : lastSuite? b = none := by
  rw [lastSuite?_eq_none_iff]
  intro name stretch hstretch hin
  obtain ⟨blanks, more, rfl, -⟩ := hstretch.shape
  exact hb (hin.subset (by simp))

/-- A character that is neither a blank nor part of a word, no comma and no opening parenthesis. -/
structure IsBarrier (c : Char) : Prop where
  word : isWord c = false
  blank : isBlank c = false
  comma : c ≠ ','
  opening : c ≠ '('

theorem DeclaresSuite.not_mem {name stretch : Text} {c : Char} (h : DeclaresSuite name stretch)
    (hc : IsBarrier c) : c ∉ stretch := by
  obtain ⟨⟨blanks, more, rfl, hblanks, hmore⟩, -, hword⟩ := h
  have hletters : ∀ d ∈ suiteMacro, isWord d = true :=
    List.all_eq_true.mp (by decide +kernel : suiteMacro.all isWord = true)
  intro hmem
  have hw := hc.word
  have hb := hc.blank
  simp only [List.mem_append, List.mem_cons, List.not_mem_nil, or_false] at hmem
  rcases hmem with h | h | h | h | h | h
  · rw [hletters c h] at hw
    cases hw
  · exact hc.opening h
  · rw [hblanks c h] at hb
    cases hb
  · rw [hword c h] at hw
    cases hw
  · rw [hmore c h] at hb
    cases hb
  · exact hc.comma h

theorem lastSuite?_append_cons_eq_none {c : Char} (hc : IsBarrier c) (ha : lastSuite? a = none)
    (hb : lastSuite? b = none) : lastSuite? (a ++ c :: b) = none := by
  rw [lastSuite?_eq_none_iff] at ha hb ⊢
  intro name stretch hstretch hin
  rw [← occursIn_iff_isInfix, occursIn_append_cons (hstretch.not_mem hc), Bool.or_eq_true,
    occursIn_iff_isInfix, occursIn_iff_isInfix] at hin
  rcases hin with hin | hin
  · exact ha name stretch hstretch hin
  · exact hb name stretch hstretch hin

/-- An opening parenthesis starts the arguments of a suite only right after the macro. -/
theorem lastSuite?_append_open_eq_none (hother : ¬ suiteMacro <:+ a) (ha : lastSuite? a = none)
    (hb : lastSuite? b = none) : lastSuite? (a ++ '(' :: b) = none := by
  rw [lastSuite?_eq_none_iff] at ha hb ⊢
  intro name stretch hstretch hin
  obtain ⟨blanks, more, hshape, hblanks, hmore⟩ := hstretch.shape
  have hstop : '(' ∉ blanks ++ (name ++ (more ++ [','])) := by
    have hword : isWord '(' = false := by decide
    have hblank : isBlank '(' = false := by decide
    simp only [List.mem_append, List.mem_cons, List.not_mem_nil, or_false, not_or]
    refine ⟨fun h => ?_, fun h => ?_, fun h => ?_, by decide⟩
    · rw [hblanks _ h] at hblank
      cases hblank
    · rw [hstretch.word _ h] at hword
      cases hword
    · rw [hmore _ h] at hblank
      cases hblank
  rw [hshape] at hin hstretch
  rcases infix_append_cons (by decide) hstop hother hin with hin | hin
  · exact ha name _ hstretch hin
  · exact hb name _ hstretch hin

end

/-! ## 4. Test stubs -/

theorem Parameter.comma_not_mem_setUp {p : Parameter} (h : ',' ∉ p.typeName ∧ ',' ∉ p.name) :
    ',' ∉ p.setUp := by
  have hliteral : ∀ typeName literal, initializer? typeName = some literal → ',' ∉ literal := by
    intro typeName literal hinit
    unfold initializer? at hinit
    split at hinit
    · cases hinit
      decide
    · split at hinit
      · cases hinit
        decide
      · split at hinit
        · cases hinit
          decide
        · cases hinit
  have hend : ',' ∉ ";\n".toList := by decide
  unfold setUp
  split
  · split
    · next literal hinit =>
      simp only [List.mem_append, List.mem_cons, List.not_mem_nil, or_false, not_or]
      exact ⟨⟨⟨⟨by decide, h.2⟩, by decide⟩, hliteral _ _ hinit⟩, hend⟩
    · simp only [List.mem_append, List.mem_cons, List.not_mem_nil, or_false, not_or]
      exact ⟨⟨⟨⟨by decide, h.1⟩, by decide⟩, h.2⟩, hend⟩
  · exact List.not_mem_nil

namespace TestStub

/-- What reading a declaration guarantees of the stub that is made for it. -/
structure IsPlain (stub : TestStub) : Prop where
  suite : '(' ∉ stub.suite
  name : '(' ∉ stub.method.name
  parameters : ∀ p ∈ stub.method.parameters, ',' ∉ p.typeName ∧ ',' ∉ p.name

theorem generate_eq_ok {names : SourceNames} {source anchor : Text} {existing : Option Text}
    {stub : TestStub} (h : generate names source anchor existing = .ok stub) :
    stub.suite = (existing.bind lastSuite?).getD names.suiteName ∧
      ∃ line, Declaration.parse line = .ok stub.method := by
  simp only [generate, bind_eq_ok_iff] at h
  obtain ⟨i, -, ⟨signature, extra⟩, -, method, hmethod, hstub⟩ := h
  cases hstub
  exact ⟨rfl, signature, hmethod⟩

theorem isPlain_of_generate {names : SourceNames} {source anchor : Text} {existing : Option Text}
    {stub : TestStub} (h : generate names source anchor existing = .ok stub)
    (hsuite : '(' ∉ stub.suite) : stub.IsPlain := by
  obtain ⟨-, line, hline⟩ := generate_eq_ok h
  exact ⟨hsuite, Declaration.open_not_mem_name hline,
    fun p hp => Declaration.comma_not_mem_parameters hline hp⟩

theorem comma_not_mem_setUpLines {parameters : List Parameter}
    (h : ∀ p ∈ parameters, ',' ∉ p.typeName ∧ ',' ∉ p.name) : ',' ∉ setUpLines parameters := by
  intro hmem
  obtain ⟨p, hp, hmem⟩ := List.mem_flatMap.mp hmem
  exact Parameter.comma_not_mem_setUp (h p hp) hmem

end TestStub

theorem stubBlock_eq (stub : TestStub) : Plan.stubBlock stub =
    "\nTYPED_TEST".toList ++ '(' :: ((stub.suite ++ ",Should".toList ++ stub.method.name) ++ ')' ::
      (("\x7b\n".toList ++ TestStub.setUpLines stub.method.parameters ++
        "\tEXPECT_TRUE(2 == 2)".toList) ++ ';' ::
          "\n\tEXPECT_FALSE(2 == 1);\n\tEXPECT_EQUALS(2, 2);\n\x7d\n".toList)) := by
  have hopening : '\n' :: "TYPED_TEST(".toList = "\nTYPED_TEST".toList ++ ['('] := by decide
  have hclosing : ")\x7b\n".toList = ')' :: "\x7b\n".toList := by decide
  have hassertions : TestStub.assertions ++ ['\x7d', '\n'] = "\tEXPECT_TRUE(2 == 2)".toList ++
      ';' :: "\n\tEXPECT_FALSE(2 == 1);\n\tEXPECT_EQUALS(2, 2);\n\x7d\n".toList := by decide +kernel
  -- Only the fixed parts are cut anew, so the rest is the associativity of joining.
  have hassoc : ∀ opening suite should name closing setUp assertions : Text,
      '\n' :: (opening ++ suite ++ should ++ name ++ closing ++ setUp ++ assertions ++ ['\x7d']) ++
        ['\n'] = ('\n' :: opening) ++ (suite ++ should ++ name ++ (closing ++ (setUp ++
          (assertions ++ ['\x7d', '\n'])))) := by
    intro opening suite should name closing setUp assertions
    simp only [List.append_assoc, List.cons_append, List.nil_append]
  have hblock := hassoc "TYPED_TEST(".toList stub.suite ",Should".toList stub.method.name
    ")\x7b\n".toList (TestStub.setUpLines stub.method.parameters) TestStub.assertions
  rw [hopening, hclosing, hassertions] at hblock
  refine Eq.trans hblock ?_
  simp only [List.append_assoc, List.cons_append, List.nil_append]

/-- A stub adds no suite to a text: its arguments follow another macro, and the parameters that it
sets up hold no comma. -/
theorem lastSuite?_append_stubBlock {a b : Text} {stub : TestStub} (hstub : stub.IsPlain)
    (ha : lastSuite? a = none) (hb : ',' ∉ b) :
    lastSuite? (a ++ (Plan.stubBlock stub ++ b)) = none := by
  have hother : ¬ suiteMacro <:+ a ++ "\nTYPED_TEST".toList := by
    rintro ⟨before, h⟩
    have hsuite : suiteMacro.getLast? = some 'E' := by decide
    have htest : "\nTYPED_TEST".toList.getLast? = some 'T' := by decide
    have hlast := congrArg List.getLast? h
    rw [List.getLast?_append, List.getLast?_append, hsuite, htest, Option.some_or,
      Option.some_or] at hlast
    exact absurd hlast (by decide)
  have hhead : lastSuite? (a ++ "\nTYPED_TEST".toList) = none :=
    lastSuite?_append_eq_none ha (by decide)
  have hname : lastSuite? (stub.suite ++ ",Should".toList ++ stub.method.name) = none :=
    lastSuite?_of_open_not_mem (not_mem_between hstub.suite (by decide) hstub.name)
  have hsetUp : lastSuite? ("\x7b\n".toList ++ TestStub.setUpLines stub.method.parameters ++
      "\tEXPECT_TRUE(2 == 2)".toList) = none :=
    lastSuite?_of_comma_not_mem (not_mem_between (by decide)
      (TestStub.comma_not_mem_setUpLines hstub.parameters) (by decide))
  have hrest : lastSuite? ("\n\tEXPECT_FALSE(2 == 1);\n\tEXPECT_EQUALS(2, 2);\n\x7d\n".toList ++ b) =
      none := lastSuite?_append_eq_none (by decide) hb
  have hclose : IsBarrier ')' := ⟨by decide, by decide, by decide, by decide⟩
  have hsemicolon : IsBarrier ';' := ⟨by decide, by decide, by decide, by decide⟩
  have hall := lastSuite?_append_open_eq_none hother hhead
    (lastSuite?_append_cons_eq_none hclose hname
      (lastSuite?_append_cons_eq_none hsemicolon hsetUp hrest))
  rw [stubBlock_eq]
  simpa only [List.append_assoc, List.cons_append] using hall

end StubGen
