import StubGen.Proofs.FileNames
import StubGen.Proofs.Sessions
import StubGen.Proofs.SuiteNames

/-!
# One suite for all tests of a source

A test joins the last suite that its file declares. The file grows by stubs and mocks whose text
comes from user code, so that this is always the same suite is a fact about every text that a
session can leave.

Results:

1. `leadingNamespaces_unlines_mono`: text that starts with content in front of other text can only
   lower the number of namespaces that are counted.
2. `Carries.lastSuite?_eq`: a text that carries a suite declares it last.
3. `carries_render`, `Carries.place_mock`, `Carries.place_test`: a new test file carries the suite of
   its source, and keeps carrying it when a mock or a stub is placed.
4. `tests_join_one_suite`: so all tests of a session join that suite.
-/

namespace StubGen

open Text Placement

/-! ## 1. Content in front of other text -/

/-- A mock starts with content, so it opens no namespace and hides those behind it. -/
theorem leadingNamespaces_mock (mock : Mock) (rest : Text) :
    leadingNamespaces (mock.render ++ rest) = 0 := by
  have hclass : leadingNamespaces "class ".toList = 0 := by decide
  have hassoc : ∀ start name middle base opening methods closing : Text,
      start ++ name ++ middle ++ base ++ opening ++ methods ++ closing ++ rest =
        start ++ (name ++ middle ++ base ++ opening ++ methods ++ closing ++ rest) := by
    intro start name middle base opening methods closing
    simp only [List.append_assoc]
  have hrender := hassoc "class ".toList mock.name " : public ".toList mock.base "\n\x7b\n".toList
    (Mock.methodSection mock.methods) "\x7d;\n\n".toList
  refine (congrArg leadingNamespaces hrender).trans ?_
  rw [leadingNamespaces_append_of_hasContent (by decide), hclass]

/-- After whole lines, the count follows that of the rest. -/
theorem leadingNamespaces_unlines_mono {a b : Text} (h : leadingNamespaces a ≤ leadingNamespaces b)
    (ls : List Text) : leadingNamespaces (unlines ls ++ a) ≤ leadingNamespaces (unlines ls ++ b) := by
  induction ls with
  | nil => exact h
  | cons line ls ih =>
    simp only [unlines_cons, List.append_assoc, List.cons_append, leadingNamespaces_append]
    split
    · exact Nat.le_refl _
    · omega

/-- What follows a suite opens no namespace. -/
theorem leadingNamespaces_append_suiteMacro (front a b : Text) :
    leadingNamespaces (front ++ (suiteMacro ++ a)) = leadingNamespaces (front ++ (suiteMacro ++ b)) := by
  have hcontent : hasContent (front ++ suiteMacro) = true := by
    rw [hasContent_eq, Bool.or_eq_true, occursIn_iff_isInfix, occursIn_iff_isInfix]
    exact .inr (List.infix_append_of_infix_right ⟨"TYPED_".toList, "_SUITE".toList, by decide⟩)
  rw [← List.append_assoc, ← List.append_assoc, leadingNamespaces_append_of_hasContent hcontent,
    leadingNamespaces_append_of_hasContent hcontent]

/-! ## 2. Texts that carry a suite -/

/-- The text declares the suite at the start of a line and no other suite after it, and enough
closing braces follow for the tests to be placed behind the declaration. -/
structure Carries (suite t : Text) : Prop where
  shape : ∃ ls rest, t = unlines ls ++ (suiteMacro ++ '(' :: (suite ++ ',' :: rest)) ∧
    (∀ l ∈ ls, '\n' ∉ l) ∧ lastSuite? rest = none ∧ leadingNamespaces t ≤ rest.count closer

/-- A name that can be read back from a declaration. -/
structure IsSuiteName (suite : Text) : Prop where
  named : suite ≠ []
  word : ∀ c ∈ suite, isWord c = true

theorem IsSuiteName.not_mem {suite : Text} (h : IsSuiteName suite) {c : Char}
    (hc : isWord c = false) : c ∉ suite := by
  intro hmem
  rw [h.word c hmem] at hc
  cases hc

theorem isSuiteName_append_test {stem : Text} (h : ∀ c ∈ stem, isWord c = true) :
    IsSuiteName (stem ++ "Test".toList) := by
  have hletters : ∀ c ∈ "Test".toList, isWord c = true :=
    List.all_eq_true.mp (by decide +kernel : "Test".toList.all isWord = true)
  refine ⟨List.append_ne_nil_of_right_ne_nil stem (by decide), fun c hc => ?_⟩
  rcases List.mem_append.mp hc with hc | hc
  · exact h c hc
  · exact hletters c hc

theorem lastSuite?_declaration {suite rest : Text} (hsuite : IsSuiteName suite)
    (hrest : lastSuite? rest = none) :
    lastSuite? (suiteMacro ++ '(' :: (suite ++ ',' :: rest)) = some suite := by
  have hcut : suiteMacro = 'T' :: "YPED_TEST_SUITE".toList := by decide
  have hdeclares : DeclaresSuite suite (suiteMacro ++ '(' :: (suite ++ [','])) :=
    ⟨⟨[], [], rfl, by simp, by simp⟩, hsuite.named, hsuite.word⟩
  have hhere : suiteAt? (suiteMacro ++ '(' :: (suite ++ [',']) ++ rest) = some suite :=
    suiteAt?_append_of_declares hdeclares
  have hshort : ¬ suiteMacro <:+ "YPED_TEST_SUITE".toList := by
    intro hsuffix
    exact absurd hsuffix.length_le (by decide)
  have hlater : lastSuite? ("YPED_TEST_SUITE".toList ++ '(' :: (suite ++ ',' :: rest)) = none :=
    lastSuite?_append_open_eq_none hshort (by decide)
      (lastSuite?_append_comma_eq_none (hsuite.not_mem (by decide)) hrest)
  simp only [List.append_assoc, List.cons_append, List.nil_append] at hhere
  rw [hcut, List.cons_append] at hhere ⊢
  rw [lastSuite?, hlater]
  exact hhere

theorem Carries.lastSuite?_eq {suite t : Text} (h : Carries suite t) (hsuite : IsSuiteName suite) :
    lastSuite? t = some suite := by
  obtain ⟨ls, rest, rfl, -, hrest, -⟩ := h.shape
  exact lastSuite?_append_of_some _ (lastSuite?_declaration hsuite hrest)

theorem Carries.ne_nil {suite t : Text} (h : Carries suite t) : t ≠ [] := by
  obtain ⟨ls, rest, rfl, -⟩ := h.shape
  simp

/-! ## 3. One placement -/

/-- A line with a suite is reached at the latest after the lines above it. -/
theorem exists_suiteOffset? {line : Text} (hline : occursIn suiteMacro line = true)
    (ls others : List Text) (previous here : Nat) :
    ∃ offset, suiteOffset? previous here (ls ++ line :: others) = some offset ∧
      (offset = previous ∨
        ∃ done todo, ls = done ++ todo ∧ offset = here + byteSize (unlines done)) := by
  induction ls generalizing previous here with
  | nil => exact ⟨previous, by simp [suiteOffset?, hline], .inl rfl⟩
  | cons l ls ih =>
    by_cases hl : occursIn suiteMacro l = true
    · exact ⟨previous, by simp [suiteOffset?, hl], .inl rfl⟩
    · obtain ⟨offset, hoffset, hwhere⟩ := ih here (here + byteSize l + 1)
      refine ⟨offset, by simp [suiteOffset?, hl, hoffset], .inr ?_⟩
      rcases hwhere with rfl | ⟨done, todo, rfl, rfl⟩
      · exact ⟨[], l :: ls, rfl, by simp⟩
      · refine ⟨l :: done, todo, rfl, ?_⟩
        have hnl : ('\n' : Char).utf8Size = 1 := rfl
        rw [unlines_cons, byteSize_append, byteSize_cons]
        omega

/-- The place before a suite that starts a line is the start of a line above it. -/
theorem exists_beforeSuite? {ls : List Text} (hls : ∀ l ∈ ls, '\n' ∉ l) (rest : Text) :
    ∃ done todo, ls = done ++ todo ∧
      beforeSuite? (unlines ls ++ (suiteMacro ++ rest)) = some (byteSize (unlines done)) := by
  obtain ⟨line, others, hpieces, hline⟩ := exists_suite_line List.not_mem_nil rest
  obtain ⟨offset, hoffset, hwhere⟩ := exists_suiteOffset? hline ls others 0 0
  have hfound : beforeSuite? (unlines ls ++ (suiteMacro ++ rest)) = some offset := by
    rw [List.nil_append] at hpieces
    rw [beforeSuite?, splitOn_unlines_append hls, hpieces, hoffset]
  rcases hwhere with rfl | ⟨done, todo, hsplit, rfl⟩
  · exact ⟨[], ls, rfl, hfound⟩
  · exact ⟨done, todo, hsplit, by rw [hfound, Nat.zero_add]⟩

section

variable {suite t : Text} {point : InsertionPoint}

theorem Mock.exists_unlines_render (mock : Mock) :
    ∃ ls, mock.render = unlines ls ∧ ∀ l ∈ ls, '\n' ∉ l := by
  have hend : "\x7d;\n\n".toList = "\x7d;\n".toList ++ ['\n'] := by decide
  obtain ⟨ls, hls, hnl⟩ := exists_unlines ("class ".toList ++ mock.name ++ " : public ".toList ++
    mock.base ++ "\n\x7b\n".toList ++ methodSection mock.methods ++ "\x7d;\n".toList)
  refine ⟨ls, ?_, hnl⟩
  rw [← hls, List.append_assoc _ _ ['\n'], ← hend]
  rfl

/-- A mock goes above the suite. -/
theorem Carries.place_mock (h : Carries suite t) (mock : Mock)
    (hplace : locate t .mock = .ok point) : Carries suite (apply t point mock.render) := by
  obtain ⟨ls, rest, rfl, hls, hrest, hcount⟩ := h.shape
  obtain ⟨done, todo, rfl, hbefore⟩ := exists_beforeSuite? hls ('(' :: (suite ++ ',' :: rest))
  obtain ⟨ms, hms, hmnl⟩ := mock.exists_unlines_render
  rw [locate, hbefore] at hplace
  cases hplace
  rw [unlines_append, List.append_assoc, apply_beforeSuite]
  refine ⟨⟨done ++ ms ++ todo, rest, ?_, ?_, hrest, ?_⟩⟩
  · simp only [hms, unlines_append, List.append_assoc]
  · intro l hl
    rcases List.mem_append.mp hl with hl | hl
    · rcases List.mem_append.mp hl with hl | hl
      · exact hls l (List.mem_append_left todo hl)
      · exact hmnl l hl
    · exact hls l (List.mem_append_right done hl)
  · rw [unlines_append, List.append_assoc] at hcount
    refine Nat.le_trans ?_ hcount
    rw [List.append_assoc]
    exact leadingNamespaces_unlines_mono (by rw [leadingNamespaces_mock]; exact Nat.zero_le _) done

theorem comma_not_mem_closers (n : Nat) : ',' ∉ (List.replicate n [closer, '\n']).flatten := by
  intro hmem
  obtain ⟨l, hl, hmem⟩ := List.mem_flatten.mp hmem
  rw [List.eq_of_mem_replicate hl] at hmem
  exact absurd hmem (by decide)

/-- A cut in front of the last closing braces lies behind `front` if enough of them do. -/
theorem exists_kept_of_count {front rest before after : Text} (hsplit : front ++ rest = before ++ after)
    (hcount : after.count closer ≤ rest.count closer)
    (hafter : after = [] ∨ after.head? = some closer) :
    ∃ kept, before = front ++ kept ∧ rest = kept ++ after := by
  rcases List.append_eq_append_iff.mp hsplit with ⟨kept, rfl, rfl⟩ | ⟨more, rfl, rfl⟩
  · exact ⟨kept, rfl, rfl⟩
  · cases more with
    | nil => exact ⟨[], by simp, rfl⟩
    | cons c more =>
      rcases hafter with hnil | hhead
      · cases hnil
      · obtain rfl : c = closer := by simpa using hhead
        rw [List.cons_append, List.count_cons_self, List.count_append] at hcount
        omega

/-- A test goes below the suite. -/
theorem Carries.place_test (h : Carries suite t) {stub : TestStub} (hstub : stub.IsPlain)
    (hplace : locate t .test = .ok point) :
    Carries suite (apply t point (Plan.stubBlock stub)) := by
  obtain ⟨offset, hoffset, rfl⟩ := locateInside_eq_ok_iff.mp hplace
  obtain ⟨before, after, hsplit, rfl, hafter, hhead⟩ := insideClosers_eq_ok_iff.mp hoffset
  have happly := apply_insideNamespaces before after (Plan.stubBlock stub) (leadingNamespaces t)
  rw [← hsplit] at happly
  obtain ⟨ls, rest, ht, hls, hrest, hcount⟩ := h.shape
  have hfront : t = (unlines ls ++ (suiteMacro ++ '(' :: (suite ++ [',']))) ++ rest := by
    rw [ht]
    simp only [List.append_assoc, List.cons_append, List.nil_append]
  obtain ⟨kept, rfl, rfl⟩ := exists_kept_of_count (hfront.symm.trans hsplit)
    (by rw [hafter]; exact hcount) hhead
  have hkept : lastSuite? kept = none :=
    lastSuite?_eq_none_of_infix hrest (List.prefix_append kept after).isInfix
  have hnew : unlines ls ++ (suiteMacro ++ '(' :: (suite ++ [','])) ++ kept ++ Plan.stubBlock stub ++
      (List.replicate (leadingNamespaces t) [closer, '\n']).flatten =
      unlines ls ++ (suiteMacro ++ '(' :: (suite ++ ',' :: (kept ++ (Plan.stubBlock stub ++
        (List.replicate (leadingNamespaces t) [closer, '\n']).flatten)))) := by
    simp only [List.append_assoc, List.cons_append, List.nil_append]
  rw [happly, hnew]
  refine ⟨⟨ls, _, rfl, hls, lastSuite?_append_stubBlock hstub hkept (comma_not_mem_closers _), ?_⟩⟩
  rw [leadingNamespaces_append_suiteMacro _ _ ('(' :: (suite ++ ',' :: (kept ++ after))), ← ht,
    List.count_append, List.count_append, count_closers]
  omega

end

/-! ## 4. The first test -/

theorem comma_not_mem_fixture {suite : Text} (h : ',' ∉ suite) : ',' ∉ TestFile.fixture suite := by
  unfold TestFile.fixture
  refine not_mem_between (not_mem_between (not_mem_between (by decide) h (by decide +kernel)) h
    (by decide +kernel)) h (by decide +kernel)

/-- A new test file carries its suite. -/
theorem carries_render {headerName suite : Text} (hheader : '\n' ∉ headerName)
    (hsuite : IsSuiteName suite) {stub : TestStub} (hstub : stub.IsPlain) :
    Carries suite (TestFile.render headerName suite stub.render) := by
  have hcomma : ',' ∉ suite := hsuite.not_mem (by decide)
  obtain ⟨ls, hls, hnl⟩ := exists_unlines (TestFile.includes headerName ++ TestFile.namespaceOpening ++
    ['\n'] ++ TestFile.aliasLine suite)
  have hsplit : TestFile.render headerName suite stub.render = unlines ls ++ (suiteMacro ++ '(' ::
      (suite ++ ',' :: ((suite ++ "Types);\n".toList ++ ('\n' :: TestFile.fixture suite)) ++
        (Plan.stubBlock stub ++ TestFile.namespaceClosing)))) := by
    rw [← hls, TestFile.render, TestFile.suiteDeclaration_eq, Plan.stubBlock]
    simp only [List.append_assoc, List.cons_append, List.nil_append]
  have hcount : leadingNamespaces (TestFile.render headerName suite stub.render) ≤ 2 := by
    rw [TestFile.render_eq_layout, TestFile.leadingNamespaces_layout,
      TestFile.countedNamespaces_of_single_line hheader]
    split
    · exact Nat.zero_le 2
    · exact Nat.le_refl 2
  have hbefore : ',' ∉ suite ++ "Types);\n".toList ++ ('\n' :: TestFile.fixture suite) :=
    not_mem_between hcomma (by decide)
      (List.not_mem_cons_of_ne_of_not_mem (by decide) (comma_not_mem_fixture hcomma))
  refine ⟨⟨ls, _, hsplit, hnl, lastSuite?_append_stubBlock hstub
    (lastSuite?_of_comma_not_mem hbefore) (by decide), ?_⟩⟩
  have hclosing : TestFile.namespaceClosing.count closer = 2 := by decide
  simp only [List.count_append, hclosing]
  omega

/-! ## 5. Sessions -/

namespace Memory

/-- The call writes a test for the source, or a mock into the target. -/
def Call.IsInto (source target : Path) : Call → Prop
  | .test called _ _ _ => called = source
  | .mock _ _ _ into => into.same target = true

/-- The tests of the source go to the target, and that carries the suite. -/
structure Joins (mem : Memory) (source target : Path) (suite : Text) : Prop where
  dir : ∃ dir, mem.dirs.get? source = some dir ∧ testFileIn dir source = target
  text : Carries suite (mem.textAt target)

/-- The plan adds one more test of the suite to the target: a stub, after which only closing braces
follow. -/
structure AddsTest (mem : Memory) (source target : Path) (suite sourceText anchor : Text)
    (plan : Plan) : Prop where
  path : plan.path = target
  stub : ∃ stub closers, TestStub.generate (Plan.namesOf source) sourceText anchor
      (some (mem.textAt target)) = .ok stub ∧ stub.suite = suite ∧
    plan.text = Plan.stubBlock stub ++ (List.replicate closers [closer, '\n']).flatten

theorem textAt_eq_of_same (mem : Memory) {p q : Path} (h : p.same q = true) :
    mem.textAt p = mem.textAt q := by
  rw [textAt, textAt, PathMap.get?_eq_of_same mem.files h]

theorem present?_get?_files {mem : Memory} {path : Path} (h : mem.textAt path ≠ []) :
    Plan.present? (mem.files.get? path) = some (mem.textAt path) := by
  unfold textAt at h ⊢
  cases hfile : mem.files.get? path with
  | none =>
    rw [hfile] at h
    exact absurd rfl h
  | some t =>
    rw [hfile] at h
    exact Plan.present?_eq_some_iff.mpr ⟨rfl, h⟩

theorem Wrote.textAt_eq {mem after : Memory} {kind : BlockKind} {block : Text} {plan : Plan}
    (h : mem.Wrote after kind block plan) (hne : mem.textAt plan.path ≠ []) :
    ∃ point, locate (mem.textAt plan.path) kind = .ok point ∧
      after.textAt plan.path = apply (mem.textAt plan.path) point block := by
  obtain ⟨point, hplace, hfile⟩ := h.placed hne
  exact ⟨point, hplace, by rw [textAt, hfile]; rfl⟩

section

variable {mem : Memory} {source target : Path} {suite sourceText anchor : Text}
  {chosen : Option Path} {plan : Plan}

/-- A test that is written for the source goes to the target and joins the suite. -/
theorem Joins.call_test (h : mem.Joins source target suite) (hsuite : IsSuiteName suite)
    (hok : (mem.call (.test source sourceText anchor chosen)).1 = .ok plan) :
    ∃ stub, TestStub.generate (Plan.namesOf source) sourceText anchor
        (some (mem.textAt target)) = .ok stub ∧ stub.suite = suite ∧
      plan.Fits target .test (mem.files.get? target)
        (TestFile.render (Plan.namesOf source).headerName stub.suite stub.render)
        (Plan.stubBlock stub) ∧
      (mem.call (.test source sourceText anchor chosen)).2.files = (mem.carryOut plan).files := by
  obtain ⟨out, hout, htest, hpath, hafter⟩ := call_test_eq_ok hok
  obtain ⟨dir, hdir, rfl⟩ := h.dir
  obtain ⟨hchosen, -⟩ := chooseDir_eq_ok_iff.mp hout
  rw [hdir, Option.some_or] at hchosen
  cases hchosen
  obtain ⟨-, stub, hstub, hfits⟩ := Plan.test_eq_ok_iff.mp htest
  rw [present?_get?_files h.text.ne_nil] at hstub
  obtain ⟨hjoined, -⟩ := TestStub.generate_eq_ok hstub
  rw [Option.bind_some, h.text.lastSuite?_eq hsuite] at hjoined
  exact ⟨stub, hstub, hjoined, hfits, by rw [hafter, files_remember]⟩

theorem Joins.addsTest (h : mem.Joins source target suite) (hsuite : IsSuiteName suite)
    (hok : (mem.call (.test source sourceText anchor chosen)).1 = .ok plan) :
    mem.AddsTest source target suite sourceText anchor plan := by
  obtain ⟨stub, hstub, hjoined, hfits, -⟩ := h.call_test hsuite hok
  have hpath := hfits.path_eq
  have hpresent := present?_get?_files h.text.ne_nil
  cases hfits with
  | creates habsent =>
    rw [hpresent] at habsent
    cases habsent
  | inserts hcurrent hplace =>
    obtain ⟨offset, -, rfl⟩ := locateInside_eq_ok_iff.mp hplace
    exact ⟨hpath, stub, _, hstub, hjoined, rfl⟩

/-- One call keeps the tests of a source together. -/
theorem Joins.call (h : mem.Joins source target suite) (hsuite : IsSuiteName suite) {c : Call}
    (hc : c.IsInto source target) : (mem.call c).2.Joins source target suite := by
  cases hanswer : (mem.call c).1 with
  | error e =>
    rw [call_error_eq hanswer]
    exact h
  | ok plan =>
    obtain ⟨dir, hdir, htarget⟩ := h.dir
    refine ⟨⟨dir, by rw [get?_dirs_call, hdir, Option.some_or], htarget⟩, ?_⟩
    cases c with
    | test called sourceText anchor chosen =>
      obtain rfl : called = source := hc
      obtain ⟨stub, hstub, hjoined, hfits, hfiles⟩ := h.call_test hsuite hanswer
      have hplain : stub.IsPlain :=
        TestStub.isPlain_of_generate hstub (by rw [hjoined]; exact hsuite.not_mem (by decide))
      obtain rfl := hfits.path_eq
      obtain ⟨point, hplace, htext⟩ := (wrote_of_fits hfits hfiles).textAt_eq h.text.ne_nil
      rw [htext]
      exact h.text.place_test hplain hplace
    | mock header headerText anchor into =>
      obtain ⟨hplan, hafter⟩ := call_mock_eq_ok hanswer
      obtain ⟨-, mock, -, hfits⟩ := Plan.mock_eq_ok_iff.mp hplan
      obtain rfl := hfits.path_eq
      have hbefore := h.text
      rw [← textAt_eq_of_same mem hc] at hbefore
      obtain ⟨point, hplace, htext⟩ :=
        (wrote_of_fits hfits (congrArg Memory.files hafter)).textAt_eq hbefore.ne_nil
      rw [← textAt_eq_of_same _ hc, htext]
      exact hbefore.place_mock mock hplace

theorem Joins.after (h : mem.Joins source target suite) (hsuite : IsSuiteName suite)
    {calls : List Call} (hcalls : ∀ c ∈ calls, c.IsInto source target) :
    (mem.after calls).Joins source target suite := by
  induction calls generalizing mem with
  | nil => exact h
  | cons c calls ih =>
    rw [after_cons]
    exact ih (h.call hsuite (hcalls c List.mem_cons_self))
      fun c' hc' => hcalls c' (List.mem_cons_of_mem c hc')

/-- A test that brings its file starts the suite of its source. -/
theorem joins_of_created {stem : Text} (hfile : (Plan.namesOf source).fileName = stem ++ ".cpp".toList)
    (hword : ∀ c ∈ stem, isWord c = true)
    (hok : (mem.call (.test source sourceText anchor chosen)).1 = .ok plan)
    (hcreated : plan.created = true) :
    (mem.call (.test source sourceText anchor chosen)).2.Joins source plan.path
        (stem ++ "Test".toList) ∧
      ∃ stub, TestStub.generate (Plan.namesOf source) sourceText anchor none = .ok stub ∧
        stub.suite = stem ++ "Test".toList ∧
        plan.text = TestFile.render (Plan.namesOf source).headerName stub.suite stub.render := by
  have hsuite := isSuiteName_append_test hword
  have hnames := SourceNames.ofPath_eq_ofStem List.mem_cons_self hfile
  have hheader : (Plan.namesOf source).headerName = stem ++ ".h".toList :=
    congrArg SourceNames.headerName hnames
  have hname : (Plan.namesOf source).suiteName = stem ++ "Test".toList :=
    congrArg SourceNames.suiteName hnames
  obtain ⟨out, -, htest, -, hafter⟩ := call_test_eq_ok hok
  obtain ⟨dir, hdir, hpath⟩ := get?_dirs_call_test hok
  obtain ⟨-, stub, hstub, hfits⟩ := Plan.test_eq_ok_iff.mp htest
  cases hfits with
  | inserts hpresent hplace => cases hcreated
  | creates habsent =>
    rw [habsent] at hstub
    have hjoined : stub.suite = stem ++ "Test".toList := (TestStub.generate_eq_ok hstub).1.trans hname
    have hplain : stub.IsPlain :=
      TestStub.isPlain_of_generate hstub (by rw [hjoined]; exact hsuite.not_mem (by decide))
    have hnl : '\n' ∉ (Plan.namesOf source).headerName := by
      rw [hheader, List.mem_append, not_or]
      refine ⟨fun hmem => ?_, by decide⟩
      exact absurd (hword _ hmem) (by decide)
    refine ⟨⟨⟨dir, hdir, hpath.symm⟩, ?_⟩, stub, hstub, hjoined, rfl⟩
    have hsame : (testFileIn out.dir source).same (testFileIn out.dir source) = true :=
      beq_self_eq_true _
    have hstart := takeBytes_byteSize_append [] (mem.textAt (testFileIn out.dir source))
    rw [byteSize_nil, List.nil_append] at hstart
    rw [textAt, hafter, files_remember, get?_files_carryOut, if_pos hsame, hstart, ← hjoined]
    exact carries_render hnl (hjoined ▸ hsuite) hplain

/-- All tests of a source join one suite. A session starts with a test that brings the missing or
empty file of a source, and goes on with tests for that source and mocks into that file, which may
also fail. Then every stub that is written carries the suite named after the source, and after each
step that is the suite that the file declares last. -/
theorem tests_join_one_suite {stem : Text}
    (hfile : (Plan.namesOf source).fileName = stem ++ ".cpp".toList)
    (hword : ∀ c ∈ stem, isWord c = true)
    (hok : (mem.call (.test source sourceText anchor chosen)).1 = .ok plan)
    (hcreated : plan.created = true) {calls : List Call}
    (hcalls : ∀ c ∈ calls, c.IsInto source plan.path) :
    (∃ stub, TestStub.generate (Plan.namesOf source) sourceText anchor none = .ok stub ∧
      stub.suite = stem ++ "Test".toList ∧
      plan.text = TestFile.render (Plan.namesOf source).headerName stub.suite stub.render) ∧
    ∀ before later, calls = before ++ later →
      lastSuite? ((mem.after (.test source sourceText anchor chosen :: before)).textAt plan.path) =
        some (stem ++ "Test".toList) ∧
      ∀ sourceText' anchor' chosen' later' plan',
        later = .test source sourceText' anchor' chosen' :: later' →
        ((mem.after (.test source sourceText anchor chosen :: before)).call
          (.test source sourceText' anchor' chosen')).1 = .ok plan' →
        (mem.after (.test source sourceText anchor chosen :: before)).AddsTest source plan.path
          (stem ++ "Test".toList) sourceText' anchor' plan' := by
  have hsuite := isSuiteName_append_test hword
  obtain ⟨hjoins, hfirst⟩ := joins_of_created hfile hword hok hcreated
  refine ⟨hfirst, ?_⟩
  rintro before later rfl
  have hbefore := hjoins.after hsuite fun c hc => hcalls c (List.mem_append_left later hc)
  rw [after_cons]
  refine ⟨hbefore.text.lastSuite?_eq hsuite, ?_⟩
  rintro sourceText' anchor' chosen' later' plan' - hok'
  exact hbefore.addsTest hsuite hok'

end

/-- A mocked method whose parameters look like a suite does not lead the tests of a widget astray. -/
theorem tests_join_one_suite_widget :
    ∃ first mock plan,
      first = .test (Path.ofText "Widget.cpp".toList) "void Widget::run()".toList
        "void Widget::run()".toList (some (Path.ofText "out".toList)) ∧
      mock = .mock (Path.ofText "IWidget.h".toList)
        "class IWidget\n\x7b\nvirtual int f(TYPED_TEST_SUITE(A,B)) = 0;\n\x7d;\n".toList
        "class IWidget".toList (Path.ofText "out//WidgetTest.cpp".toList) ∧
      (empty.call first).1 = .ok plan ∧ ((empty.call first).2.call mock).1.isOk = true ∧
      lastSuite? ((empty.after [first, mock]).textAt plan.path) = some "WidgetTest".toList := by
  have hgenerate : TestStub.generate (Plan.namesOf (Path.ofText "Widget.cpp".toList))
      "void Widget::run()".toList "void Widget::run()".toList none =
      .ok ⟨"WidgetTest".toList, ⟨"void".toList, "run".toList, [], "()".toList, false⟩⟩ := by rfl
  have hkind : (Path.ofText "Widget.cpp".toList).hasEnding sourceEnding = true := by decide +kernel
  have htest := Plan.test_none_eq hkind hgenerate
    (testFileIn (Path.ofText "out".toList) (Path.ofText "Widget.cpp".toList))
  have hplan := (@planTest_eq_ok_iff empty _ _ _ (some (Path.ofText "out".toList))
    ⟨Path.ofText "out".toList, true⟩ _).mpr ⟨hkind, rfl, htest⟩
  have hok := (answer_writeTest empty _ _ _ (some (Path.ofText "out".toList))).trans
    (congrArg (Except.map Prod.snd) hplan)
  refine ⟨_, _, _, rfl, rfl, hok, by decide +kernel, ?_⟩
  have hinto : ∀ c ∈ [Call.mock (Path.ofText "IWidget.h".toList)
      "class IWidget\n\x7b\nvirtual int f(TYPED_TEST_SUITE(A,B)) = 0;\n\x7d;\n".toList
      "class IWidget".toList (Path.ofText "out//WidgetTest.cpp".toList)],
      c.IsInto (Path.ofText "Widget.cpp".toList)
        (testFileIn (Path.ofText "out".toList) (Path.ofText "Widget.cpp".toList)) := by
    intro c hc
    obtain rfl := List.mem_singleton.mp hc
    show Path.same _ _ = true
    decide +kernel
  have hword : ∀ c ∈ "Widget".toList, isWord c = true :=
    List.all_eq_true.mp (by decide +kernel : "Widget".toList.all isWord = true)
  exact ((tests_join_one_suite (by rfl) hword hok rfl hinto).2 _ [] (List.append_nil _).symm).1

end Memory

end StubGen
