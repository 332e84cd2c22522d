import StubGen.Proofs.Placement
import StubGen.TestFile

/-!
# The layout of a growing test file

A test file starts as `TestFile.render` and grows by one block at a time. Each placement searches
the whole text again, so that the layout survives is a fact about every text that the earlier
placements can have left.

Results:

1. `leadingNamespaces_opening`: how many namespaces placement counts in a test file depends on the
   name of its header only.
2. `locate_layout_test`, `locate_layout_mock`: the two places in a file that has the layout.
3. `place_layout`: one placement keeps the layout.
4. `placeAll_render`: so does any sequence of placements, and the order in which mocks and tests
   alternate does not show in the result.
-/

namespace StubGen

open Text Placement

namespace TestFile

/-! ## 1. The opening part -/

/-- The line that includes a header. -/
def includeLine (name : Text) : Text := "#include \"".toList ++ name ++ ['"']

/-- The headers that all test files include. -/
def commonHeaders : List Text :=
  ["pch.h".toList, "iostream".toList, "gtest/gtest.h".toList, "gmock/gmock.h".toList,
    "gmock/gmock-generated-function-mockers.h".toList]

/-- The namespaces and what they use, up to the first line with content. -/
def namespaceLines : Text :=
  "namespace unittest \x7b\nnamespace UnitTesters \x7b\n".toList ++
    usedNames.flatMap (fun name => "using testing::".toList ++ name ++ ";\n".toList) ++
    '\n' :: "template <typename T>\n".toList ++ "class TemplatedCopyable".toList

theorem includes_eq (headerName : Text) :
    includes headerName =
      unlines (commonHeaders.map includeLine) ++ (includeLine headerName ++ ['\n', '\n']) := by
  -- The line ends belong to the lines in the definition and between them here.
  have hline : (fun name => "#include \"".toList ++ name ++ "\"\n".toList) =
      fun name => includeLine name ++ ['\n'] := by
    funext name
    exact (List.append_assoc ("#include \"".toList ++ name) ['"'] ['\n']).symm
  have hall : includes headerName =
      (commonHeaders ++ [headerName]).flatMap (fun name => includeLine name ++ ['\n']) ++ ['\n'] := by
    rw [← hline]
    rfl
  rw [hall, unlines, List.flatMap_map, List.flatMap_append, List.flatMap_singleton]
  simp only [List.append_assoc, List.singleton_append]

theorem namespaceOpening_eq : ∃ body, namespaceOpening = namespaceLines ++ '\n' :: body := by
  have hprefix : namespaceLines ++ ['\n'] <+: namespaceOpening := by decide +kernel
  obtain ⟨body, hbody⟩ := hprefix
  exact ⟨body, by rw [← hbody, List.append_assoc, List.singleton_append]⟩

theorem leadingNamespaces_commonHeaders {name : Text} (h : name ∈ commonHeaders) :
    leadingNamespaces (includeLine name) = 0 ∧
    (lines (includeLine name)).any hasContent = false := by
  revert name
  decide +kernel

theorem leadingNamespaces_namespaceLines :
    leadingNamespaces namespaceLines = 2 ∧ (lines namespaceLines).any hasContent = true := by
  decide +kernel

/-- Lines that neither open a namespace nor have content are passed over. -/
theorem leadingNamespaces_unlines_append {ls : List Text} (rest : Text)
    (h : ∀ l ∈ ls, leadingNamespaces l = 0 ∧ (lines l).any hasContent = false) :
    leadingNamespaces (unlines ls ++ rest) = leadingNamespaces rest := by
  induction ls with
  | nil => rfl
  | cons l ls ih =>
    obtain ⟨hzero, hnone⟩ := h l List.mem_cons_self
    rw [unlines_cons, List.append_assoc, List.cons_append, leadingNamespaces_append, hzero, hnone,
      if_neg Bool.false_ne_true, Nat.zero_add]
    exact ih fun m hm => h m (List.mem_cons_of_mem l hm)

/-- The namespaces that placement counts in a test file: those that the include of its header seems
to open, and the two that the file does open unless that include seems to have content. -/
def countedNamespaces (headerName : Text) : Nat :=
  leadingNamespaces (includeLine headerName) +
    if (lines (includeLine headerName)).any hasContent then 0 else 2

theorem leadingNamespaces_opening (headerName rest : Text) :
    leadingNamespaces (includes headerName ++ namespaceOpening ++ rest) =
      countedNamespaces headerName := by
  obtain ⟨body, hbody⟩ := namespaceOpening_eq
  have hsplit : includes headerName ++ namespaceOpening ++ rest =
      unlines (commonHeaders.map includeLine) ++ (includeLine headerName ++ '\n' :: ([] ++ '\n' ::
        (namespaceLines ++ '\n' :: (body ++ rest)))) := by
    rw [includes_eq, hbody]
    simp only [List.append_assoc, List.cons_append, List.nil_append]
  have hempty : leadingNamespaces [] = 0 ∧ (lines []).any hasContent = false := by decide
  rw [hsplit, leadingNamespaces_unlines_append]
  · simp only [leadingNamespaces_append, leadingNamespaces_namespaceLines, hempty,
      Bool.false_eq_true, ↓reduceIte, Nat.zero_add, Nat.add_zero, countedNamespaces]
  · intro l hl
    obtain ⟨name, hname, rfl⟩ := List.mem_map.mp hl
    exact leadingNamespaces_commonHeaders hname

theorem newline_not_mem_includeLine {headerName : Text} (hnl : '\n' ∉ headerName) :
    '\n' ∉ includeLine headerName :=
  not_mem_between (by decide) hnl (by decide)

/-- A word without a quotation mark stands in the include of a header only within its name. -/
theorem occursIn_includeLine {word : Text} (hquote : '"' ∉ word)
    (hinclude : occursIn word "#include ".toList = false) (headerName : Text) :
    occursIn word (includeLine headerName) = occursIn word headerName := by
  have hstart : "#include \"".toList = "#include ".toList ++ ['"'] := by decide
  have hsplit : includeLine headerName = "#include ".toList ++ ['"'] ++ headerName ++ ['"'] :=
    congrArg (· ++ headerName ++ ['"']) hstart
  have hnil : occursIn word [] = false := by
    rw [occursIn_eq_false_iff] at hinclude ⊢
    exact fun h => hinclude (h.trans List.nil_infix)
  rw [hsplit, List.append_assoc, List.append_assoc, List.singleton_append,
    occursIn_append_cons hquote, occursIn_append_cons hquote, hinclude, hnil, Bool.false_or,
    Bool.or_false]

/-- On one line, the include of a header has content exactly if its name has. -/
theorem hasContent_includeLine (headerName : Text) :
    hasContent (includeLine headerName) =
      (occursIn "class".toList headerName || occursIn "TEST".toList headerName) := by
  rw [hasContent_eq, occursIn_includeLine (by decide) (by decide),
    occursIn_includeLine (by decide) (by decide)]

theorem includeLine_eq (headerName : Text) :
    includeLine headerName = '#' :: ("include \"".toList ++ headerName ++ ['"']) := by
  have hstart : "#include \"".toList = '#' :: "include \"".toList := by decide
  exact congrArg (· ++ headerName ++ ['"']) hstart

/-- The include of a header on one line. -/
theorem lines_includeLine {headerName : Text} (hnl : '\n' ∉ headerName) :
    lines (includeLine headerName) = [includeLine headerName] := by
  have hreturn : dropReturn (includeLine headerName) = includeLine headerName :=
    dropReturn_concat (by decide)
  rw [lines_of_not_mem (newline_not_mem_includeLine hnl), hreturn]

theorem opensNamespace_includeLine (headerName : Text) :
    opensNamespace (includeLine headerName) = false := by
  have hhash : ∀ rest, "namespace".toList.isPrefixOf ('#' :: rest) = false := fun _ => by rfl
  rw [opensNamespace, includeLine_eq, trim_cons_concat (by decide) (by decide), hhash]

/-- With a header whose name is on one line, placement counts both namespaces or none, and none
exactly if the name holds a word that ends the opening part. -/
theorem countedNamespaces_of_single_line {headerName : Text} (hnl : '\n' ∉ headerName) :
    countedNamespaces headerName =
      if occursIn "class".toList headerName || occursIn "TEST".toList headerName then 0 else 2 := by
  rw [countedNamespaces, leadingNamespaces, lines_includeLine hnl, ← hasContent_includeLine]
  simp [countOpening, opensNamespace_includeLine]

/-! ## 2. Places in the layout -/

/-- A test file with mocks before its suite and more tests after the first one. -/
def layout (headerName suite mocks firstTest tests : Text) : Text :=
  includes headerName ++ namespaceOpening ++ ['\n'] ++ mocks ++ suiteDeclaration suite ++ ['\n'] ++
    fixture suite ++ ['\n'] ++ firstTest ++ ['\n'] ++ tests ++ namespaceClosing

theorem render_eq_layout (headerName suite firstTest : Text) :
    render headerName suite firstTest = layout headerName suite [] firstTest [] := by
  rw [render, layout, List.append_nil, List.append_nil]

/-- Text that can stand before a suite without hiding it: whole lines that do not hold its macro. -/
structure IsMockText (t : Text) : Prop where
  whole : t = [] ∨ t.getLast? = some '\n'
  plain : occursIn suiteMacro t = false

instance (t : Text) : Decidable (IsMockText t) :=
  decidable_of_iff ((t = [] ∨ t.getLast? = some '\n') ∧ occursIn suiteMacro t = false)
    ⟨fun h => ⟨h.1, h.2⟩, fun h => ⟨h.whole, h.plain⟩⟩

theorem isMockText_nil : IsMockText [] := by decide

theorem IsMockText.append {a b : Text} (ha : IsMockText a) (hb : IsMockText b) :
    IsMockText (a ++ b) := by
  rcases ha.whole with rfl | hlast
  · exact hb
  obtain ⟨a', rfl⟩ : ∃ a', a = a' ++ ['\n'] := List.getLast?_eq_some_iff.mp hlast
  have hplain : occursIn suiteMacro (a' ++ '\n' :: b) = false := by
    have ha' := ha.plain
    rw [occursIn_append_cons newline_not_mem_suiteMacro, Bool.or_eq_false_iff] at ha' ⊢
    exact ⟨ha'.1, hb.plain⟩
  refine ⟨.inr ?_, ?_⟩
  · rcases hb.whole with rfl | hb
    · rw [List.append_nil]
      exact hlast
    · rw [List.getLast?_append, hb]
      rfl
  · rw [List.append_assoc, List.singleton_append]
    exact hplain

/-- The line that names the types of a suite. -/
def aliasLine (suite : Text) : Text :=
  "using ".toList ++ suite ++ "Types = ::testing::Types<bool>;".toList

theorem suiteDeclaration_eq (suite : Text) : suiteDeclaration suite = aliasLine suite ++
    '\n' :: (suiteMacro ++ '(' :: (suite ++ ',' :: (suite ++ "Types);\n".toList))) := by
  have hend : "Types = ::testing::Types<bool>;\n".toList =
      "Types = ::testing::Types<bool>;".toList ++ ['\n'] := by decide
  have hassoc : ∀ start stop rest : Text,
      start ++ suite ++ (stop ++ ['\n']) ++ suiteMacro ++ ['('] ++ suite ++ [','] ++ suite ++ rest =
        start ++ suite ++ stop ++
          '\n' :: (suiteMacro ++ '(' :: (suite ++ ',' :: (suite ++ rest))) := by
    intro start stop rest
    simp only [List.append_assoc, List.cons_append, List.nil_append]
  have hfirst := congrArg (fun line => "using ".toList ++ suite ++ line ++ suiteMacro ++ ['('] ++
    suite ++ [','] ++ suite ++ "Types);\n".toList) hend
  exact hfirst.trans (hassoc _ _ _)

theorem newline_not_mem_aliasLine {suite : Text} (hnl : '\n' ∉ suite) : '\n' ∉ aliasLine suite :=
  not_mem_between (by decide) hnl (by decide)

/-- The macro does not stand across the end of a suite's name in the line above it. -/
theorem occursIn_aliasLine {suite : Text} (h : occursIn suiteMacro suite = false) :
    occursIn suiteMacro (aliasLine suite) = false := by
  have hstart : "using ".toList = "using".toList ++ [' '] := by decide
  have hend : "Types = ::testing::Types<bool>;".toList =
      'T' :: 'y' :: "pes = ::testing::Types<bool>;".toList := by decide
  have hsplit : aliasLine suite = "using".toList ++ [' '] ++ suite ++
      'T' :: 'y' :: "pes = ::testing::Types<bool>;".toList :=
    (congrArg (· ++ suite ++ "Types = ::testing::Types<bool>;".toList) hstart).trans
      (congrArg ("using".toList ++ [' '] ++ suite ++ ·) hend)
  have hassoc : ∀ start stop : Text, start ++ [' '] ++ suite ++ 'T' :: 'y' :: stop =
      start ++ ' ' :: ((suite ++ ['T']) ++ 'y' :: stop) := by
    intro start stop
    simp only [List.append_assoc, List.cons_append, List.nil_append]
  have husing : occursIn suiteMacro "using".toList = false := by decide
  have htypes : occursIn suiteMacro "pes = ::testing::Types<bool>;".toList = false := by decide
  -- A blank and a small letter keep the macro within the name and the `T` after it.
  rw [hsplit, hassoc, occursIn_append_cons (by decide), occursIn_append_cons (by decide), husing,
    htypes, occursIn_concat_eq_false (by decide) h]
  rfl

/-- Nothing in front of the suite holds its macro. -/
theorem occursIn_beforeSuite {headerName mocks : Text}
    (htest : occursIn "TEST".toList headerName = false) (hmocks : IsMockText mocks) :
    occursIn suiteMacro (includes headerName ++ namespaceOpening ++ ['\n'] ++ mocks) = false := by
  have hnl := newline_not_mem_suiteMacro
  have hcommon : ∀ l ∈ commonHeaders.map includeLine, occursIn suiteMacro l = false := by
    decide +kernel
  have hopening : occursIn suiteMacro namespaceOpening = false := by decide +kernel
  have hpart : "TEST".toList <:+: suiteMacro := ⟨"TYPED_".toList, "_SUITE".toList, by decide⟩
  have hheader : occursIn suiteMacro (includeLine headerName) = false := by
    rw [occursIn_includeLine (by decide) (by decide)]
    exact occursIn_eq_false_of_infix hpart htest
  have hsplit : includes headerName ++ namespaceOpening ++ ['\n'] ++ mocks =
      unlines (commonHeaders.map includeLine) ++ (includeLine headerName ++ '\n' :: ([] ++ '\n' ::
        (namespaceOpening ++ '\n' :: mocks))) := by
    rw [includes_eq]
    simp only [List.append_assoc, List.cons_append, List.nil_append]
  rw [hsplit, occursIn_unlines_append hnl _ hcommon, occursIn_append_cons hnl,
    occursIn_append_cons hnl, occursIn_append_cons hnl, hheader, hopening, hmocks.plain]
  rfl

theorem layout_eq_append_tests (headerName suite mocks firstTest : Text) :
    ∃ before, ∀ tests, layout headerName suite mocks firstTest tests =
      before ++ tests ++ namespaceClosing :=
  ⟨_, fun _ => rfl⟩

theorem layout_eq_append_mocks (headerName suite firstTest tests : Text) :
    ∃ after, ∀ mocks, layout headerName suite mocks firstTest tests =
      includes headerName ++ namespaceOpening ++ ['\n'] ++ mocks ++ after := by
  refine ⟨suiteDeclaration suite ++ (['\n'] ++ fixture suite ++ ['\n'] ++ firstTest ++ ['\n'] ++ tests ++
    namespaceClosing), fun mocks => ?_⟩
  simp only [layout, List.append_assoc]

theorem leadingNamespaces_layout (headerName suite mocks firstTest tests : Text) :
    leadingNamespaces (layout headerName suite mocks firstTest tests) =
      countedNamespaces headerName := by
  obtain ⟨after, hsplit⟩ := layout_eq_append_mocks headerName suite firstTest tests
  rw [hsplit, List.append_assoc, List.append_assoc, leadingNamespaces_opening]

/-- The place is right before the closing braces of a test file exactly if two are asked for. -/
theorem insideClosers_closing_iff {before : Text} {count : Nat} :
    insideClosers (before ++ namespaceClosing) count = .ok (byteSize before) ↔ count = 2 := by
  have hclosing : namespaceClosing.count closer = 2 := by decide
  rw [insideClosers_eq_ok_iff]
  constructor
  · rintro ⟨before', after, hsplit, hsize, hcount, -⟩
    -- Two splits of one text at the same offset are the same.
    have hbefore : before' = before := by
      rw [← takeBytes_byteSize_append before' after, hsize, ← hsplit, takeBytes_byteSize_append]
    rw [hbefore] at hsplit
    rw [← hcount, ← List.append_cancel_left hsplit, hclosing]
  · rintro rfl
    exact ⟨before, namespaceClosing, rfl, rfl, hclosing, .inr (by decide)⟩

/-- In a file with the layout, the place of a test is right before the closing braces. -/
theorem locate_layout_test {headerName suite mocks firstTest tests before : Text}
    (hcount : countedNamespaces headerName = 2)
    (hsplit : layout headerName suite mocks firstTest tests = before ++ namespaceClosing) :
    locate (layout headerName suite mocks firstTest tests) .test =
      .ok ⟨byteSize before, 2, .insideNamespaces⟩ := by
  rw [locate, locateInside, leadingNamespaces_layout, hcount, hsplit,
    insideClosers_closing_iff.mpr rfl]
  rfl

/-- In a file with the layout, the place of a mock is right before the suite. -/
theorem locate_layout_mock {headerName suite mocks : Text}
    (htest : occursIn "TEST".toList headerName = false) (hnl : '\n' ∉ suite)
    (hsuite : occursIn suiteMacro suite = false) (hmocks : IsMockText mocks) (firstTest tests : Text) :
    locate (layout headerName suite mocks firstTest tests) .mock =
      .ok ⟨byteSize (includes headerName ++ namespaceOpening ++ ['\n'] ++ mocks), 0, .beforeSuite⟩ := by
  -- What stands before the suite is whole lines, the last of which may be a mock's or the file's.
  have hwhole : (includes headerName ++ namespaceOpening ++ ['\n'] ++ mocks).getLast? = some '\n' := by
    rcases hmocks.whole with rfl | hlast
    · rw [List.append_nil, List.getLast?_concat]
    · rw [List.getLast?_append, hlast]
      rfl
  obtain ⟨arguments, hdecl⟩ : ∃ arguments,
      suiteDeclaration suite = aliasLine suite ++ '\n' :: (suiteMacro ++ arguments) :=
    ⟨_, suiteDeclaration_eq suite⟩
  obtain ⟨after, hsplit⟩ : ∃ after, layout headerName suite mocks firstTest tests =
      includes headerName ++ namespaceOpening ++ ['\n'] ++ mocks ++
        (aliasLine suite ++ '\n' :: ([] ++ (suiteMacro ++ after))) := by
    refine ⟨arguments ++ (['\n'] ++ fixture suite ++ ['\n'] ++ firstTest ++ ['\n'] ++ tests ++
      namespaceClosing), ?_⟩
    rw [layout, hdecl]
    simp only [List.append_assoc, List.cons_append, List.nil_append]
  rw [locate, hsplit, beforeSuite?_append (.inr hwhole) (occursIn_beforeSuite htest hmocks)
    (newline_not_mem_aliasLine hnl) (occursIn_aliasLine hsuite) List.not_mem_nil]

/-! ## 3. One placement -/

/-- Names that placement takes for what they are: each on one line, the header's without a word that
ends the opening part, and the suite's without the macro of suites. -/
structure PlainNames (headerName suite : Text) : Prop where
  header_line : '\n' ∉ headerName
  header_class : occursIn "class".toList headerName = false
  header_test : occursIn "TEST".toList headerName = false
  suite_line : '\n' ∉ suite
  suite_plain : occursIn suiteMacro suite = false

/-- The texts of the blocks of one kind, in order. -/
def textsOf (kind : BlockKind) (blocks : List Block) : Text :=
  (blocks.filter (·.kind = kind)).flatMap (·.text)

@[simp] theorem textsOf_nil (kind : BlockKind) : textsOf kind [] = [] := rfl

@[simp] theorem textsOf_cons (kind : BlockKind) (b : Block) (blocks : List Block) :
    textsOf kind (b :: blocks) =
      (if b.kind = kind then b.text else []) ++ textsOf kind blocks := by
  by_cases h : b.kind = kind <;> simp [textsOf, h]

/-- One placement adds its block to the blocks of its kind and changes nothing else. -/
theorem place_layout {headerName suite mocks : Text} (hnames : PlainNames headerName suite)
    (hmocks : IsMockText mocks) (firstTest tests : Text) (b : Block) :
    ∃ point, place (layout headerName suite mocks firstTest tests) b =
      .ok (point, layout headerName suite (mocks ++ if b.kind = .mock then b.text else []) firstTest
        (tests ++ if b.kind = .test then b.text else [])) := by
  obtain ⟨kind, block⟩ := b
  cases kind with
  | test =>
    have hcount : countedNamespaces headerName = 2 := by
      rw [countedNamespaces_of_single_line hnames.header_line, hnames.header_class,
        hnames.header_test]
      rfl
    obtain ⟨before, hlayout⟩ := layout_eq_append_tests headerName suite mocks firstTest
    have hclosing : (List.replicate 2 [closer, '\n']).flatten = namespaceClosing := by decide
    refine ⟨⟨byteSize (before ++ tests), 2, .insideNamespaces⟩, ?_⟩
    rw [place, locate_layout_test hcount (hlayout tests), Except.map, if_neg (by simp),
      if_pos rfl, List.append_nil, hlayout tests, hlayout (tests ++ block), apply_insideNamespaces,
      hclosing, List.append_assoc before]
  | mock =>
    obtain ⟨after, hlayout⟩ := layout_eq_append_mocks headerName suite firstTest tests
    have hplace := locate_layout_mock hnames.header_test hnames.suite_line hnames.suite_plain
      hmocks firstTest tests
    refine ⟨⟨byteSize (includes headerName ++ namespaceOpening ++ ['\n'] ++ mocks), 0,
      .beforeSuite⟩, ?_⟩
    rw [place, hplace, Except.map, if_pos rfl, if_neg (by simp), List.append_nil, hlayout mocks,
      hlayout (mocks ++ block), apply_beforeSuite, List.append_assoc _ mocks]

/-! ## 4. Any sequence of placements -/

theorem placeAll_layout {headerName suite : Text} (hnames : PlainNames headerName suite)
    (firstTest tests : Text) {blocks : List Block} {mocks : Text} (hmocks : IsMockText mocks)
    (hblocks : ∀ b ∈ blocks, b.kind = .mock → IsMockText b.text) :
    (∀ answer ∈ placeAll (layout headerName suite mocks firstTest tests) blocks,
      ∃ point new, answer = .ok (point, new)) ∧
    finalText (layout headerName suite mocks firstTest tests)
        (placeAll (layout headerName suite mocks firstTest tests) blocks) =
      layout headerName suite (mocks ++ textsOf .mock blocks) firstTest
        (tests ++ textsOf .test blocks) := by
  -- The layout itself is the invariant, so the mocks and tests that are there already vary.
  induction blocks generalizing mocks tests with
  | nil =>
    refine ⟨fun answer h => absurd h List.not_mem_nil, ?_⟩
    rw [textsOf_nil, textsOf_nil, List.append_nil, List.append_nil]
    rfl
  | cons b blocks ih =>
    obtain ⟨point, hplace⟩ := place_layout hnames hmocks firstTest tests b
    have hblock : IsMockText (if b.kind = .mock then b.text else []) := by
      split
      · next hkind => exact hblocks b List.mem_cons_self hkind
      · exact isMockText_nil
    obtain ⟨hok, hfinal⟩ := ih (tests ++ if b.kind = .test then b.text else [])
      (hmocks.append hblock) fun b' hb' => hblocks b' (List.mem_cons_of_mem b hb')
    rw [placeAll_cons_ok hplace, finalText_cons_ok, textsOf_cons, textsOf_cons,
      ← List.append_assoc mocks, ← List.append_assoc tests]
    refine ⟨fun answer h => ?_, hfinal⟩
    rcases List.mem_cons.mp h with rfl | h
    · exact ⟨point, _, rfl⟩
    · exact hok answer h

/-- Layout of a test file over any sequence of placements: with plain names, no block is left without
a place, whatever the tests hold, and the result is the first file with the mocks in order before
its suite and the tests in order before its closing braces. -/
theorem placeAll_render {headerName suite : Text} (hnames : PlainNames headerName suite)
    (firstTest : Text) {blocks : List Block}
    (hblocks : ∀ b ∈ blocks, b.kind = .mock → IsMockText b.text) :
    (∀ answer ∈ placeAll (render headerName suite firstTest) blocks,
      ∃ point new, answer = .ok (point, new)) ∧
    finalText (render headerName suite firstTest)
        (placeAll (render headerName suite firstTest) blocks) =
      includes headerName ++ namespaceOpening ++ ['\n'] ++ textsOf .mock blocks ++
        suiteDeclaration suite ++ ['\n'] ++ fixture suite ++ ['\n'] ++ firstTest ++ ['\n'] ++
        textsOf .test blocks ++ namespaceClosing := by
  rw [render_eq_layout]
  exact placeAll_layout hnames firstTest [] isMockText_nil hblocks

/-- Tests may hold braces, namespaces and even suites without leading later blocks astray. -/
theorem placeAll_render_widget :
    finalText (render "Widget.h".toList "WidgetTest".toList "TEST(A,B)".toList)
        (placeAll (render "Widget.h".toList "WidgetTest".toList "TEST(A,B)".toList)
          [⟨.test, "\x7d\nnamespace a \x7b\nTYPED_TEST_SUITE(B,C);".toList⟩,
            ⟨.mock, "class AMock;\n".toList⟩, ⟨.test, "\x7d".toList⟩,
            ⟨.mock, "namespace b \x7b\n".toList⟩]) =
      includes "Widget.h".toList ++ namespaceOpening ++ ['\n'] ++
        "class AMock;\nnamespace b \x7b\n".toList ++ suiteDeclaration "WidgetTest".toList ++ ['\n'] ++
        fixture "WidgetTest".toList ++ ['\n'] ++ "TEST(A,B)".toList ++ ['\n'] ++
        "\x7d\nnamespace a \x7b\nTYPED_TEST_SUITE(B,C);\x7d".toList ++ namespaceClosing := by
  have hnames : PlainNames "Widget.h".toList "WidgetTest".toList :=
    ⟨by decide, by decide, by decide, by decide, by decide⟩
  exact (placeAll_render hnames "TEST(A,B)".toList (by decide)).2

end TestFile

end StubGen
