import StubGen.Proofs.Layout
import StubGen.Proofs.Plan

/-!
# A second test for a new test file

A new test file is planned as a whole and the next test is planned against its text. The search for
the namespaces starts in the include of the header, whose name comes from the source: a name with a
word that ends the opening part hides both namespaces.

Results:

1. `occursIn_headerName`: the name of a header holds the words that the name of its source holds.
2. `test_second_eq`: where the second test goes depends on the counted namespaces only.
3. `test_second_inside_iff`: it goes inside both namespaces exactly if both are counted, and a name on
   one line keeps them from being counted exactly if it holds one of two words.
-/

namespace StubGen

open Text Placement

/-! ## 1. Names of headers -/

theorem swapEnding_eq (old new fileName : Text) :
    (∃ stem, fileName = stem ++ old ∧ swapEnding old new fileName = stem ++ new) ∨
    swapEnding old new fileName = fileName := by
  unfold swapEnding
  cases h : stripEnd? old fileName with
  | none => exact .inr rfl
  | some stem => exact .inl ⟨stem, stripEnd?_eq_some_iff.mp h, rfl⟩

theorem swapEnding_append (stem old new : Text) : swapEnding old new (stem ++ old) = stem ++ new := by
  rw [swapEnding, stripEnd?_eq_some_iff.mpr rfl]

namespace SourceNames

theorem headerName_eq (path : Text) :
    (∃ stem, (ofPath path).fileName = stem ++ '.' :: ['c', 'p', 'p'] ∧
      (ofPath path).headerName = stem ++ '.' :: ['h']) ∨
    (ofPath path).headerName = (ofPath path).fileName :=
  swapEnding_eq _ _ _

/-- A word that does not reach into the ending is in the name of a header exactly if it is in the
name of its source. -/
theorem occursIn_headerName (path : Text) {word : Text} (hdot : '.' ∉ word)
    (hcpp : occursIn word ['c', 'p', 'p'] = false) (hh : occursIn word ['h'] = false) :
    occursIn word (ofPath path).headerName = occursIn word (ofPath path).fileName := by
  rcases headerName_eq path with ⟨stem, hfile, hheader⟩ | hsame
  · rw [hfile, hheader, occursIn_append_cons hdot, occursIn_append_cons hdot, hcpp, hh]
  · rw [hsame]

theorem newline_not_mem_headerName {path : Text} (hnl : '\n' ∉ (ofPath path).fileName) :
    '\n' ∉ (ofPath path).headerName := by
  rcases headerName_eq path with ⟨stem, hfile, hheader⟩ | hsame
  · rw [hfile, List.mem_append, not_or] at hnl
    rw [hheader, List.mem_append, not_or]
    exact ⟨hnl.1, by decide⟩
  · rw [hsame]
    exact hnl

end SourceNames

/-- The text of an existing test file decides about the suite of a stub only. -/
theorem TestStub.generate_eq_map (names : SourceNames) (source anchor : Text)
    (existing : Option Text) :
    generate names source anchor existing = (generate names source anchor none).map fun stub =>
      { stub with suite := (existing.bind lastSuite?).getD names.suiteName } := by
  simp only [generate, bind, Except.bind]
  cases findAnchor (lines source) anchor with
  | error e => rfl
  | ok i =>
    dsimp only
    cases signatureFrom ((lines source).getD i []) ((lines source).drop (i + 1)) with
    | error e => rfl
    | ok signature =>
      dsimp only
      cases Declaration.parse signature.1 with
      | error e => rfl
      | ok method => rfl

theorem TestStub.exists_generate {names : SourceNames} {source anchor : Text} {stub : TestStub}
    (h : generate names source anchor none = .ok stub) (existing : Option Text) :
    ∃ stub', generate names source anchor existing = .ok stub' := by
  rw [generate_eq_map, h]
  exact ⟨_, rfl⟩

namespace Plan

open TestFile

/-- The namespaces that are counted in the test file of a source with its name on one line. -/
theorem countedNamespaces_namesOf {source : Path} (hnl : '\n' ∉ (namesOf source).fileName) :
    countedNamespaces (namesOf source).headerName =
      if occursIn "class".toList (namesOf source).fileName ||
        occursIn "TEST".toList (namesOf source).fileName then 0 else 2 := by
  rw [namesOf] at hnl ⊢
  rw [countedNamespaces_of_single_line (SourceNames.newline_not_mem_headerName hnl),
    SourceNames.occursIn_headerName _ (by decide) (by decide) (by decide),
    SourceNames.occursIn_headerName _ (by decide) (by decide) (by decide)]

/-! ## 2. Where the second test goes -/

section

variable {source target : Path} {sourceText firstAnchor anchor : Text} {first : Plan}
  {stub : TestStub}

theorem test_none_eq (hkind : source.hasEnding sourceEnding = true)
    (hstub : TestStub.generate (namesOf source) sourceText anchor none = .ok stub) (target : Path) :
    test source sourceText anchor target none =
      .ok ⟨target, 0, render (namesOf source).headerName stub.suite stub.render, true⟩ :=
  test_eq_ok_iff.mpr ⟨hkind, stub, hstub, .creates rfl⟩

theorem test_first_eq (hfirst : test source sourceText firstAnchor target none = .ok first) :
    ∃ suite firstTest, first.text = layout (namesOf source).headerName suite [] firstTest [] := by
  obtain ⟨-, firstStub, -, hfits⟩ := test_eq_ok_iff.mp hfirst
  cases hfits with
  | creates habsent => exact ⟨firstStub.suite, firstStub.render, render_eq_layout _ _ _⟩
  | inserts hpresent hplace => cases hpresent

theorem leadingNamespaces_first
    (hfirst : test source sourceText firstAnchor target none = .ok first) :
    leadingNamespaces first.text = countedNamespaces (namesOf source).headerName := by
  obtain ⟨suite, firstTest, htext⟩ := test_first_eq hfirst
  rw [htext, leadingNamespaces_layout]

theorem first_ends_with_closing
    (hfirst : test source sourceText firstAnchor target none = .ok first) :
    ∃ before, first.text = before ++ namespaceClosing := by
  obtain ⟨suite, firstTest, htext⟩ := test_first_eq hfirst
  obtain ⟨before, hlayout⟩ := layout_eq_append_tests (namesOf source).headerName suite [] firstTest
  exact ⟨before ++ [], htext.trans (hlayout [])⟩

/-- The second test is followed by as many closing braces as namespaces are counted, and goes in
front of the last ones of that number. -/
theorem test_second_eq (hfirst : test source sourceText firstAnchor target none = .ok first)
    (hstub : TestStub.generate (namesOf source) sourceText anchor (some first.text) = .ok stub) :
    test source sourceText anchor target (some first.text) =
      (insideClosers first.text (countedNamespaces (namesOf source).headerName)).map fun offset =>
        ⟨target, offset, stubBlock stub ++ (List.replicate
          (countedNamespaces (namesOf source).headerName) [closer, '\n']).flatten, false⟩ := by
  have hkind : checkFileKind source sourceEnding = .ok () :=
    checkFileKind_eq_ok_iff.mpr (test_eq_ok_iff.mp hfirst).1
  have hpresent : present? (some first.text) = some first.text := by
    obtain ⟨before, hclosing⟩ := first_ends_with_closing hfirst
    refine present?_eq_some_iff.mpr ⟨rfl, ?_⟩
    rw [hclosing]
    exact List.append_ne_nil_of_right_ne_nil before (by decide)
  -- The first file has text, so the second plan is an insertion, and only its place can fail.
  rw [test, hkind, hpresent, ← leadingNamespaces_first hfirst]
  simp only [bind, Except.bind, hstub, insertion, locate, locateInside]
  cases insideClosers first.text (leadingNamespaces first.text) with
  | error e => rfl
  | ok offset => rfl

/-! ## 3. Inside or outside -/

/-- The second test goes inside both namespaces exactly if both are counted. For a source with its
name on one line, that is so unless the name holds `class` or `TEST`; if it does, the test goes after
the closing braces of the file. -/
theorem test_second_inside_iff
    (hfirst : test source sourceText firstAnchor target none = .ok first)
    (hstub : TestStub.generate (namesOf source) sourceText anchor (some first.text) = .ok stub) :
    ((∃ second, test source sourceText anchor target (some first.text) = .ok second ∧
        second.offset + 4 = byteSize first.text ∧
        second.text = stubBlock stub ++ namespaceClosing) ↔
      countedNamespaces (namesOf source).headerName = 2) ∧
    ('\n' ∉ (namesOf source).fileName →
      test source sourceText anchor target (some first.text) = .ok
        (if occursIn "class".toList (namesOf source).fileName ||
            occursIn "TEST".toList (namesOf source).fileName then
          ⟨target, byteSize first.text, stubBlock stub, false⟩
        else ⟨target, byteSize first.text - 4, stubBlock stub ++ namespaceClosing, false⟩)) := by
  obtain ⟨before, hclosing⟩ := first_ends_with_closing hfirst
  have hsize : byteSize first.text = byteSize before + 4 := by
    rw [hclosing, byteSize_append]
    rfl
  have hbraces : (List.replicate 2 [closer, '\n']).flatten = namespaceClosing := by decide
  have htwo : insideClosers first.text 2 = .ok (byteSize before) := by
    rw [hclosing]
    exact insideClosers_closing_iff.mpr rfl
  rw [test_second_eq hfirst hstub]
  refine ⟨⟨?_, fun hcount => ?_⟩, fun hnl => ?_⟩
  · rintro ⟨second, hsecond, hoffset, -⟩
    cases hplace : insideClosers first.text (countedNamespaces (namesOf source).headerName) with
    | error e =>
      rw [hplace] at hsecond
      cases hsecond
    | ok offset =>
      rw [hplace] at hsecond
      cases hsecond
      obtain rfl : offset = byteSize before := by
        simp only at hoffset
        omega
      rw [hclosing] at hplace
      exact insideClosers_closing_iff.mp hplace
  · rw [hcount, htwo, hbraces]
    exact ⟨_, rfl, hsize.symm, rfl⟩
  · rw [countedNamespaces_namesOf hnl]
    split
    · rw [insideClosers_zero, List.replicate_zero, List.flatten_nil, List.append_nil]
      rfl
    · rw [htwo, hbraces, hsize, Nat.add_sub_cancel]
      rfl

end

/-- A second test for a widget goes inside both namespaces. -/
theorem test_second_inside_widget :
    ∃ first second stub, test (Path.ofText "Widget.cpp".toList) "void Widget::run()\n".toList
        "void Widget::run()".toList (Path.ofText "WidgetTest.cpp".toList) none = .ok first ∧
      test (Path.ofText "Widget.cpp".toList) "void Widget::run()\n".toList
        "void Widget::run()".toList (Path.ofText "WidgetTest.cpp".toList) (some first.text) =
        .ok second ∧
      second.offset + 4 = byteSize first.text ∧
      second.text = stubBlock stub ++ namespaceClosing := by
  have hgenerate : TestStub.generate (namesOf (Path.ofText "Widget.cpp".toList))
      "void Widget::run()\n".toList "void Widget::run()".toList none =
      .ok ⟨"WidgetTest".toList, ⟨"void".toList, "run".toList, [], "()".toList, false⟩⟩ := by rfl
  have hfirst := test_none_eq (by decide +kernel) hgenerate (Path.ofText "WidgetTest.cpp".toList)
  obtain ⟨stub, hstub⟩ := TestStub.exists_generate hgenerate (some _)
  obtain ⟨second, hsecond⟩ := (test_second_inside_iff hfirst hstub).1.mpr (by decide +kernel)
  exact ⟨_, second, stub, hfirst, hsecond⟩

/-- A second test for a subclass goes after the closing braces, because the name of the source holds
the word `class`. -/
theorem test_second_outside_subclass :
    ∃ first second stub, test (Path.ofText "Subclass.cpp".toList) "void Subclass::run()\n".toList
        "void Subclass::run()".toList (Path.ofText "SubclassTest.cpp".toList) none = .ok first ∧
      TestStub.generate (namesOf (Path.ofText "Subclass.cpp".toList))
        "void Subclass::run()\n".toList "void Subclass::run()".toList (some first.text) = .ok stub ∧
      test (Path.ofText "Subclass.cpp".toList) "void Subclass::run()\n".toList
        "void Subclass::run()".toList (Path.ofText "SubclassTest.cpp".toList) (some first.text) =
        .ok second ∧
      second.offset + 4 ≠ byteSize first.text ∧ second.text = stubBlock stub := by
  have hgenerate : TestStub.generate (namesOf (Path.ofText "Subclass.cpp".toList))
      "void Subclass::run()\n".toList "void Subclass::run()".toList none =
      .ok ⟨"SubclassTest".toList, ⟨"void".toList, "run".toList, [], "()".toList, false⟩⟩ := by rfl
  have hfirst := test_none_eq (by decide +kernel) hgenerate (Path.ofText "SubclassTest.cpp".toList)
  obtain ⟨stub, hstub⟩ := TestStub.exists_generate hgenerate (some _)
  have hcount : countedNamespaces (namesOf (Path.ofText "Subclass.cpp".toList)).headerName = 0 := by
    decide +kernel
  have hsecond := test_second_eq hfirst hstub
  rw [hcount, insideClosers_zero, List.replicate_zero, List.flatten_nil, List.append_nil] at hsecond
  exact ⟨_, _, stub, hfirst, hstub, hsecond, by simp, rfl⟩

end Plan

end StubGen
