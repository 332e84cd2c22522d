import StubGen.Proofs.Balance
import StubGen.Proofs.Grammar
import StubGen.Proofs.Layout
import StubGen.Proofs.ParameterLists

/-!
# Braces in test stubs

A stub has two braces of its own. All others come from the parameter list, which is cut at its commas
wherever they stand. A part without a name is left out of the stub, so the braces of a default
argument with a comma in it can be written in part.

Results:

1. `depth?_braces`: only the braces of a text matter for its balance.
2. `braces_setUpLines`: the braces of the lines that set up the parameters are those of the parts of
   the list that have a name.
3. `balanced_stub`: exactly when a stub and a test file with it are balanced, and that they are if
   the parameter list is and so is each part of it that has no name.
4. `unbalanced_default_argument`: a balanced list is not enough.
-/

namespace StubGen

open Text

/-! ## 1. The braces of a text -/

namespace Text

def isBrace (c : Char) : Bool := c == opener || c == Placement.closer

/-- The braces of a text, in order. -/
def braces (t : Text) : Text := t.filter isBrace

theorem braces_append (s t : Text) : braces (s ++ t) = braces s ++ braces t := List.filter_append s t

theorem braces_cons {c : Char} (h : isBrace c = false) (t : Text) : braces (c :: t) = braces t :=
  List.filter_cons_of_neg (by simp [h])

theorem depthStep?_of_not_isBrace {c : Char} (h : isBrace c = false) (depth : Nat) :
    depthStep? depth c = some depth := by
  rw [isBrace, Bool.or_eq_false_iff, beq_eq_false_iff_ne, beq_eq_false_iff_ne] at h
  rw [depthStep?, if_neg h.1, if_neg h.2]

/-- Only the braces of a text matter for its balance. -/
theorem depth?_braces (depth : Nat) (t : Text) : depth? depth (braces t) = depth? depth t := by
  induction t generalizing depth with
  | nil => rfl
  | cons c t ih =>
    cases hc : isBrace c with
    | true =>
      rw [braces, List.filter_cons_of_pos hc, depth?, depth?, List.foldlM_cons, List.foldlM_cons]
      exact congrArg (depthStep? depth c).bind (funext ih)
    | false =>
      rw [braces, List.filter_cons_of_neg (by simp [hc])]
      refine (ih depth).trans ?_
      rw [depth?, depth?, List.foldlM_cons, depthStep?_of_not_isBrace hc]
      rfl

theorem depth?_congr {s t : Text} (h : braces s = braces t) (depth : Nat) :
    depth? depth s = depth? depth t := by
  rw [← depth?_braces depth s, h, depth?_braces]

/-- Inside a pair of braces a text stands one brace deeper. -/
theorem depth?_enclosed {depth : Nat} {t : Text} :
    depth? depth (opener :: (t ++ [Placement.closer])) = some depth ↔
      depth? (depth + 1) t = some (depth + 1) := by
  rw [depth?_cons_eq_some_iff]
  constructor
  · rintro ⟨next, hopen, hrest⟩
    obtain ⟨last, ht, hclose⟩ := depth?_append_eq_some_iff.mp hrest
    cases hopen
    cases last with
    | zero => cases hclose
    | succ last =>
      cases hclose
      exact ht
  · intro ht
    exact ⟨depth + 1, rfl, depth?_append_eq_some_iff.mpr ⟨depth + 1, ht, rfl⟩⟩

/-- Taking balanced parts away does not change where the others leave off. -/
theorem depth?_flatten_filter {keep : Text → Bool} {l : List Text}
    (hother : ∀ piece ∈ l, keep piece = false → Balanced piece) {depth last : Nat}
    (h : depth? depth l.flatten = some last) :
    depth? depth (l.filter keep).flatten = some last := by
  induction l generalizing depth with
  | nil => exact h
  | cons piece l ih =>
    obtain ⟨hpiece, hrest⟩ := List.forall_mem_cons.mp hother
    rw [List.flatten_cons, depth?_append_eq_some_iff] at h
    obtain ⟨next, hfirst, h⟩ := h
    cases hkeep : keep piece with
    | true =>
      rw [List.filter_cons_of_pos hkeep, List.flatten_cons, depth?_append_eq_some_iff]
      exact ⟨next, hfirst, ih hrest h⟩
    | false =>
      rw [(hpiece hkeep).depth?_eq] at hfirst
      cases hfirst
      rw [List.filter_cons_of_neg (by simp [hkeep])]
      exact ih hrest h

end Text

/-! ## 2. Braces of parameters -/

namespace Parameter

/-- The parts of a list with a blank within them: those that give a parameter with a name. -/
def namedPieces (body : Text) : List Text :=
  (body.splitOn ',').filter fun piece => (trim piece).any isBlank

/-- A type with a known literal has no brace, and neither has the literal. -/
theorem braces_initializer? {typeName literal : Text} (h : initializer? typeName = some literal) :
    braces typeName = [] ∧ braces literal = [] := by
  unfold initializer? at h
  simp only [Bool.or_eq_true, beq_iff_eq] at h
  split at h
  · next htype =>
    cases h
    rcases htype with rfl | rfl
    · decide
    · decide
  · split at h
    · next htype =>
      cases h
      subst htype
      decide
    · split at h
      · next htype =>
        cases h
        subst htype
        decide
      · cases h

theorem braces_setUp (p : Parameter) :
    braces p.setUp = if p.isNamed then braces (p.typeName ++ p.name) else [] := by
  have hequals : braces ['='] = [] := by decide
  have hspace : braces [' '] = [] := by decide
  have hend : braces ";\n".toList = [] := by decide
  rw [setUp]
  split
  · split
    · next literal hliteral =>
      obtain ⟨htype, hnone⟩ := braces_initializer? hliteral
      simp only [braces_append, braces_cons (show isBrace '\t' = false by decide), hequals, hnone,
        hend, htype, List.append_nil, List.nil_append]
    · simp only [braces_append, braces_cons (show isBrace '\t' = false by decide), hspace, hend,
        List.append_nil]
  · rfl

theorem braces_setUpLines_eq (ps : List Parameter) :
    braces (TestStub.setUpLines ps) =
      braces ((ps.filter isNamed).flatMap fun p => p.typeName ++ p.name) := by
  rw [TestStub.setUpLines]
  induction ps with
  | nil => rfl
  | cons p ps ih =>
    rw [List.flatMap_cons, braces_append, ih, braces_setUp]
    split
    · next hnamed => rw [List.filter_cons_of_pos hnamed, List.flatMap_cons, ← braces_append]
    · next hnamed => rw [List.filter_cons_of_neg hnamed, List.nil_append]

/-- The parameters with a name are those of the parts with a blank within them. -/
theorem filter_isNamed_parseList (body : Text) :
    (parseList body).filter isNamed =
      (namedPieces body).map fun piece => ofPiece (trim piece) := by
  rw [parseList_eq, namedPieces]
  split
  · next hvoid =>
    obtain ⟨piece, hpiece, hwords⟩ := List.map_eq_singleton_iff.mp (trim_eq_void_iff.mp hvoid)
    have htrim : trim piece = "void".toList := trim_eq_of_words_eq hwords
    rw [hpiece, List.filter_cons_of_neg (by rw [htrim]; decide)]
    rfl
  · rw [List.filter_map, filledPieces, List.filter_filter]
    refine congrArg (List.map _) (List.filter_congr fun piece hpiece => ?_)
    have hcomma : ',' ∉ piece := (of_mem_splitOn hpiece).1
    by_cases hfilled : trim piece = []
    · simp [hfilled]
    · have hunnamed := (spells_ofPiece hcomma hfilled).unnamed_iff
      rw [Bool.eq_iff_iff]
      simp [isNamed, hfilled, hunnamed]

/-- The braces of the lines that set up parameters are those of the parts with a name. -/
theorem braces_setUpLines (body : Text) :
    braces (TestStub.setUpLines (parseList body)) = braces (namedPieces body).flatten := by
  have hkeep : ∀ c, isBlank c = true → isBrace c = false := by
    intro c hc
    rw [isBrace, Bool.or_eq_false_iff, beq_eq_false_iff_ne, beq_eq_false_iff_ne]
    constructor
    · rintro rfl
      exact absurd hc (by decide)
    · rintro rfl
      exact absurd hc (by decide)
  rw [braces_setUpLines_eq, filter_isNamed_parseList]
  refine filter_flatMap_ofPiece hkeep fun piece hpiece => ?_
  obtain ⟨hmem, hblank⟩ := List.mem_filter.mp hpiece
  refine ⟨(of_mem_splitOn hmem).1, fun hnil => ?_⟩
  rw [hnil] at hblank
  cases hblank

/-- The parts of a balanced list that have a name are balanced together if each of the others is
balanced on its own. -/
theorem balanced_namedPieces {body : Text} (hbody : Balanced body)
    (hother : ∀ piece ∈ body.splitOn ',', (trim piece).any isBlank = false → Balanced piece) :
    Balanced (namedPieces body).flatten := by
  have hsame : braces (body.splitOn ',').flatten = braces body := by
    rw [flatten_splitOn, braces, List.filter_filter]
    refine List.filter_congr fun c _ => ?_
    by_cases hcomma : c = ','
    · subst hcomma
      rfl
    · simp [hcomma]
  exact depth?_flatten_filter hother ((depth?_congr hsame 0).trans hbody)

end Parameter

/-! ## 3. Stubs and test files -/

namespace TestFile

theorem braces_includes {header : Text} (h : braces header = []) : braces (includes header) = [] := by
  have hcommon : braces (unlines (commonHeaders.map includeLine)) = [] := by decide +kernel
  have hstart : braces "#include \"".toList = [] := by decide
  have hquote : braces ['"'] = [] := by decide
  have hend : braces ['\n', '\n'] = [] := by decide
  rw [includes_eq]
  unfold includeLine at hcommon ⊢
  simp only [braces_append, hcommon, hstart, h, hquote, hend, List.append_nil]

theorem braces_suiteDeclaration {suite : Text} (h : braces suite = []) :
    braces (suiteDeclaration suite) = [] := by
  have hfixed : braces "using ".toList = [] ∧
      braces "Types = ::testing::Types<bool>;\n".toList = [] ∧ braces suiteMacro = [] ∧
      braces ['('] = [] ∧ braces [','] = [] ∧ braces "Types);\n".toList = [] := by decide +kernel
  unfold suiteDeclaration
  simp only [braces_append, hfixed, h, List.append_nil]

/-- A fixture has the braces of its class, its constructor and its destructor. -/
theorem braces_fixture {suite : Text} (h : braces suite = []) :
    braces (fixture suite) = braces (fixture []) := by
  unfold fixture
  simp only [braces_append, h]
  rfl

/-- The front of a test file leaves both namespaces open. -/
theorem depth?_front {header suite : Text} (hheader : braces header = [])
    (hsuite : braces suite = []) :
    depth? 0 (includes header ++ namespaceOpening ++ ['\n'] ++ suiteDeclaration suite ++ ['\n'] ++
      fixture suite ++ ['\n']) = some 2 := by
  have hfixed : depth? 0 (namespaceOpening ++ ['\n'] ++ ['\n'] ++ fixture [] ++ ['\n']) = some 2 := by
    decide +kernel
  refine (depth?_congr ?_ 0).trans hfixed
  simp only [braces_append, braces_includes hheader, braces_suiteDeclaration hsuite,
    braces_fixture hsuite, List.append_nil, List.nil_append]

/-- A test in a test file stands two braces deep. -/
theorem balanced_render_iff {header suite first : Text} (hheader : braces header = [])
    (hsuite : braces suite = []) :
    Balanced (render header suite first) ↔ depth? 2 first = some 2 := by
  have hfront := depth?_front hheader hsuite
  have hclosing : ∀ depth, depth? depth (['\n'] ++ namespaceClosing) = some 0 ↔ depth = 2 :=
    fun depth => @depth?_closers_eq_zero_iff depth 2
  unfold Text.Balanced render
  rw [List.append_assoc _ _ namespaceClosing, depth?_append_eq_some_iff]
  constructor
  · rintro ⟨last, hbefore, hafter⟩
    obtain ⟨depth, hopened, hfirst⟩ := depth?_append_eq_some_iff.mp hbefore
    obtain rfl : 2 = depth := Option.some.inj (hfront.symm.trans hopened)
    obtain rfl := (hclosing last).mp hafter
    exact hfirst
  · intro hfirst
    exact ⟨2, depth?_append_eq_some_iff.mpr ⟨2, hfront, hfirst⟩, (hclosing 2).mpr rfl⟩

end TestFile

namespace TestStub

theorem braces_render {s : TestStub} (hsuite : braces s.suite = [])
    (hname : braces s.method.name = []) :
    braces s.render = opener :: (braces (setUpLines s.method.parameters) ++ [Placement.closer]) := by
  have hfixed : braces "TYPED_TEST(".toList = [] ∧ braces ",Should".toList = [] ∧
      braces ")\x7b\n".toList = [opener] ∧ braces assertions = [] ∧
      braces ['\x7d'] = [Placement.closer] := by decide +kernel
  unfold render
  simp only [braces_append, hfixed, hsuite, hname, List.append_nil, List.nil_append,
    List.cons_append]

/-- The lines that set up the parameters stand one brace deeper than the stub. -/
theorem depth?_render {s : TestStub} (hsuite : braces s.suite = []) (hname : braces s.method.name = [])
    (depth : Nat) :
    depth? depth s.render = some depth ↔
      depth? (depth + 1) (setUpLines s.method.parameters) = some (depth + 1) := by
  rw [← depth?_braces depth s.render, braces_render hsuite hname, depth?_enclosed, depth?_braces]

/-- A stub is balanced exactly if the parts of its parameter list that have a name, taken together,
open as many braces as they close and at no point close more than one brace more than they open. In a
test file it is three braces, since the stub stands inside two namespaces. Both are balanced if the
list is and so is each part of it that has no name. -/
theorem balanced_stub {line suite header : Text} {d : Declaration}
    (hparse : Declaration.parse line = .ok d) (hname : braces d.name = [])
    (hsuite : braces suite = []) (hheader : braces header = []) :
    (Balanced (render ⟨suite, d⟩) ↔
      depth? 1 (Parameter.namedPieces d.parameterBody).flatten = some 1) ∧
    (Balanced (TestFile.render header suite (render ⟨suite, d⟩)) ↔
      depth? 3 (Parameter.namedPieces d.parameterBody).flatten = some 3) ∧
    (Balanced d.parameterText →
      (∀ piece ∈ d.parameterBody.splitOn ',', (trim piece).any isBlank = false →
        Balanced piece) →
      Balanced (render ⟨suite, d⟩) ∧
        Balanced (TestFile.render header suite (render ⟨suite, d⟩))) := by
  obtain ⟨hread, htext⟩ :=
    Declaration.parameterBody_eq (Declaration.parse_eq_ok_iff_declares.mp hparse)
  have hlines : braces (setUpLines d.parameters) =
      braces (Parameter.namedPieces d.parameterBody).flatten := by
    rw [← hread, Parameter.braces_setUpLines]
  have hdepth : ∀ depth, depth? depth (render ⟨suite, d⟩) = some depth ↔
      depth? (depth + 1) (Parameter.namedPieces d.parameterBody).flatten = some (depth + 1) := by
    intro depth
    rw [depth?_render hsuite hname, depth?_congr hlines]
  have hstub := hdepth 0
  have hfile := (TestFile.balanced_render_iff hheader hsuite).trans (hdepth 2)
  refine ⟨hstub, hfile, fun hbalanced hother => ?_⟩
  have hbody : Balanced d.parameterBody := by
    rw [← htext, Text.Balanced, ← depth?_braces] at hbalanced
    rw [Text.Balanced, ← depth?_braces]
    simpa [braces_append, braces_cons (show isBrace '(' = false by decide),
      show braces [')'] = [] by decide] using hbalanced
  have hnamed := Parameter.balanced_namedPieces hbody hother
  exact ⟨hstub.mpr (hnamed.depth?_eq 1), hfile.mpr (hnamed.depth?_eq 3)⟩

/-- Braces around commas, where each part with a brace in it has a name. -/
theorem balanced_stub_nested :
    let line := "void f(Foo x = \x7b 1, \x7b 2 \x7d, int n = 3 \x7d, int)".toList
    let d : Declaration := ⟨"void".toList, ['f'], [⟨"Foo x = \x7b".toList, ['1']⟩,
      ⟨"\x7b 2".toList, ['\x7d']⟩, ⟨"int n = 3".toList, ['\x7d']⟩, ⟨"int".toList, []⟩],
      "(Foo x = \x7b 1, \x7b 2 \x7d, int n = 3 \x7d, int)".toList, false⟩
    Declaration.parse line = .ok d ∧ Balanced d.parameterText ∧
      Balanced (render ⟨"FTest".toList, d⟩) ∧
      Balanced (TestFile.render "F.h".toList "FTest".toList (render ⟨"FTest".toList, d⟩)) := by
  intro line d
  have hparse : Declaration.parse line = .ok d := by rfl
  have htext : Balanced d.parameterText := by decide +kernel
  have hother : ∀ piece ∈ d.parameterBody.splitOn ',', (trim piece).any isBlank = false →
      Balanced piece := by decide +kernel
  obtain ⟨-, -, hbalanced⟩ := @balanced_stub line "FTest".toList "F.h".toList d hparse (by decide)
    (by decide) (by decide)
  exact ⟨hparse, htext, hbalanced htext hother⟩

/-- A comma between the braces of a default argument: the part behind it has no name, and its closing
brace is not written. -/
theorem unbalanced_default_argument :
    let line := "void f(Foo x = \x7b1, 2\x7d)".toList
    let d : Declaration := ⟨"void".toList, ['f'], [⟨"Foo x =".toList, "\x7b1".toList⟩,
      ⟨"2\x7d".toList, []⟩], "(Foo x = \x7b1, 2\x7d)".toList, false⟩
    Declaration.parse line = .ok d ∧ Balanced d.parameterText ∧ braces d.name = [] ∧
      braces "FTest".toList = [] ∧ braces "F.h".toList = [] ∧
      ¬ Balanced (render ⟨"FTest".toList, d⟩) ∧
      ¬ Balanced (TestFile.render "F.h".toList "FTest".toList (render ⟨"FTest".toList, d⟩)) := by
  intro line d
  have hfile := @TestFile.balanced_render_iff "F.h".toList "FTest".toList
    (render ⟨"FTest".toList, d⟩) (by decide) (by decide)
  have hdepth : depth? 2 (render ⟨"FTest".toList, d⟩) ≠ some 2 := by decide +kernel
  exact ⟨by rfl, by decide +kernel, by decide, by decide, by decide, by decide +kernel,
    fun h => hdepth (hfile.mp h)⟩

end TestStub

end StubGen
