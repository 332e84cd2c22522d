import StubGen.FileKind
import StubGen.Mock
import StubGen.Placement
import StubGen.TestFile
import StubGen.TestStub

/-!
# Plans

A plan says what to write into a target and where, given the target's current text. A missing or
empty target gets a whole file; any other gets one block at its insertion point. The text of a plan
overwrites the target from the offset on.
-/

namespace StubGen

structure Plan where
  path : Path
  /-- Where the text begins; what the target holds from there on is overwritten. -/
  offset : Nat
  text : Text
  /-- The target was missing or empty. -/
  created : Bool
  deriving DecidableEq

namespace Plan

/-- The names that follow from a path as it is shown. -/
def namesOf (path : Path) : SourceNames := SourceNames.ofPath path.display

/-- The text of a target that has one. -/
def present? (existing : Option Text) : Option Text := existing.filter (!·.isEmpty)

/-- The plan that puts a block into a text. -/
def insertion (target : Path) (kind : BlockKind) (current block : Text) : Except Error Plan := do
  let point ← Placement.locate current kind
  return ⟨target, point.offset, Placement.splice current point block, false⟩

/-- The plan for the mock of the class that the anchor line of a header declares. -/
def mock (header : Path) (headerText anchor : Text) (target : Path) (existing : Option Text) :
    Except Error Plan := do
  checkFileKind header headerEnding
  let names := namesOf header
  let mock ← Mock.generate names headerText anchor
  match present? existing with
  | none => return ⟨target, 0, TestFile.includes names.headerName ++ mock.render, true⟩
  | some current => insertion target .mock current mock.render

/-- A stub as it is added to an existing file: on lines of its own, after an empty one. -/
def stubBlock (stub : TestStub) : Text := '\n' :: stub.render ++ ['\n']

/-- The plan for the test of the method that the anchor line of a source declares. -/
def test (source : Path) (sourceText anchor : Text) (target : Path) (existing : Option Text) :
    Except Error Plan := do
  checkFileKind source sourceEnding
  let names := namesOf source
  let stub ← TestStub.generate names sourceText anchor (present? existing)
  match present? existing with
  | none => return ⟨target, 0, TestFile.render names.headerName stub.suite stub.render, true⟩
  | some current => insertion target .test current (stubBlock stub)

end Plan

end StubGen
