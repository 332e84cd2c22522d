import StubGen.Error
import StubGen.Path

/-!
# File kinds

Mocks are made from headers and tests from sources; the ending of the file name tells them apart.
-/

namespace StubGen

def headerEnding : Text := ".h".toList

def sourceEnding : Text := ".cpp".toList

/-- The dot and what follows it in the file name are the given ending. -/
def Path.hasEnding (path : Path) (ending : Text) : Bool :=
  match path.extension? with
  | some extension => Path.dot :: extension == Utf8.encode ending
  | none => false

/-- Refuses a path with another ending. -/
def checkFileKind (path : Path) (expected : Text) : Except Error Unit :=
  if path.hasEnding expected then .ok () else .error (.wrongFileKind path.display expected)

end StubGen
