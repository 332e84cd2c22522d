import StubGen.Text.Blank
import StubGen.Text.LetterCase
import StubGen.Text.Word

/-!
# Names that follow from a source file

The class, its header, its test suite and its test file are named after the source file. An
existing test file may have chosen another suite name; the last suite that it declares wins.
-/

namespace StubGen

/-! ## File names -/

/-- What follows the last separator, where a slash and a backslash both separate. -/
def fileNameOf (path : Text) : Text :=
  ((path.splitOnP fun c => c == '/' || c == '\\').getLast?).getD path

/-- The file name with the ending `old` replaced by `new`; any other name stays as it is. -/
def swapEnding (old new fileName : Text) : Text :=
  match Text.stripEnd? old fileName with
  | some stem => stem ++ new
  | none => fileName

/-- The names that follow from the path of a source file. -/
structure SourceNames where
  fileName : Text
  headerName : Text
  className : Text
  suiteName : Text
  testFileName : Text
  deriving DecidableEq

namespace SourceNames

/-- The names that follow from a path. -/
def ofPath (path : Text) : SourceNames :=
  let fileName := fileNameOf path
  let headerName := swapEnding ".cpp".toList ".h".toList fileName
  let className := swapEnding ".h".toList [] headerName
  let suiteName := className ++ "Test".toList
  { fileName, headerName, className, suiteName, testFileName := suiteName ++ ".cpp".toList }

/-- The class name that a mock is named after. The `I` in front of an interface's name is left out
if a capital letter follows it. -/
def mockStem (names : SourceNames) (ofInterface : Bool) : Text :=
  match names.className with
  | 'I' :: c :: rest => if ofInterface && isCapital c then c :: rest else 'I' :: c :: rest
  | name => name

def mockName (names : SourceNames) (ofInterface : Bool) : Text :=
  names.mockStem ofInterface ++ "Mock".toList

end SourceNames

/-! ## Declared suites -/

/-- The macro that declares a typed test suite. -/
def suiteMacro : Text := "TYPED_TEST_SUITE".toList

/-- The suite declared right at the start of the text: the macro, an opening parenthesis, a word and
a comma, with blanks around the word. -/
def suiteAt? (t : Text) : Option Text := do
  let arguments ← Text.stripStart? (suiteMacro ++ ['(']) t
  let fromName := Text.trimStart arguments
  let name := fromName.takeWhile isWord
  let afterName := Text.trimStart (fromName.dropWhile isWord)
  if !name.isEmpty && afterName.head? == some ',' then some name else none

/-- The suite that is declared last in the text. -/
def lastSuite? : Text → Option Text
  | [] => none
  | c :: rest =>
    match lastSuite? rest with
    | some name => some name
    | none => suiteAt? (c :: rest)

end StubGen
