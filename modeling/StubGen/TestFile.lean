import StubGen.SourceNames

/-!
# Test files

The layout of a whole test file: includes, two namespaces with the names they use and a helper
class, the typed suite, its fixture, the first test, and the two closing braces.
-/

namespace StubGen.TestFile

/-- The lines that include what a test needs, the header under test last. -/
def includes (headerName : Text) : Text :=
  (["pch.h".toList, "iostream".toList, "gtest/gtest.h".toList, "gmock/gmock.h".toList,
      "gmock/gmock-generated-function-mockers.h".toList, headerName].flatMap
    fun name => "#include \"".toList ++ name ++ "\"\n".toList) ++ ['\n']

/-- The matchers and actions that tests use without qualification. -/
def usedNames : List Text :=
  ["_".toList, "A".toList, "An".toList, "AnyNumber".toList, "Const".toList, "DoDefault".toList,
    "Eq".toList, "Lt".toList, "MockFunction".toList, "Ref".toList, "Return".toList,
    "ReturnRef".toList, "TypedEq".toList]

/-- A helper class that can be copied from anything. -/
def helperClass : Text :=
  "template <typename T>\n".toList ++
    "class TemplatedCopyable\n".toList ++
    "\x7b\n".toList ++
    "public:\n".toList ++
    "    TemplatedCopyable() \x7b\x7d\n".toList ++
    "\n".toList ++
    "    template <typename U>\n".toList ++
    "    TemplatedCopyable(const U& other) \x7b\x7d\n".toList ++
    "\x7d;\n".toList

/-- Opens both namespaces and declares what they use. -/
def namespaceOpening : Text :=
  "namespace unittest \x7b\nnamespace UnitTesters \x7b\n".toList ++
    usedNames.flatMap (fun name => "using testing::".toList ++ name ++ ";\n".toList) ++
    '\n' :: helperClass

def namespaceClosing : Text := "\x7d\n\x7d\n".toList

/-- The type list of a suite and the suite bound to it. -/
def suiteDeclaration (suite : Text) : Text :=
  "using ".toList ++ suite ++ "Types = ::testing::Types<bool>;\n".toList ++ suiteMacro ++ ['('] ++
    suite ++ [','] ++ suite ++ "Types);\n".toList

/-- The fixture class of a suite, with an empty constructor and destructor. -/
def fixture (suite : Text) : Text :=
  "class ".toList ++ suite ++ " : public testing::Test\n\x7b\npublic:\n    ".toList ++ suite ++
    "() \x7b\n    \x7d\n    ~".toList ++ suite ++ "() \x7b\n    \x7d\n\x7d;\n".toList

/-- A test file with its first test. -/
def render (headerName suite firstTest : Text) : Text :=
  includes headerName ++ namespaceOpening ++ ['\n'] ++ suiteDeclaration suite ++ ['\n'] ++
    fixture suite ++ ['\n'] ++ firstTest ++ ['\n'] ++ namespaceClosing

end StubGen.TestFile
