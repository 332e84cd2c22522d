import StubGen.ClassBody
import StubGen.SourceNames

/-!
# Test stubs

A typed test for one method: a line for each named parameter and three placeholder assertions that
are meant to be replaced by hand.
-/

namespace StubGen

structure TestStub where
  suite : Text
  method : Declaration
  deriving DecidableEq

/-- The literal that a parameter of a known type starts with. -/
def initializer? (typeName : Text) : Option Text :=
  if typeName == "int".toList || typeName == "DWORD".toList then some ['0']
  else if typeName == "string".toList then some "\"\"".toList
  else if typeName == "wstring".toList then some "L\"\"".toList
  else none

/-- The line that sets up a parameter: an assignment if its type is known, else a declaration.
Nothing is written for a parameter without a name. -/
def Parameter.setUp (p : Parameter) : Text :=
  if p.isNamed then
    match initializer? p.typeName with
    | some literal => '\t' :: p.name ++ ['='] ++ literal ++ ";\n".toList
    | none => '\t' :: p.typeName ++ [' '] ++ p.name ++ ";\n".toList
  else []

namespace TestStub

def assertions : Text :=
  ("\tEXPECT_TRUE(2 == 2);\n" ++ "\tEXPECT_FALSE(2 == 1);\n" ++ "\tEXPECT_EQUALS(2, 2);\n").toList

/-- The lines that set up the parameters. -/
def setUpLines (parameters : List Parameter) : Text := parameters.flatMap Parameter.setUp

/-- The text of the test, without a line end after its last brace. -/
def render (s : TestStub) : Text :=
  "TYPED_TEST(".toList ++ s.suite ++ ",Should".toList ++ s.method.name ++ ")\x7b\n".toList ++
    setUpLines s.method.parameters ++ assertions ++ ['\x7d']

/-- The test for the method that the anchor line of a source declares. It joins the last suite of
the existing test file, if that declares one. -/
def generate (names : SourceNames) (source anchor : Text) (existing : Option Text) :
    Except Error TestStub := do
  let lines := Text.lines source
  let i ← findAnchor lines anchor
  let (signature, _) ← signatureFrom (lines.getD i []) (lines.drop (i + 1))
  let method ← Declaration.parse signature
  return ⟨(existing.bind lastSuite?).getD names.suiteName, method⟩

end TestStub

end StubGen
