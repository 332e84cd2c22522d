import StubGen.ClassBody
import StubGen.SourceNames

/-!
# Mock classes

A mock class derives from the class it stands for and has one macro call per overridable method.
Of the return type only the first word is used, and the parameter list is copied as written.
-/

namespace StubGen

/-- A mock class: its name, the class it derives from and the methods it mocks. -/
structure Mock where
  name : Text
  base : Text
  methods : List Declaration
  deriving DecidableEq

namespace Mock

/-- The macro call that mocks a method. -/
def methodLine (d : Declaration) : Text :=
  "MOCK_METHOD(".toList ++ d.leadingReturnWord ++ [','] ++ d.name ++ [','] ++ d.parameterText ++
    ",(override));".toList

/-- The section with the mocked methods; a mock without methods has none. -/
def methodSection (methods : List Declaration) : Text :=
  if methods.isEmpty then []
  else "public:\n".toList ++ methods.flatMap (fun d => methodLine d ++ ['\n'])

def render (m : Mock) : Text :=
  "class ".toList ++ m.name ++ " : public ".toList ++ m.base ++ "\n\x7b\n".toList ++
    methodSection m.methods ++ "\x7d;\n\n".toList

/-- The mock of the class or interface that the anchor line of a header declares. -/
def generate (names : SourceNames) (header anchor : Text) : Except Error Mock := do
  let ofInterface := isInterfaceAnchor anchor
  let methods ← scanDeclarations header anchor ofInterface
  return ⟨names.mockName ofInterface, names.className, methods⟩

end Mock

end StubGen
