import StubGen.Error
import StubGen.Text.Blank

/-!
# Declarations

A method declaration on one line: what stands before the first opening parenthesis is the head, and
the first closing parenthesis after it ends the parameter list. The last word of the head is the
name, possibly qualified, and the words before it are the return type. Parentheses inside the
parameter list are not matched.

Results:

* `parse_eq_error_iff`: when a line is refused, and how it is reported.
-/

namespace StubGen

/-- One parameter, in the order of the call. -/
structure Parameter where
  typeName : Text
  /-- Empty for a parameter without a name. -/
  name : Text
  deriving DecidableEq

structure Declaration where
  /-- The words before the name with one space between them; possibly empty. -/
  returnType : Text
  /-- The name without the scopes in front of it. -/
  name : Text
  parameters : List Parameter
  /-- The parameter list as written, with its parentheses. -/
  parameterText : Text
  /-- The method can be overridden: it is virtual or belongs to an interface. -/
  overridable : Bool
  deriving DecidableEq

namespace Parameter

def isNamed (p : Parameter) : Bool := !p.name.isEmpty

/-- Reads one trimmed piece of a parameter list: its last word is the name if another one precedes
it. -/
def ofPiece (piece : Text) : Parameter :=
  if piece.any isBlank then
    ⟨Text.trimEnd (beforeEndRun (!isBlank ·) piece), endRun (!isBlank ·) piece⟩
  else ⟨piece, []⟩

/-- Reads a parameter list without its parentheses. A blank list and a lone `void` have no
parameters, and blank pieces between commas are skipped. -/
def parseList (body : Text) : List Parameter :=
  if Text.trim body == "void".toList then []
  else (((body.splitOn ',').map Text.trim).filter (!·.isEmpty)).map ofPiece

end Parameter

namespace Declaration

/-- What follows the last `::` of a name. -/
def stripScope (name : Text) : Text := (Text.afterLast? "::".toList name).getD name

/-- What stands before the first opening parenthesis, and what stands between it and the first
closing one after it. -/
def splitLine? (line : Text) : Option (Text × Text) :=
  match line.dropWhile (· != '(') with
  | [] => none
  | _ :: afterOpen =>
    if afterOpen.contains ')' then
      some (line.takeWhile (· != '('), afterOpen.takeWhile (· != ')'))
    else none

/-- The declaration with the given head and parameter list, if the head ends with a name. -/
def ofParts? (head body : Text) : Option Declaration := do
  let qualified ← (Text.words head).getLast?
  let name := stripScope qualified
  if name.isEmpty then none else some {
    returnType := [' '].intercalate (Text.words head).dropLast
    name := name
    parameters := Parameter.parseList body
    parameterText := '(' :: body ++ [')']
    overridable := false }

/-- Reads a declaration, if the line holds one. The result is not marked as overridable: that
depends on where the line stands. -/
def parse? (line : Text) : Option Declaration := do
  let (head, body) ← splitLine? line
  ofParts? head body

/-- Reads a declaration. A line that holds none is reported trimmed. -/
def parse (line : Text) : Except Error Declaration :=
  match parse? line with
  | some d => .ok d
  | none => .error (.malformedSignature (Text.trim line))

/-- The first word of the return type; empty if there is none. -/
def leadingReturnWord (d : Declaration) : Text := ((Text.words d.returnType).head?).getD []

def parameterBody (d : Declaration) : Text :=
  ((Text.stripStart? ['('] d.parameterText).bind (Text.stripEnd? [')'])).getD d.parameterText

/-- The declaration on one line, without qualifiers and what follows the parameters. -/
def render (d : Declaration) : Text :=
  if d.returnType.isEmpty then d.name ++ d.parameterText
  else d.returnType ++ ' ' :: d.name ++ d.parameterText

/-- Reading fails exactly where there is no declaration, and says so with the trimmed line. -/
theorem parse_eq_error_iff {line : Text} {e : Error} :
    parse line = .error e ↔ parse? line = none ∧ e = .malformedSignature (Text.trim line) := by
  unfold parse
  cases parse? line <;> simp [eq_comm]

end Declaration

end StubGen
