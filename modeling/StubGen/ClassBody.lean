import StubGen.Declaration
import StubGen.Text.Lines
import StubGen.Text.Word

/-!
# Class bodies

The members of a class or interface are looked for below its anchor line, up to the first line that
holds `};`. In an interface every line counts, in a class only those with the word `virtual`. A
declaration whose parameter list is still open at the end of its line is wrapped: the lines that
follow belong to it, up to the first one with a closing parenthesis.
-/

namespace StubGen

/-- One accepted member of a class body. -/
structure Member where
  /-- The line on which the declaration starts; the first line of a file is line 1. -/
  lineNumber : Nat
  /-- The trimmed declaration without the word `virtual`, wrapped lines joined. -/
  text : Text
  deriving DecidableEq

/-! ## Anchors -/

/-- The index of the first line that equals the anchor once both are trimmed. -/
def findAnchor (lines : List Text) (anchor : Text) : Except Error Nat :=
  let wanted := Text.trim anchor
  if wanted.isEmpty then .error .noSelection
  else match lines.findIdx? (Text.trim · == wanted) with
    | some i => .ok i
    | none => .error (.anchorNotFound wanted)

def isInterfaceAnchor (anchor : Text) : Bool := Text.occursIn "__interface".toList anchor

/-! ## Wrapped declarations -/

/-- The lines up to the first one with a closing parenthesis, joined, and how many follow the
first. -/
def joinToClose : List Text → Option (Text × Nat)
  | [] => none
  | line :: rest =>
    if line.contains ')' then some (line, 0)
    else (joinToClose rest).map fun (text, extra) => (line ++ text, extra + 1)

/-- `joinToClose`, where it is an error that no parenthesis closes. -/
def joinWrapped (lines : List Text) : Except Error (Text × Nat) :=
  match joinToClose lines with
  | some joined => .ok joined
  | none => .error (.malformedSignature (Text.trim lines.flatten))

/-- The line opens a parameter list and does not close one. -/
def isWrapped (line : Text) : Bool := line.contains '(' && !line.contains ')'

/-- The declaration that starts on a line, and how many of the lines that follow belong to it. -/
def signatureFrom (line : Text) (rest : List Text) : Except Error (Text × Nat) :=
  if isWrapped line then joinWrapped (line :: rest) else .ok (line, 0)

/-! ## Members -/

def virtualWord : Text := "virtual".toList

/-- The name before the parameter list is that of a destructor. -/
def isDestructor (text : Text) : Bool :=
  match (Text.words (text.takeWhile (· != '('))).getLast? with
  | some name => name.head? == some '~' || Text.occursIn "::~".toList name
  | none => false

/-- The declaration of a member, unless the line declares no method or a destructor. -/
def memberText? (raw : Text) : Option Text :=
  let text := Text.trim (Text.eraseWord virtualWord raw)
  if text.contains '(' && !isDestructor text then some text else none

/-- The line may declare a member. -/
def isCandidate (inInterface : Bool) (line : Text) : Bool :=
  inInterface || Text.hasWord virtualWord line

/-- Scans the lines of a body. The first line has the given number, and the first `skip` lines
belong to a declaration that is already accepted. -/
def scanBody (inInterface : Bool) : (number skip : Nat) → List Text → Except Error (List Member)
  | _, _, [] => .ok []
  | number, skip + 1, _ :: rest => scanBody inInterface (number + 1) skip rest
  | number, 0, line :: rest =>
    if Text.occursIn "\x7d;".toList line then .ok []
    else if isCandidate inInterface line then
      match signatureFrom line rest with
      | .error e => .error e
      | .ok (raw, extra) =>
        match scanBody inInterface (number + 1) extra rest with
        | .error e => .error e
        | .ok members =>
          match memberText? raw with
          | some text => .ok (⟨number, text⟩ :: members)
          | none => .ok members
    else scanBody inInterface (number + 1) 0 rest

/-- The number of lines up to a brace that opens the body on a line of its own, if only blank lines
come before it. -/
def openingLines : List Text → Nat
  | [] => 0
  | line :: rest =>
    if (Text.trim line).isEmpty then
      match openingLines rest with
      | 0 => 0
      | n => n + 1
    else if Text.trim line == ['\x7b'] then 1
    else 0

/-- The index of the first line of the body whose anchor is the line with index `anchorIndex`. -/
def bodyStart (lines : List Text) (anchorIndex : Nat) : Nat :=
  anchorIndex + 1 + openingLines (lines.drop (anchorIndex + 1))

/-- The members below the anchor, in order. -/
def scanMembers (text anchor : Text) (inInterface : Bool) : Except Error (List Member) :=
  let lines := Text.lines text
  match findAnchor lines anchor with
  | .error e => .error e
  | .ok i =>
    let start := bodyStart lines i
    scanBody inInterface (start + 1) 0 (lines.drop start)

/-- Reads a member; every member is overridable. -/
def Member.declaration (m : Member) : Except Error Declaration :=
  (Declaration.parse m.text).map ({ · with overridable := true })

/-- The declarations of the members below the anchor, in order. -/
def scanDeclarations (text anchor : Text) (inInterface : Bool) :
    Except Error (List Declaration) := do
  let members ← scanMembers text anchor inInterface
  members.mapM Member.declaration

end StubGen
