import StubGen.EndRun
import StubGen.Text.Utf8

/-!
# Paths

A path is any sequence of bytes. A slash separates its segments; empty segments and dots do not
count, except a dot that opens a relative path. Two paths name the same thing when they have the
same components.
-/

namespace StubGen

/-- The name of a file or directory, as the bytes that were given. -/
structure Path where
  bytes : Bytes
  deriving DecidableEq, Inhabited

namespace Path

inductive Component where
  /-- The slash that opens an absolute path. -/
  | root
  /-- The dot that opens a relative path. -/
  | here
  /-- Two dots: the directory above. -/
  | up
  /-- Any other segment. -/
  | name (bytes : Bytes)
  deriving DecidableEq

def slash : UInt8 := 0x2F

def dot : UInt8 := 0x2E

/-- The path with the UTF-8 form of a text. -/
def ofText (t : Text) : Path := ⟨Utf8.encode t⟩

/-- The path as it is shown: invalid bytes appear as replacement characters. -/
def display (p : Path) : Text := Utf8.decodeLossy p.bytes

def segments (p : Path) : List Bytes := p.bytes.splitOn slash

def isAbsolute (p : Path) : Bool := p.bytes.head? == some slash

/-- A segment that does not count: empty or a single dot. -/
def isFiller (segment : Bytes) : Bool := segment == [] || segment == [dot]

/-- The component of a segment that is not the first one. -/
def component? (segment : Bytes) : Option Component :=
  if isFiller segment then none
  else if segment == [dot, dot] then some .up
  else some (.name segment)

/-- The component of the first segment; an empty one opens an absolute path. -/
def firstComponent? (absolute : Bool) (segment : Bytes) : Option Component :=
  if segment == [] then (if absolute then some .root else none)
  else if segment == [dot] then some .here
  else component? segment

def components (p : Path) : List Component :=
  match p.segments with
  | [] => []
  | first :: rest => (firstComponent? p.isAbsolute first).toList ++ rest.filterMap component?

/-- The last component, if it is a name. -/
def fileName? (p : Path) : Option Bytes :=
  match p.components.getLast? with
  | some (.name bytes) => some bytes
  | _ => none

/-- What follows the last dot of the file name, unless that dot comes first or there is none. -/
def extension? (p : Path) : Option Bytes := do
  let name ← p.fileName?
  let ending := endRun (· != dot) name
  let stem := (beforeEndRun (· != dot) name).dropLast
  if stem.isEmpty then none else some ending

/-- The segments with a slash between them. -/
def ofSegments (segments : List Bytes) : Path := ⟨[slash].intercalate segments⟩

/-- The path without its last component; a root and an empty path have no parent. -/
def parent? (p : Path) : Option Path :=
  match p.segments with
  | [] => none
  | first :: rest =>
    let counted := beforeEndRun isFiller rest
    if counted.isEmpty then (if first.isEmpty then none else some ⟨[]⟩)
    else
      let above := beforeEndRun isFiller counted.dropLast
      if above.isEmpty && first.isEmpty then some ⟨[slash]⟩ else some (ofSegments (first :: above))

/-- `q` seen from the directory `p`; an absolute `q` stays as it is. -/
def join (p q : Path) : Path :=
  if q.isAbsolute then q
  else if p.bytes.isEmpty || p.bytes.getLast? == some slash then ⟨p.bytes ++ q.bytes⟩
  else ⟨p.bytes ++ slash :: q.bytes⟩

/-- Two paths name the same thing. -/
def same (p q : Path) : Bool := p.components == q.components

end Path

end StubGen
