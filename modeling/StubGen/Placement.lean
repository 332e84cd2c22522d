import StubGen.Error
import StubGen.SourceNames
import StubGen.Text.Lines

/-!
# Placement of generated text

Generated files open namespaces at the top and close them with braces at the bottom. A new block
goes just inside those closing braces: they are overwritten and written again after it. A mock goes
in front of the type list of the first typed suite, if there is one, and the text from there on is
kept. Nothing is parsed: braces and keywords count wherever they stand.
-/

namespace StubGen

inductive BlockKind where
  | test
  | mock
  deriving DecidableEq

/-- How the text after the insertion point is treated. -/
inductive PlacementMode where
  /-- It is overwritten, and closing braces are written after the block. -/
  | insideNamespaces
  /-- It is kept after the block. -/
  | beforeSuite
  deriving DecidableEq

/-- Where a block goes, as a byte offset into the text. -/
structure InsertionPoint where
  offset : Nat
  closers : Nat
  mode : PlacementMode
  deriving DecidableEq

/-- The kind of block that a word names, in any letter case. -/
def BlockKind.ofText (word : Text) : Except Error BlockKind :=
  let small := Text.lower word
  if small == "test".toList then .ok .test
  else if small == "mock".toList then .ok .mock
  else .error (.unknownMarker small)

namespace Placement

/-- The words that end the part of a file in which namespaces are opened. -/
def contentWords : List Text :=
  ["class".toList, "TYPED_TEST".toList, "TEST_F".toList, "TEST".toList]

/-- The line holds one of the words that end the opening part. -/
def hasContent (line : Text) : Bool := contentWords.any (Text.occursIn · line)

def opensNamespace (line : Text) : Bool := "namespace".toList.isPrefixOf (Text.trim line)

/-- The number of lines that open a namespace, up to the first line with content. -/
def countOpening : List Text → Nat
  | [] => 0
  | line :: rest =>
    (if opensNamespace line then 1 else 0) + (if hasContent line then 0 else countOpening rest)

/-- The number of namespaces that the opening part of a file opens. -/
def leadingNamespaces (t : Text) : Nat := countOpening (Text.lines t)

def closer : Char := '\x7d'

/-- The offset of the closing brace from which on the text holds exactly `count` of them. -/
def closerOffset? (count : Nat) : Text → Option Nat
  | [] => none
  | c :: rest =>
    if c == closer && (c :: rest).count closer == count then some 0
    else (closerOffset? count rest).map (c.utf8Size + ·)

/-- The offset of the last `count` closing braces; with none to stay inside of, the end. -/
def insideClosers (t : Text) (count : Nat) : Except Error Nat :=
  if count = 0 then .ok (Text.byteSize t)
  else match closerOffset? count t with
    | some offset => .ok offset
    | none => .error (.unbalancedTarget count (t.count closer))

/-- The start of the line before the first line with a suite, given where the line before these
lines and where they themselves start. -/
def suiteOffset? (previous here : Nat) : List Text → Option Nat
  | [] => none
  | line :: rest =>
    if Text.occursIn suiteMacro line then some previous
    else suiteOffset? here (here + Text.byteSize line + 1) rest

/-- The start of the line before the first typed suite; the start of the text if the suite is on the
first line. -/
def beforeSuite? (t : Text) : Option Nat := suiteOffset? 0 0 (t.splitOn '\n')

def locateInside (t : Text) : Except Error InsertionPoint :=
  let closers := leadingNamespaces t
  (insideClosers t closers).map (⟨·, closers, .insideNamespaces⟩)

/-- The place for a block of the given kind. -/
def locate (t : Text) : BlockKind → Except Error InsertionPoint
  | .test => locateInside t
  | .mock =>
    match beforeSuite? t with
    | some offset => .ok ⟨offset, 0, .beforeSuite⟩
    | none => locateInside t

/-- What has to follow the block. -/
def tail (t : Text) (point : InsertionPoint) : Text :=
  match point.mode with
  | .insideNamespaces => (List.replicate point.closers [closer, '\n']).flatten
  | .beforeSuite => Text.dropBytes point.offset t

/-- The text to write at the insertion point. -/
def splice (t : Text) (point : InsertionPoint) (block : Text) : Text := block ++ tail t point

/-- The whole text after the block is placed. -/
def apply (t : Text) (point : InsertionPoint) (block : Text) : Text :=
  Text.takeBytes point.offset t ++ splice t point block

structure Block where
  kind : BlockKind
  text : Text
  deriving DecidableEq

/-- Finds the place of a block and puts it there. -/
def place (t : Text) (b : Block) : Except Error (InsertionPoint × Text) :=
  (locate t b.kind).map fun point => (point, apply t point b.text)

/-- Places the blocks one after the other, each in the text that the ones before it left; a block
without a place leaves the text as it is. -/
def placeAll : Text → List Block → List (Except Error (InsertionPoint × Text))
  | _, [] => []
  | t, b :: rest =>
    match place t b with
    | .ok (point, new) => .ok (point, new) :: placeAll new rest
    | .error e => .error e :: placeAll t rest

end Placement

end StubGen
