import StubGen.Error
import StubGen.Text.Blank

/-!
# The format of the preference file

The file is a JSON object whose values are strings. It is written with one entry on each line and
read by a lexer that takes one character at a time and a grammar over its tokens. Only what an
object of strings can hold is a token, so anything else is refused.
-/

namespace StubGen.Preferences.Format

/-! ## Writing -/

/-- The hexadecimal digit of a number below sixteen. -/
def hexDigit (n : Nat) : Char := if n < 10 then Char.ofNat (0x30 + n) else Char.ofNat (0x57 + n)

/-- A character as it stands between quotes. -/
def escape (c : Char) : Text :=
  if c == '"' then "\\\"".toList
  else if c == '\\' then "\\\\".toList
  else if c == '\x08' then "\\b".toList
  else if c == '\x0C' then "\\f".toList
  else if c == '\n' then "\\n".toList
  else if c == '\r' then "\\r".toList
  else if c == '\t' then "\\t".toList
  else if c.toNat < 0x20 then
    "\\u00".toList ++ [hexDigit (c.toNat / 16), hexDigit (c.toNat % 16)]
  else [c]

def quote (t : Text) : Text := '"' :: t.flatMap escape ++ ['"']

/-- One entry on a line of its own, without the line end. -/
def renderEntry (entry : Text × Text) : Text :=
  "  ".toList ++ quote entry.1 ++ ": ".toList ++ quote entry.2

def render (entries : List (Text × Text)) : Text :=
  if entries.isEmpty then "\x7b\x7d".toList
  else
    "\x7b\n".toList ++ ",\n".toList.intercalate (entries.map renderEntry) ++ "\n\x7d".toList

/-! ## Lexing -/

/-- What an object of strings is made of. -/
inductive Token where
  | opening
  | closing
  | colon
  | comma
  | string (value : Text)
  deriving DecidableEq

/-- Where the lexer is. The characters of a string are kept in reverse. -/
inductive Mode where
  /-- Between tokens. -/
  | outside
  /-- Inside a string. -/
  | inside (read : Text)
  /-- After a backslash. -/
  | escaped (read : Text)
  /-- Inside a numbered escape: the digits still expected, the number so far, and the first half of
  a surrogate pair if this is the second. -/
  | numbered (read : Text) (digits value : Nat) (first : Option Nat)
  /-- After the first half of a surrogate pair. -/
  | halfway (read : Text) (first : Nat)
  /-- After the backslash that has to follow the first half of a surrogate pair. -/
  | halfwayEscaped (read : Text) (first : Nat)
  deriving DecidableEq

def hexValue? (c : Char) : Option Nat :=
  if '0' ≤ c ∧ c ≤ '9' then some (c.toNat - 0x30)
  else if 'a' ≤ c ∧ c ≤ 'f' then some (c.toNat - 0x57)
  else if 'A' ≤ c ∧ c ≤ 'F' then some (c.toNat - 0x37)
  else none

/-- The lexer after a whole numbered escape. A first half of a surrogate pair waits for the second,
and neither half can stand alone. -/
def numberedDone (read : Text) (value : Nat) : Option Nat → Option Mode
  | none =>
    if 0xD800 ≤ value ∧ value < 0xDC00 then some (.halfway read value)
    else if 0xDC00 ≤ value ∧ value < 0xE000 then none
    else some (.inside (Char.ofNat value :: read))
  | some first =>
    if 0xDC00 ≤ value ∧ value < 0xE000 then
      some (.inside (Char.ofNat (0x10000 + (first - 0xD800) * 0x400 + (value - 0xDC00)) :: read))
    else none

/-- The blanks that may stand between tokens. -/
def isSpacing (c : Char) : Bool := c == ' ' || c == '\t' || c == '\n' || c == '\r'

/-- The characters that a backslash and a letter stand for. -/
def escapes : List (Char × Char) :=
  [('"', '"'), ('\\', '\\'), ('/', '/'), ('b', '\x08'), ('f', '\x0C'), ('n', '\n'), ('r', '\r'),
    ('t', '\t')]

/-- The tokens that a character completes, and where it leaves the lexer; nothing if it cannot stand
there. -/
def step (mode : Mode) (c : Char) : Option (List Token × Mode) :=
  match mode with
  | .outside =>
    if isSpacing c then some ([], .outside)
    else if c == '\x7b' then some ([.opening], .outside)
    else if c == '\x7d' then some ([.closing], .outside)
    else if c == ':' then some ([.colon], .outside)
    else if c == ',' then some ([.comma], .outside)
    else if c == '"' then some ([], .inside [])
    else none
  | .inside read =>
    if c == '"' then some ([.string read.reverse], .outside)
    else if c == '\\' then some ([], .escaped read)
    else if c.toNat < 0x20 then none
    else some ([], .inside (c :: read))
  | .escaped read =>
    if c == 'u' then some ([], .numbered read 4 0 none)
    else (escapes.lookup c).map fun meant => ([], .inside (meant :: read))
  | .numbered read digits value first =>
    match hexValue? c with
    | none => none
    | some digit =>
      if digits ≤ 1 then (numberedDone read (value * 16 + digit) first).map ([], ·)
      else some ([], .numbered read (digits - 1) (value * 16 + digit) first)
  | .halfway read first => if c == '\\' then some ([], .halfwayEscaped read first) else none
  | .halfwayEscaped read first =>
    if c == 'u' then some ([], .numbered read 4 0 (some first)) else none

/-- The tokens of a text, from a point of the lexer on. -/
def lexFrom (mode : Mode) : Text → Option (List Token)
  | [] => if mode = .outside then some [] else none
  | c :: rest =>
    match step mode c with
    | none => none
    | some (tokens, next) => (lexFrom next rest).map (tokens ++ ·)

/-! ## Grammar -/

/-- The entries of an object whose opening brace is read, up to the end of the text. -/
def readEntries : List Token → Option (List (Text × Text))
  | [.string key, .colon, .string value, .closing] => some [(key, value)]
  | .string key :: .colon :: .string value :: .comma :: rest =>
    (readEntries rest).map ((key, value) :: ·)
  | _ => none

def readObject : List Token → Option (List (Text × Text))
  | [.opening, .closing] => some []
  | .opening :: rest => readEntries rest
  | _ => none

/-- Reads the entries of a file, in the order in which they stand. A blank file has none. -/
def read? (t : Text) : Option (List (Text × Text)) :=
  if (Text.trim t).isEmpty then some [] else (lexFrom .outside t).bind readObject

end StubGen.Preferences.Format
