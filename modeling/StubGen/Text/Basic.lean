/-!
# Text

Text is a list of characters. Files and offsets count in bytes of its UTF-8 form, so a text has a
byte size and can be cut at a byte offset.

Results:

* `takeBytes_append_dropBytes`: cutting at an offset loses nothing.
* `byteSize_append`: sizes add up.
-/

namespace StubGen

/-- A text is the list of its characters. -/
abbrev Text := List Char

namespace Text

/-! ## Bytes -/

/-- The number of bytes of the text's UTF-8 form. -/
def byteSize : Text → Nat
  | [] => 0
  | c :: rest => c.utf8Size + byteSize rest

/-- The characters that end within the first `n` bytes. -/
def takeBytes : Nat → Text → Text
  | _, [] => []
  | n, c :: rest => if c.utf8Size ≤ n then c :: takeBytes (n - c.utf8Size) rest else []

/-- The characters that do not end within the first `n` bytes. -/
def dropBytes : Nat → Text → Text
  | _, [] => []
  | n, c :: rest => if c.utf8Size ≤ n then dropBytes (n - c.utf8Size) rest else c :: rest

/-- Cutting a text at a byte offset loses nothing. -/
theorem takeBytes_append_dropBytes (n : Nat) (t : Text) : takeBytes n t ++ dropBytes n t = t := by
  induction t generalizing n with
  | nil => rfl
  | cons c rest ih =>
    simp only [takeBytes, dropBytes]
    split
    · simp [ih]
    · simp

@[simp] theorem byteSize_nil : byteSize [] = 0 := rfl

@[simp] theorem byteSize_cons (c : Char) (t : Text) :
    byteSize (c :: t) = c.utf8Size + byteSize t := rfl

@[simp] theorem byteSize_append (s t : Text) : byteSize (s ++ t) = byteSize s + byteSize t := by
  induction s with
  | nil => simp
  | cons c s ih => simp [ih, Nat.add_assoc]

/-! ## Search -/

/-- `needle` stands somewhere in the text. -/
def occursIn (needle : Text) : Text → Bool
  | [] => needle.isEmpty
  | c :: rest => needle.isPrefixOf (c :: rest) || occursIn needle rest

/-- What follows `beginning`, if the text starts with it. -/
def stripStart? : (beginning text : Text) → Option Text
  | [], text => some text
  | _ :: _, [] => none
  | b :: beginning, c :: text => if b = c then stripStart? beginning text else none

/-- What precedes `ending`, if the text ends with it. -/
def stripEnd? (ending text : Text) : Option Text :=
  (stripStart? ending.reverse text.reverse).map List.reverse

/-- What follows the last occurrence of `mark`, if there is one. -/
def afterLast? (mark : Text) : Text → Option Text
  | [] => stripStart? mark []
  | c :: rest =>
    match afterLast? mark rest with
    | some tail => some tail
    | none => stripStart? mark (c :: rest)

/-! ## Writing -/

def ofNat (n : Nat) : Text := (Nat.repr n).toList

def ofBool (b : Bool) : Text := if b then "true".toList else "false".toList

end Text

end StubGen
