import StubGen.Text.Basic

/-!
# UTF-8

Bytes become text one at a time. A lead byte announces how many bytes follow and which values the
next one may have, which rules out overlong forms, surrogates and numbers beyond the last code
point. Bytes that cannot be continued are a gap: `none` in the decoded list stands for one maximal
invalid part, and decoding goes on with the byte that did not fit.

* `decode?` reads the bytes as text and refuses any gap.
* `decodeLossy` writes the replacement character for every gap.
-/

namespace StubGen

/-- File contents and names are bytes. -/
abbrev Bytes := List UInt8

namespace Utf8

/-- A character whose bytes have begun: how many are missing after the next one, the values that the
next one may have, and the bits read so far. -/
structure Pending where
  missing : Nat
  low : UInt8
  high : UInt8
  bits : Nat
  deriving DecidableEq

/-- The characters and gaps that a byte completes, and the character that it leaves begun. -/
abbrev Step := List (Option Char) × Option Pending

/-- What a byte means where a character may begin. -/
def lead (b : UInt8) : Step :=
  let n := b.toNat
  if n < 0x80 then ([some (Char.ofNat n)], none)
  else if n < 0xC2 then ([none], none)
  else if n < 0xE0 then ([], some ⟨0, 0x80, 0xBF, n - 0xC0⟩)
  else if n < 0xF0 then
    ([], some ⟨1, if n = 0xE0 then 0xA0 else 0x80, if n = 0xED then 0x9F else 0xBF, n - 0xE0⟩)
  else if n < 0xF5 then
    ([], some ⟨2, if n = 0xF0 then 0x90 else 0x80, if n = 0xF4 then 0x8F else 0xBF, n - 0xF0⟩)
  else ([none], none)

/-- What a byte means after the bytes read so far. -/
def step (pending : Option Pending) (b : UInt8) : Step :=
  match pending with
  | none => lead b
  | some p =>
    if p.low ≤ b ∧ b ≤ p.high then
      let bits := p.bits * 64 + (b.toNat - 0x80)
      match p.missing with
      | 0 => ([some (Char.ofNat bits)], none)
      | k + 1 => ([], some ⟨k, 0x80, 0xBF, bits⟩)
    else (none :: (lead b).1, (lead b).2)

/-- Decodes bytes that continue the character begun, if there is one. -/
def decodeFrom (pending : Option Pending) : Bytes → List (Option Char)
  | [] => if pending.isSome then [none] else []
  | b :: rest => (step pending b).1 ++ decodeFrom (step pending b).2 rest

/-- The characters of the bytes, and `none` for every maximal invalid part. -/
def decode (bytes : Bytes) : List (Option Char) := decodeFrom none bytes

/-- The text that the bytes encode, if all of them are valid. -/
def decode? (bytes : Bytes) : Option Text :=
  if (decode bytes).all Option.isSome then some ((decode bytes).filterMap id) else none

/-- The text of the bytes, with the replacement character for every invalid part. -/
def decodeLossy (bytes : Bytes) : Text := (decode bytes).map (·.getD '\uFFFD')

def encode (t : Text) : Bytes := t.flatMap String.utf8EncodeChar

end Utf8

end StubGen
