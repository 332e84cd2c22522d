/-!
# Sets of code points

Properties of characters are tables of spans: the code points from a first to a last one in equal
steps. Alphabets that alternate between capital and small letters have step two.
-/

namespace StubGen

/-- The code points `first`, `first + step`, and so on up to `last`. -/
structure Span where
  first : Nat
  last : Nat
  step : Nat

namespace Span

/-- The code point lies in the span. -/
def has (s : Span) (n : Nat) : Bool :=
  s.first ≤ n && n ≤ s.last && (n - s.first) % s.step == 0

end Span

/-- The code point of the character lies in one of the spans. -/
def inSpans (spans : List Span) (c : Char) : Bool := spans.any (·.has c.toNat)

end StubGen
