/-!
# The final run of a list

`endRun p` and `beforeEndRun p` cut a list where its longest final run of elements satisfying `p`
begins. They are Mathlib's `List.rtakeWhile` and `List.rdropWhile`, written out here because the
program itself is built on the core library alone; proofs about them use Mathlib's lemmas.
-/

namespace StubGen

/-- The longest final run of elements that satisfy `p`. -/
def endRun {α : Type} (p : α → Bool) (l : List α) : List α :=
  (l.reverse.takeWhile p).reverse

/-- What stands before the longest final run of elements that satisfy `p`. -/
def beforeEndRun {α : Type} (p : α → Bool) (l : List α) : List α :=
  (l.reverse.dropWhile p).reverse

end StubGen
