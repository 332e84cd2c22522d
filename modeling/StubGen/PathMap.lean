import StubGen.Path

/-!
# Maps keyed by paths

A finite map in which two paths are the same key when they have the same components.

Results:

* `get?_insert`: an insertion changes the value of one key only.
-/

namespace StubGen

/-- A finite map keyed by the components of paths. -/
structure PathMap (α : Type) where
  entries : List (List Path.Component × α)

namespace PathMap

variable {α : Type}

def empty : PathMap α := ⟨[]⟩

def get? (m : PathMap α) (p : Path) : Option α := m.entries.lookup p.components

/-- The map with a new value for a path. -/
def insert (m : PathMap α) (p : Path) (a : α) : PathMap α := ⟨(p.components, a) :: m.entries⟩

/-- An insertion sets the value of the paths that are the same, and no other. -/
theorem get?_insert (m : PathMap α) (p q : Path) (a : α) :
    (m.insert p a).get? q = if q.same p then some a else m.get? q := by
  simp only [get?, insert, Path.same, List.lookup_cons]
  split <;> simp_all

end PathMap

end StubGen
