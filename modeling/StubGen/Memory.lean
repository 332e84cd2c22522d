import StubGen.Journal
import StubGen.PathMap
import StubGen.Store

/-!
# A store in memory

Files and output directories are maps keyed by paths. Nothing fails, and nothing is reported.
-/

namespace StubGen

structure Memory where
  files : PathMap Text
  dirs : PathMap Path

namespace Memory

def empty : Memory := ⟨.empty, .empty⟩

/-- The memory with a file replaced or added. -/
def putFile (mem : Memory) (path : Path) (text : Text) : Memory :=
  { mem with files := mem.files.insert path text }

/-- The text of a file after it is overwritten from an offset on. -/
def overwritten (current : Option Text) (offset : Nat) (text : Text) : Text :=
  Text.takeBytes offset (current.getD []) ++ text

instance : FileStore (StateM Memory) where
  read path := return (← getThe Memory).files.get? path
  writeAt path offset text :=
    modifyThe Memory fun mem => mem.putFile path (overwritten (mem.files.get? path) offset text)

instance : OutputDirs (StateM Memory) where
  get? source := return (← get).dirs.get? source
  set source dir := modifyThe Memory fun mem => { mem with dirs := mem.dirs.insert source dir }

instance : Journal (StateM Memory) where
  record _ := pure ()

end Memory

end StubGen
