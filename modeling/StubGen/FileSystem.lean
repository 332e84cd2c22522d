import StubGen.Error
import StubGen.Path

/-!
# File systems

What the program needs from a file system: reading, overwriting, making directories and resolving
names. Making a directory together with those above it is built from these.
-/

namespace StubGen

class FileSystem (m : Type → Type) where
  /-- The contents of a file. -/
  read : Path → ExceptT Fault m Bytes
  /-- Overwrites a file from an offset on and ends it after the bytes. A missing file is made, even
  if the bytes are then refused, and a gap before the offset is filled with zeros. -/
  overwrite : Path → Nat → Bytes → ExceptT Fault m Unit
  /-- Makes one directory. -/
  makeDir : Path → ExceptT Fault m Unit
  /-- There is a directory of that name. -/
  isDir : Path → m Bool
  /-- The absolute path without fillers and steps up. -/
  realPath : Path → ExceptT Fault m Path

/-- The path, its parent, the parent of that, and so on; `fuel` bounds their number. -/
def Path.ancestorsUpTo : (fuel : Nat) → Path → List Path
  | 0, _ => []
  | fuel + 1, p =>
    p :: (match p.parent? with
      | some above => ancestorsUpTo fuel above
      | none => [])

/-- The path and all paths above it. A parent is shorter, so their number is bounded by the
length. -/
def Path.ancestors (p : Path) : List Path := p.ancestorsUpTo (p.bytes.length + 1)

namespace FileSystem

variable {m : Type → Type} [Monad m] [FileSystem m]

/-- Makes a directory, and does not mind if there is one already. -/
def ensureDir (p : Path) : ExceptT Fault m Unit := do
  match ← ExceptT.lift (makeDir p).run with
  | .ok _ => return
  | .error fault => if ← ExceptT.lift (isDir p) then return else throw fault

/-- Makes the first directory of the list. Where its parent is missing, the rest of the list is made
first. -/
def makeDirsFrom : List Path → ExceptT Fault m Unit
  | [] => throw .noSuchEntry
  | p :: above => do
    if p.bytes.isEmpty then return
    match ← ExceptT.lift (makeDir p).run with
    | .ok _ => return
    | .error .noSuchEntry =>
      makeDirsFrom above
      ensureDir p
    | .error fault => if ← ExceptT.lift (isDir p) then return else throw fault

/-- Makes a directory and those above it. -/
def makeDirs (p : Path) : ExceptT Fault m Unit := makeDirsFrom p.ancestors

end FileSystem

end StubGen
