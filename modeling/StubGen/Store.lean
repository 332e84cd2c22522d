import StubGen.Path
import StubGen.Error

/-!
# Stores

What a write needs from its surroundings: files that can be read and overwritten, and a memory of
the output directory chosen for each source.
-/

namespace StubGen

class FileStore (m : Type → Type) where
  /-- The text of a file, or nothing if there is no such file. -/
  read : Path → ExceptT Error m (Option Text)
  /-- Overwrites a file from a byte offset on and ends it after the text; a missing file is made. -/
  writeAt : Path → Nat → Text → ExceptT Error m Unit

class OutputDirs (m : Type → Type) where
  /-- The directory stored for a source. -/
  get? : Path → m (Option Path)
  /-- Stores a directory for a source. -/
  set : Path → Path → ExceptT Error m Unit

end StubGen
