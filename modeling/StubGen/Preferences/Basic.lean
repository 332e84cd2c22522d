import StubGen.FileSystem
import StubGen.Preferences.Format

/-!
# Preferences

The output directories that were chosen for sources. A source is keyed by its path as it is shown,
entries are in the order of their keys, and every change is saved at once. Directories may be any
bytes, but only those that are valid UTF-8 can be saved.
-/

namespace StubGen

/-- The chosen output directories and the file in which they are kept. -/
structure Preferences where
  path : Path
  entries : List (Text × Path)
  deriving DecidableEq

namespace Preferences

def keyOf (source : Path) : Text := source.display

/-- The entries with a new directory for a key, in the order of keys. -/
def insertEntry (key : Text) (dir : Path) : List (Text × Path) → List (Text × Path)
  | [] => [(key, dir)]
  | (k, d) :: rest =>
    if key = k then (key, dir) :: rest
    else if key < k then (key, dir) :: (k, d) :: rest
    else (k, d) :: insertEntry key dir rest

def get? (p : Preferences) (source : Path) : Option Path := p.entries.lookup (keyOf source)

/-- The preferences with a directory stored for a source. -/
def insert (p : Preferences) (source dir : Path) : Preferences :=
  { p with entries := insertEntry (keyOf source) dir p.entries }

/-- The preferences without a directory for a source. -/
def erase (p : Preferences) (source : Path) : Preferences :=
  { p with entries := p.entries.filter (·.1 != keyOf source) }

/-- An entry as it is saved, if its directory is valid UTF-8. -/
def renderable? (entry : Text × Path) : Option (Text × Text) :=
  (Utf8.decode? entry.2.bytes).map (entry.1, ·)

/-- The text of the preference file, if every directory is valid UTF-8. -/
def render? (p : Preferences) : Option Text :=
  (p.entries.mapM renderable?).map Format.render

/-- The preferences that the text of a file holds; of two entries with one key the later counts. -/
def ofText? (path : Path) (t : Text) : Option Preferences :=
  (Format.read? t).map fun entries =>
    ⟨path, entries.foldl (fun known (key, dir) => insertEntry key (Path.ofText dir) known) []⟩

/-- The preferences that the contents of a file hold. -/
def ofBytes (path : Path) (bytes : Bytes) : Except Error Preferences :=
  match Utf8.decode? bytes with
  | none => .error (.io .invalidText)
  | some t =>
    match ofText? path t with
    | some p => .ok p
    | none => .error (.preferences path.display "not an object of strings".toList)

section

variable {m : Type → Type} [Monad m] [FileSystem m]

/-- Loads the preferences kept in a file; a missing file has none. -/
def load (path : Path) : ExceptT Error m Preferences := do
  match ← ExceptT.lift (FileSystem.read path).run with
  | .ok bytes => ExceptT.mk (pure (ofBytes path bytes))
  | .error .noSuchEntry => return ⟨path, []⟩
  | .error fault => throw (.io fault)

/-- Saves the preferences. The directory of the file is made first. -/
def save (p : Preferences) : ExceptT Error m Unit := do
  if let some dir := p.path.parent? then
    (FileSystem.makeDirs dir).adapt Error.io
  match p.render? with
  | none =>
    throw (.preferences p.path.display "path contains invalid UTF-8 characters".toList)
  | some t => (FileSystem.overwrite p.path 0 (Utf8.encode t)).adapt Error.io

end

end Preferences

end StubGen
