import StubGen.Journal
import StubGen.Preferences.Basic
import StubGen.Store

/-!
# Working on a file system

Files are read and written through a file system, output directories are kept in preferences that
are saved on every change, and events are recorded. A file that is to be updated has to be valid
UTF-8, because it is cut by byte offsets; a file that is only read may hold anything.
-/

namespace StubGen

/-- What a run keeps beside the file system. -/
structure Workbench where
  preferences : Preferences
  /-- The events so far, in order. -/
  log : List Event

/-- Computations on a file system with a workbench. -/
abbrev OnDisk (m : Type → Type) := StateT Workbench m

namespace Workbench

/-- A workbench on which nothing has happened. -/
def fresh : Workbench := ⟨⟨⟨[]⟩, []⟩, []⟩

variable {m : Type → Type} [Monad m] [FileSystem m]

instance : Journal (OnDisk m) where
  record e := modify fun w => { w with log := w.log ++ [e] }

/-- Runs an operation of the file system. -/
def onFiles {α : Type} (wrap : Fault → Error) (operation : ExceptT Fault m α) :
    ExceptT Error (OnDisk m) α := do
  match ← ExceptT.lift (StateT.lift operation.run) with
  | .ok a => return a
  | .error fault => throw (wrap fault)

/-- Runs a computation that needs no workbench. -/
def onDisk {α : Type} (computation : ExceptT Error m α) : ExceptT Error (OnDisk m) α := do
  let result ← ExceptT.lift (StateT.lift computation.run)
  ExceptT.mk (pure result)

/-- Reads a file that is to be updated. -/
def readTarget (path : Path) : ExceptT Error (OnDisk m) (Option Text) := do
  match ← ExceptT.lift (StateT.lift (FileSystem.read path).run) with
  | .ok bytes =>
    match Utf8.decode? bytes with
    | some t => return some t
    | none => throw (.undecodableTarget path.display)
  | .error .noSuchEntry => return none
  | .error fault => throw (.io fault)

/-- Overwrites a file from an offset on. The directory of the file is made first. -/
def writeTarget (path : Path) (offset : Nat) (t : Text) : ExceptT Error (OnDisk m) Unit := do
  if let some dir := path.parent? then
    onFiles .io (FileSystem.makeDirs dir)
  onFiles .io (FileSystem.overwrite path offset (Utf8.encode t))
  Journal.record (.wroteText path offset (Text.byteSize t))

instance : FileStore (OnDisk m) where
  read := readTarget
  writeAt := writeTarget

instance : OutputDirs (OnDisk m) where
  get? source := return (← get).preferences.get? source
  set source dir := do
    modifyThe Workbench fun w => { w with preferences := w.preferences.insert source dir }
    onDisk (← getThe Workbench).preferences.save

/-- Takes up the preferences kept in a file. -/
def openPreferences (path : Path) : ExceptT Error (OnDisk m) Unit := do
  let loaded ← onDisk (Preferences.load path)
  Journal.record (.loadedPreferences path loaded.entries.length)
  modifyThe Workbench fun w => { w with preferences := loaded }

/-- Forgets the output directory of a source; false if there was none. -/
def clearOutputDir (source : Path) : ExceptT Error (OnDisk m) Bool := do
  let before := (← getThe Workbench).preferences
  if (before.get? source).isSome then
    modifyThe Workbench fun w => { w with preferences := before.erase source }
    onDisk (before.erase source).save
    return true
  else return false

/-- Reads a file as far as it can be read: invalid parts are replaced, and the flag says whether
there were any. -/
def readRepaired (path : Path) : ExceptT Fault m (Text × Bool) := do
  let bytes ← FileSystem.read path
  match Utf8.decode? bytes with
  | some t => return (t, false)
  | none => return (Utf8.decodeLossy bytes, true)

end Workbench

end StubGen
