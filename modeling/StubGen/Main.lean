import StubGen.CommandLine.Run
import StubGen.Disk

/-!
# The program

Connects the command line to the file system of the host.
-/

namespace StubGen.Host

/-- A path as the host takes it. -/
def nameOf (p : Path) : String := String.ofList p.display

/-- A name as the host gives it. -/
def pathOf (name : String) : Path := Path.ofText name.toList

/-- The cause of a failure of the host. -/
def faultOf (e : IO.Error) : Fault :=
  match e with
  | .noFileOrDirectory .. => .noSuchEntry
  | .alreadyExists .. => .alreadyExists
  | .inappropriateType _ code _ =>
    if code == 20 then .notADirectory
    else if code == 21 then .isADirectory
    else .other (toString e).toList
  | _ => .other (toString e).toList

def attempt {α : Type} (action : IO α) : ExceptT Fault IO α := ExceptT.mk do
  try
    return .ok (← action)
  catch e => return .error (faultOf e)

/-- The contents of a file, or nothing if there is none. -/
def readExisting (p : Path) : ExceptT Fault IO Bytes := ExceptT.mk do
  match ← (attempt (IO.FS.readBinFile (nameOf p))).run with
  | .error .noSuchEntry => return .ok []
  | .ok contents => return .ok contents.toList
  | .error fault => return .error fault

/-- Gives a file new contents; a missing file is made. -/
def replace (p : Path) (contents : Bytes) : ExceptT Fault IO Unit :=
  attempt (IO.FS.writeBinFile (nameOf p) (ByteArray.mk contents.toArray))

instance : FileSystem IO where
  read p := do return (← attempt (IO.FS.readBinFile (nameOf p))).toList
  overwrite p offset bytes := do
    let current ← readExisting p
    match Disk.checkExtent offset bytes.length with
    | .ok _ => replace p (Disk.overwritten current offset bytes)
    | .error fault =>
      replace p current
      throw fault
  makeDir p := attempt (IO.FS.createDir (nameOf p))
  isDir p := do
    match ← (attempt (IO.FS.realPath (nameOf p))).run with
    | .ok real => real.isDir
    | .error _ => return false
  realPath p := do return pathOf (← attempt (IO.FS.realPath (nameOf p))).toString

/-- The directory for the data of programs on this host. -/
def dataDir : IO (Option Path) := do
  let named ← IO.getEnv "XDG_DATA_HOME"
  let home ← IO.getEnv "HOME"
  return CommandLine.dataDirOf (named.map pathOf) ((home.filter (· != "")).map pathOf)

end StubGen.Host

/-- Runs the command line and shows its report. -/
def main (args : List String) : IO UInt32 := do
  let words := args.map fun arg => StubGen.Utf8.encode arg.toList
  let report ← StubGen.CommandLine.run (← StubGen.Host.dataDir) words
  for event in report.log do
    IO.eprintln (String.ofList event.render)
  IO.eprint (String.ofList report.err)
  IO.print (String.ofList report.out)
  return UInt32.ofNat report.exitCode
