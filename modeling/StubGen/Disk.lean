import StubGen.FileSystem

/-!
# A disk as a value

A disk is a finite map from locations to files and directories, with a working directory. Names are
looked up segment by segment: a filler asks for a directory and stays in it, two dots step up, and a
file in the middle of a path is a fault. Making an entry resolves all but the last segment first.
-/

namespace StubGen

/-- The names from the root down to an entry. -/
abbrev Location := List Bytes

inductive Node where
  | dir
  | file (contents : Bytes)
  deriving DecidableEq

/-- Files and directories, and the directory that relative paths start from. -/
structure Disk where
  entries : List (Location × Node)
  workingDir : Location

namespace Disk

/-- The longest name that a directory takes. -/
def maxNameLength : Nat := 255

/-- A path has to be shorter than this. -/
def maxPathLength : Nat := 4096

/-- What stands at a location; the root is always a directory. -/
def node? (d : Disk) (loc : Location) : Option Node :=
  if loc.isEmpty then some .dir else d.entries.lookup loc

/-- The disk with an entry made or replaced. -/
def put (d : Disk) (loc : Location) (node : Node) : Disk :=
  { d with entries := (loc, node) :: d.entries.filter (·.1 != loc) }

/-- Paths that no lookup takes. -/
def checkPath (p : Path) : Except Fault Unit :=
  if p.bytes.contains 0 then .error .zeroByteInName
  else if p.bytes.isEmpty then .error .noSuchEntry
  else if maxPathLength ≤ p.bytes.length then .error .nameTooLong
  else .ok ()

/-- Refuses a location that is not a directory. -/
def checkDir (d : Disk) (loc : Location) : Except Fault Unit :=
  match d.node? loc with
  | some .dir => .ok ()
  | some (.file _) => .error .notADirectory
  | none => .error .noSuchEntry

/-- What stands under a name in a directory. -/
def child (d : Disk) (dir : Location) (name : Bytes) : Except Fault (Option Node) :=
  if maxNameLength < name.length then .error .nameTooLong else .ok (d.node? (dir ++ [name]))

/-- Looks up segments from a location on. -/
def walk (d : Disk) (loc : Location) : List Bytes → Except Fault Location
  | [] => .ok loc
  | segment :: rest => do
    d.checkDir loc
    if Path.isFiller segment then walk d loc rest
    else if segment == [Path.dot, Path.dot] then walk d loc.dropLast rest
    else match ← d.child loc segment with
      | none => .error .noSuchEntry
      | some _ => walk d (loc ++ [segment]) rest

/-- Where the lookup of a path begins. -/
def start (d : Disk) (p : Path) : Location := if p.isAbsolute then [] else d.workingDir

def locate (d : Disk) (p : Path) : Except Fault Location := do
  checkPath p
  d.walk (d.start p) p.segments

/-- Where a path would make an entry: the directory and the name in it. There is no name if the path
ends with dots or is the root. -/
structure Slot where
  dir : Location
  name? : Option Bytes

/-- The segments of a path without the empty ones at its end. -/
def namedSegments (p : Path) : List Bytes := beforeEndRun (·.isEmpty) p.segments

/-- Finds where a path would make an entry. -/
def slot (d : Disk) (p : Path) : Except Fault Slot := do
  checkPath p
  let dir ← d.walk (d.start p) (namedSegments p).dropLast
  d.checkDir dir
  match (namedSegments p).getLast? with
  | none => .ok ⟨dir, none⟩
  | some name =>
    if name == [Path.dot] || name == [Path.dot, Path.dot] then .ok ⟨dir, none⟩
    else .ok ⟨dir, some name⟩

def read (d : Disk) (p : Path) : Except Fault Bytes := do
  let loc ← d.locate p
  match d.node? loc with
  | some (.file contents) => .ok contents
  | some .dir => .error .isADirectory
  | none => .error .noSuchEntry

/-- There is a directory of that name. -/
def isDir (d : Disk) (p : Path) : Bool :=
  match d.locate p with
  | .ok loc => d.node? loc == some .dir
  | .error _ => false

def makeDir (d : Disk) (p : Path) : Except Fault Disk := do
  let slot ← d.slot p
  match slot.name? with
  | none => .error .alreadyExists
  | some name =>
    match ← d.child slot.dir name with
    | some _ => .error .alreadyExists
    | none => .ok (d.put (slot.dir ++ [name]) .dir)

/-- File contents with bytes written over them at an offset. A gap before the offset is filled with
zeros; writing no bytes leaves the contents as they are. -/
def overlaid (current : Bytes) (offset : Nat) (bytes : Bytes) : Bytes :=
  if bytes.isEmpty then current
  else current.take offset ++ List.replicate (offset - current.length) 0 ++ bytes ++
    current.drop (offset + bytes.length)

/-- File contents cut off at a length, or filled up to it with zeros. -/
def resized (contents : Bytes) (length : Nat) : Bytes :=
  contents.take length ++ List.replicate (length - contents.length) 0

/-- File contents after they are overwritten from an offset on: the bytes are written over them, and
the file ends after the bytes. -/
def overwritten (current : Bytes) (offset : Nat) (bytes : Bytes) : Bytes :=
  resized (overlaid current offset bytes) (offset + bytes.length)

/-- The most bytes that a file can have: its blocks of 4096 bytes are counted in 32 bits. -/
def maxFileSize : Nat := 0xFFFFFFFF * 4096

/-- Refuses bytes that reach beyond the largest file, and any offset that lies beyond it. -/
def checkExtent (offset length : Nat) : Except Fault Unit :=
  if maxFileSize < offset then .error .invalidArgument
  else if maxFileSize < offset + length then .error .fileTooLarge
  else .ok ()

/-- The location of a file that is to be written, and its contents. A missing file has none. -/
def writable (d : Disk) (p : Path) : Except Fault (Location × Bytes) := do
  let slot ← d.slot p
  match slot.name?, p.bytes.getLast? == some Path.slash with
  | some name, false =>
    match ← d.child slot.dir name with
    | some .dir => .error .isADirectory
    | some (.file contents) => .ok (slot.dir ++ [name], contents)
    | none => .ok (slot.dir ++ [name], [])
  | _, _ => .error .isADirectory

/-- Overwrites a file from an offset on. A missing file is made even if the bytes are refused. -/
def overwrite (d : Disk) (p : Path) (offset : Nat) (bytes : Bytes) : Except Fault Unit × Disk :=
  match d.writable p with
  | .error fault => (.error fault, d)
  | .ok (loc, current) =>
    match checkExtent offset bytes.length with
    | .error fault => (.error fault, d.put loc (.file current))
    | .ok _ => (.ok (), d.put loc (.file (overwritten current offset bytes)))

def pathOf (loc : Location) : Path := ⟨Path.slash :: [Path.slash].intercalate loc⟩

/-- The absolute path of an existing entry. -/
def realPath (d : Disk) (p : Path) : Except Fault Path := (d.locate p).map pathOf

/-- The files below a directory, by their paths relative to it. -/
def filesBelow (d : Disk) (dir : Location) : List (Path × Bytes) :=
  d.entries.filterMap fun (loc, node) =>
    match node with
    | .file contents =>
      if dir.isPrefixOf loc then some (Path.ofSegments (loc.drop dir.length), contents) else none
    | .dir => none

instance : FileSystem (StateM Disk) where
  read p := fun d => (d.read p, d)
  overwrite p offset bytes := fun d => d.overwrite p offset bytes
  makeDir p := fun d =>
    match d.makeDir p with
    | .ok new => (.ok (), new)
    | .error fault => (.error fault, d)
  isDir p := fun d => (d.isDir p, d)
  realPath p := fun d => (d.realPath p, d)

end Disk

end StubGen
