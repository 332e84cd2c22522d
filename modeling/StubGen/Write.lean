import StubGen.Journal
import StubGen.Plan
import StubGen.Store

/-!
# Writing

Reading the target, planning and writing, against any store. A draft stops before the write, so a
user can look at it first; the write goes through the same draft. An output directory is remembered
only after the write succeeded.
-/

namespace StubGen

/-! ## What planning reports -/

/-- The events of reading members: each one is reported before it is read, and the first that cannot
be read ends the reading. -/
def memberEvents : List Member → List Event
  | [] => []
  | m :: rest =>
    .acceptedMember m :: (match m.declaration with
      | .ok _ => memberEvents rest
      | .error _ => [])

def Mock.events (names : SourceNames) (header anchor : Text) : List Event :=
  (match scanMembers header anchor (isInterfaceAnchor anchor) with
    | .ok members => memberEvents members
    | .error _ => []) ++
  (match Mock.generate names header anchor with
    | .ok mock => [.scannedBody names.className (isInterfaceAnchor anchor) mock.methods.length]
    | .error _ => [])

/-- The events of finding a place in the current text. -/
def placementEvents (kind : BlockKind) (placed : InsertionPoint → Event)
    (existing : Option Text) : List Event :=
  match Plan.present? existing with
  | none => []
  | some current =>
    match Placement.locate current kind with
    | .ok point => [placed point]
    | .error _ => []

def Plan.mockEvents (header : Path) (headerText anchor : Text) (existing : Option Text) :
    List Event :=
  if header.hasEnding headerEnding then
    Mock.events (namesOf header) headerText anchor ++
      (match Mock.generate (namesOf header) headerText anchor with
        | .ok _ => placementEvents .mock .placedMock existing
        | .error _ => [])
  else []

def Plan.testEvents (source : Path) (sourceText anchor : Text) (existing : Option Text) :
    List Event :=
  if source.hasEnding sourceEnding then
    match TestStub.generate (namesOf source) sourceText anchor (present? existing) with
    | .ok _ => placementEvents .test .placedTest existing
    | .error _ => []
  else []

/-! ## Output directories -/

/-- Where the tests of a source go. -/
structure OutputDir where
  dir : Path
  /-- The directory was chosen now and is not stored yet. -/
  remember : Bool
  deriving DecidableEq

/-- The stored directory if there is one, else the chosen one. -/
def chooseDir (source : Path) (stored chosen : Option Path) : Except Error OutputDir :=
  match stored, chosen with
  | some dir, _ => .ok ⟨dir, false⟩
  | none, some dir => .ok ⟨dir, true⟩
  | none, none => .error (.noOutputDir source.display)

/-- A chosen directory that differs from the stored one is ignored, which is reported. -/
def chooseDirEvents (stored chosen : Option Path) : List Event :=
  match stored, chosen with
  | some dir, some other => if other.same dir then [] else [.keptStoredDir dir other]
  | _, _ => []

/-- The path of a source's test file in a directory. -/
def testFileIn (dir source : Path) : Path :=
  dir.join (Path.ofText (Plan.namesOf source).testFileName)

section

variable {m : Type → Type} [Monad m] [Journal m]

/-- Finds the output directory of a source. -/
def resolveOutputDir [OutputDirs m] (source : Path) (chosen : Option Path) :
    ExceptT Error m OutputDir := do
  let stored ← ExceptT.lift (OutputDirs.get? source)
  Journal.recordAll (chooseDirEvents stored chosen)
  ExceptT.mk (pure (chooseDir source stored chosen))

/-- The path of a source's test file. -/
def testTarget [OutputDirs m] (source : Path) (chosen : Option Path) : ExceptT Error m Path := do
  let out ← resolveOutputDir source chosen
  return testFileIn out.dir source

/-! ## Mocks -/

/-- The plan for a mock, given what the target holds now. -/
def draftMock [FileStore m] (header : Path) (headerText anchor : Text) (target : Path) :
    ExceptT Error m Plan := do
  let existing ← FileStore.read target
  Journal.recordAll (Plan.mockEvents header headerText anchor existing)
  ExceptT.mk (pure (Plan.mock header headerText anchor target existing))

def writeMock [FileStore m] (header : Path) (headerText anchor : Text) (target : Path) :
    ExceptT Error m Plan := do
  let plan ← draftMock header headerText anchor target
  FileStore.writeAt plan.path plan.offset plan.text
  Journal.record (.mockWritten plan.path plan.created)
  return plan

/-! ## Tests -/

/-- The plan for a test whose file is known, given what that file holds now. -/
def draftTestAt [FileStore m] (source : Path) (sourceText anchor : Text) (target : Path) :
    ExceptT Error m Plan := do
  let existing ← FileStore.read target
  Journal.recordAll (Plan.testEvents source sourceText anchor existing)
  ExceptT.mk (pure (Plan.test source sourceText anchor target existing))

/-- The plan for a test, in the output directory of its source. -/
def draftTest [FileStore m] [OutputDirs m] (source : Path) (sourceText anchor : Text)
    (chosen : Option Path) : ExceptT Error m Plan := do
  let target ← testTarget source chosen
  draftTestAt source sourceText anchor target

/-- Writes a test into the output directory of its source, and remembers a directory that was chosen
now. -/
def writeTest [FileStore m] [OutputDirs m] (source : Path) (sourceText anchor : Text)
    (chosen : Option Path) : ExceptT Error m Plan := do
  ExceptT.mk (pure (checkFileKind source sourceEnding))
  let out ← resolveOutputDir source chosen
  let plan ← draftTestAt source sourceText anchor (testFileIn out.dir source)
  FileStore.writeAt plan.path plan.offset plan.text
  Journal.record (.testWritten plan.path plan.created)
  if out.remember then
    OutputDirs.set source out.dir
    Journal.record (.rememberedDir source out.dir)
  return plan

end

end StubGen
