import StubGen.CommandLine.Parser
import StubGen.Workbench
import StubGen.Write

/-!
# Running the command line

Each command reads the file that the user named, generates or looks up what was asked for, and
reports on standard output or standard error. An error ends the run with one line on standard
error.
-/

namespace StubGen.CommandLine

/-- The anchor line that the user chose. Lines are counted from one. -/
def AnchorChoice.resolve (choice : AnchorChoice) (fileText : Text) : Except Error Text :=
  match choice.line with
  | some line => .ok line
  | none =>
    match choice.number.getD 0 with
    | 0 => .error (.lineOutOfRange 0)
    | n + 1 =>
      match (Text.lines fileText)[n]? with
      | some line => .ok line
      | none => .error (.lineOutOfRange (n + 1))

/-- The path without the mark that some systems put in front of long absolute paths. -/
def cleanPath (path : Text) : Text := (Text.stripStart? "\\\\?\\".toList path).getD path

/-- The directory for the data of programs: the one that the environment names, if it is absolute,
else the usual one in the home directory. -/
def dataDirOf (named home : Option Path) : Option Path :=
  match named.filter Path.isAbsolute with
  | some dir => some dir
  | none => home.map (·.join (Path.ofText ".local/share".toList))

/-- The preference file in a directory for the data of programs. -/
def defaultPrefsPath (dataDir : Option Path) : Path :=
  ((dataDir.getD (Path.ofText ['.'])).join (Path.ofText "gtest-scaffold".toList)).join
    (Path.ofText "output-dirs.json".toList)

/-- What a successful command prints. -/
structure Output where
  out : Text
  err : Text

namespace Output

def toOut (t : Text) : Output := ⟨t, []⟩

def toErr (t : Text) : Output := ⟨[], t⟩

/-- A plan that was only drafted is printed; one that was carried out is summed up. -/
def ofPlan (plan : Plan) (print : Bool) : Output :=
  if print then toOut plan.text
  else toErr
    ((if plan.created then "Created ".toList else "Updated ".toList) ++ plan.path.display ++
      " (wrote ".toList ++ Text.ofNat (Text.byteSize plan.text) ++ " bytes at offset ".toList ++
      Text.ofNat plan.offset ++ ")\n".toList)

/-- An insertion point as an object, one field on a line. -/
def ofPoint (point : InsertionPoint) : Output :=
  toOut
    ("\x7b\n  \"offset\": ".toList ++ Text.ofNat point.offset ++
      ",\n  \"closing_braces\": ".toList ++ Text.ofNat point.closers ++
      ",\n  \"mode\": \"".toList ++ point.mode.label ++ "\"\n\x7d\n".toList)

end Output

section

variable {m : Type → Type} [Monad m] [FileSystem m]

/-- The text of a file that the user named. It is only read, so invalid parts are replaced. -/
def readInput (path : Path) : ExceptT Error (OnDisk m) Text := do
  let (t, repaired) ←
    Workbench.onFiles (.unreadableInput path.display) (Workbench.readRepaired path)
  if repaired then Journal.record (.inputRepaired path)
  return t

/-- The path under which preferences keep a source: absolute if the source exists. -/
def canonicalSource (path : Path) : ExceptT Error (OnDisk m) Path := do
  match ← ExceptT.lift (StateT.lift (FileSystem.realPath path).run) with
  | .ok real => return Path.ofText (cleanPath real.display)
  | .error _ => return path

def runMock (file : Path) (anchor : AnchorChoice) (into : Path) (print : Bool) :
    ExceptT Error (OnDisk m) Output := do
  ExceptT.mk (pure (checkFileKind file headerEnding))
  let headerText ← readInput file
  let line ← ExceptT.mk (pure (anchor.resolve headerText))
  Journal.record (.generatingMock file (Text.trim line))
  let plan ←
    if print then draftMock file headerText line into else writeMock file headerText line into
  return .ofPlan plan print

def runTest (prefsPath file : Path) (anchor : AnchorChoice) (outDir : Option Path) (print : Bool) :
    ExceptT Error (OnDisk m) Output := do
  ExceptT.mk (pure (checkFileKind file sourceEnding))
  let sourceText ← readInput file
  let line ← ExceptT.mk (pure (anchor.resolve sourceText))
  let source ← canonicalSource file
  Journal.record (.generatingStub source (Text.trim line))
  Workbench.openPreferences prefsPath
  let plan ←
    if print then draftTest source sourceText line outDir
    else writeTest source sourceText line outDir
  return .ofPlan plan print

def runOffset (file : Path) (kind : BlockKind) : ExceptT Error (OnDisk m) Output := do
  let t ← readInput file
  let point ← ExceptT.mk (pure (Placement.locate t kind))
  return .ofPoint point

/-- A source and a directory, as they are shown. -/
def arrow (source dir : Text) : Text := source ++ " -> ".toList ++ dir ++ ['\n']

/-- The line that says that nothing is stored for a source. -/
def nothingStored (source : Path) : Text :=
  "No output directory stored for ".toList ++ source.display ++ ['\n']

def runPrefs (prefsPath : Path) (action : PrefsAction) : ExceptT Error (OnDisk m) Output := do
  Workbench.openPreferences prefsPath
  match action with
  | .get source =>
    let source ← canonicalSource source
    match ← ExceptT.lift (OutputDirs.get? source) with
    | some dir => return .toOut (dir.display ++ ['\n'])
    | none => return .toErr (nothingStored source)
  | .set source dir =>
    let source ← canonicalSource source
    OutputDirs.set source dir
    return .toErr (arrow source.display dir.display)
  | .clear source =>
    let source ← canonicalSource source
    if ← Workbench.clearOutputDir source then
      return .toErr ("Cleared output directory for ".toList ++ source.display ++ ['\n'])
    else return .toErr (nothingStored source)
  | .list =>
    let prefs := (← getThe Workbench).preferences
    return ⟨prefs.entries.flatMap fun (source, dir) => arrow source dir.display,
      "Preferences: ".toList ++ prefs.path.display ++ ['\n']⟩

def runCommand (dataDir : Option Path) (i : Invocation) : ExceptT Error (OnDisk m) Output :=
  let prefsPath := i.prefs.getD (defaultPrefsPath dataDir)
  match i.command with
  | .mock file anchor into print => runMock file anchor into print
  | .test file anchor outDir print => runTest prefsPath file anchor outDir print
  | .offset file kind => runOffset file kind
  | .prefs action => runPrefs prefsPath action

/-- What a run leaves for the user. -/
structure Report where
  exitCode : Nat
  out : Text
  err : Text
  /-- The events that are shown. -/
  log : List Event

def versionLine : Text := "gtest-scaffold 0.1.0\n".toList

def usage : Text :=
  ("Usage: gtest-scaffold [--log-level <LEVEL>] <COMMAND>\n\n" ++
    "Commands:\n" ++
    "  mock    Generate a mock class from a class or __interface in a header\n" ++
    "  test    Generate a typed test stub for a method in a source file\n" ++
    "  offset  Show where the next generated block would go in an existing file\n" ++
    "  prefs   Manage remembered output directories\n").toList

/-- The report on a command line that is not carried out. -/
def Refusal.report : Refusal → Report
  | .helpAsked => ⟨0, usage, [], []⟩
  | .versionAsked => ⟨0, versionLine, [], []⟩
  | _ => ⟨2, [], usage, []⟩

/-- Runs a command line, without the name of the program. -/
def run (dataDir : Option Path) (words : List Bytes) : m Report := do
  match parse words with
  | .error refusal => return refusal.report
  | .ok invocation =>
    let level := Level.ofText (invocation.logLevel.getD defaultLogLevel)
    let (result, workbench) ← (runCommand dataDir invocation).run.run Workbench.fresh
    let log := workbench.log.filter (·.isShown level)
    match result with
    | .ok output => return ⟨0, output.out, output.err, log⟩
    | .error e => return ⟨1, [], "Error: ".toList ++ e.message ++ ['\n'], log⟩

end

end StubGen.CommandLine
