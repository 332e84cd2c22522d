import StubGen.ClassBody
import StubGen.Path
import StubGen.Placement

/-!
# The journal

Commands report what they do as events. An event has a level and a line of text; how much of the
journal is shown is up to the user.
-/

namespace StubGen

inductive Level where
  | error
  | warn
  | info
  | debug
  | trace
  deriving DecidableEq

namespace Level

/-- The more important a level, the lower its rank. -/
def rank : Level → Nat
  | error => 0
  | warn => 1
  | info => 2
  | debug => 3
  | trace => 4

/-- The level as it is written in front of an event. -/
def label : Level → Text
  | error => "ERROR".toList
  | warn => "WARN".toList
  | info => "INFO".toList
  | debug => "DEBUG".toList
  | trace => "TRACE".toList

/-- The level that a user asked for; an unknown name means warnings. -/
def ofText (name : Text) : Level :=
  if name == "error".toList then error
  else if name == "info".toList then info
  else if name == "debug".toList then debug
  else if name == "trace".toList then trace
  else warn

end Level

/-- The written form of a placement mode. -/
def PlacementMode.label : PlacementMode → Text
  | .insideNamespaces => "InsideNamespaces".toList
  | .beforeSuite => "BeforeTypedTestSuite".toList

/-- Something that a command did or noticed. -/
inductive Event where
  | inputRepaired (file : Path)
  | generatingMock (file : Path) (anchor : Text)
  | generatingStub (file : Path) (anchor : Text)
  | acceptedMember (member : Member)
  | scannedBody (className : Text) (inInterface : Bool) (methods : Nat)
  | placedMock (point : InsertionPoint)
  | placedTest (point : InsertionPoint)
  | loadedPreferences (path : Path) (entries : Nat)
  | keptStoredDir (stored ignored : Path)
  | wroteText (path : Path) (offset bytes : Nat)
  | mockWritten (path : Path) (created : Bool)
  | testWritten (path : Path) (created : Bool)
  | rememberedDir (source dir : Path)
  deriving DecidableEq

namespace Event

def level : Event → Level
  | inputRepaired .. => .warn
  | keptStoredDir .. => .warn
  | mockWritten .. => .info
  | testWritten .. => .info
  | rememberedDir .. => .info
  | acceptedMember .. => .trace
  | _ => .debug

def title : Event → Text
  | inputRepaired .. => "File is not valid UTF-8; invalid bytes were replaced".toList
  | generatingMock .. => "Generating mock".toList
  | generatingStub .. => "Generating test stub".toList
  | acceptedMember .. => "Accepted member".toList
  | scannedBody .. => "Scanned class body".toList
  | placedMock .. => "Located mock insertion point".toList
  | placedTest .. => "Located test insertion point".toList
  | loadedPreferences .. => "Loaded output-dir preferences".toList
  | keptStoredDir .. =>
    "Output directory already set for this file; use 'prefs set' to change it".toList
  | wroteText .. => "Wrote generated text".toList
  | mockWritten .. => "Mock written".toList
  | testWritten .. => "Test written".toList
  | rememberedDir .. => "Remembered output directory".toList

/-- The details of an event, as names and values. -/
def details : Event → List (Text × Text)
  | inputRepaired file => [("file".toList, file.display)]
  | generatingMock file anchor => [("file".toList, file.display), ("anchor".toList, anchor)]
  | generatingStub file anchor => [("file".toList, file.display), ("anchor".toList, anchor)]
  | acceptedMember m => [("line".toList, Text.ofNat m.lineNumber), ("text".toList, m.text)]
  | scannedBody className inInterface methods =>
    [("class".toList, className), ("is_interface".toList, Text.ofBool inInterface),
      ("methods".toList, Text.ofNat methods)]
  | placedMock point =>
    [("offset".toList, Text.ofNat point.offset), ("mode".toList, point.mode.label)]
  | placedTest point =>
    [("offset".toList, Text.ofNat point.offset), ("closers".toList, Text.ofNat point.closers)]
  | loadedPreferences path entries =>
    [("path".toList, path.display), ("entries".toList, Text.ofNat entries)]
  | keptStoredDir stored ignored =>
    [("stored".toList, stored.display), ("ignored".toList, ignored.display)]
  | wroteText path offset bytes =>
    [("path".toList, path.display), ("offset".toList, Text.ofNat offset),
      ("bytes".toList, Text.ofNat bytes)]
  | mockWritten path created =>
    [("path".toList, path.display), ("created".toList, Text.ofBool created)]
  | testWritten path created =>
    [("path".toList, path.display), ("created".toList, Text.ofBool created)]
  | rememberedDir source dir =>
    [("source".toList, source.display), ("dir".toList, dir.display)]

def render (e : Event) : Text :=
  e.level.label ++ ' ' :: e.title ++
    e.details.flatMap (fun (name, value) => ' ' :: name ++ '=' :: value)

/-- The event is shown to a user who asked for the given level. -/
def isShown (e : Event) (asked : Level) : Bool := e.level.rank ≤ asked.rank

end Event

class Journal (m : Type → Type) where
  record : Event → m Unit

instance {ε : Type} {m : Type → Type} [Monad m] [Journal m] : Journal (ExceptT ε m) where
  record e := ExceptT.lift (Journal.record e)

namespace Journal

def recordAll {m : Type → Type} [Monad m] [Journal m] : List Event → m Unit
  | [] => pure ()
  | e :: rest => do record e; recordAll rest

end Journal

end StubGen
