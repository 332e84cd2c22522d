import StubGen.Path
import StubGen.Placement

/-!
# The grammar of the command line

A command line is read in nested scopes: the program itself, its commands, and the actions of the
command that manages preferences. Each scope has its own switches, and a switch is a flag or takes
one value.
-/

namespace StubGen.CommandLine

/-! ## Switches -/

/-- What can be given with a dash in front. -/
inductive Switch where
  | file
  | line
  | lineNumber
  | into
  | print
  | outDir
  | prefs
  | marker
  | source
  | dir
  | logLevel
  | help
  | version
  deriving DecidableEq

inductive Takes where
  | nothing
  | path
  | text
  | number
  | blockKind
  deriving DecidableEq

namespace Switch

/-- The long name, written after two dashes. -/
def longName : Switch → Text
  | file => "file".toList
  | line => "line".toList
  | lineNumber => "line-number".toList
  | into => "into".toList
  | print => "print".toList
  | outDir => "out-dir".toList
  | prefs => "prefs".toList
  | marker => "marker".toList
  | source => "source".toList
  | dir => "dir".toList
  | logLevel => "log-level".toList
  | help => "help".toList
  | version => "version".toList

/-- The letter that can be written after one dash. -/
def letter? : Switch → Option Char
  | file => some 'f'
  | line => some 'l'
  | lineNumber => some 'n'
  | outDir => some 'o'
  | marker => some 'm'
  | source => some 's'
  | dir => some 'd'
  | help => some 'h'
  | version => some 'V'
  | _ => none

def takes : Switch → Takes
  | file | into | outDir | prefs | source | dir => .path
  | line | logLevel => .text
  | lineNumber => .number
  | marker => .blockKind
  | print | help | version => .nothing

end Switch

/-! ## Values -/

inductive Value where
  | given
  | path (p : Path)
  | text (t : Text)
  | number (n : Nat)
  | blockKind (k : BlockKind)
  deriving DecidableEq

/-- Why a command line is not carried out. -/
inductive Refusal where
  /-- A required switch is missing. -/
  | missingSwitch
  /-- A switch is repeated, or two exclude each other. -/
  | conflict
  /-- There is no such switch, or something stands where nothing is expected. -/
  | unknownArgument
  /-- A switch lacks its value, or a path is empty. -/
  | missingValue
  /-- A value does not have the form that its switch asks for. -/
  | malformedValue
  /-- A value that has to be text is not valid UTF-8. -/
  | undecodableValue
  /-- A flag was given a value. -/
  | unexpectedValue
  /-- There is no such command. -/
  | unknownCommand
  /-- A command is missing after some switches. -/
  | missingCommand
  /-- Nothing was given where a command is needed, so help is shown. -/
  | nothingGiven
  | helpAsked
  | versionAsked
  deriving DecidableEq

/-- The largest number that a switch takes: the largest that fits in 64 bits. -/
def maxNumber : Nat := 0xFFFFFFFFFFFFFFFF

def digit? (c : Char) : Option Nat := if c.isDigit then some (c.toNat - 0x30) else none

/-- Reads decimal digits after a number that is already read. -/
def readDigits (read : Nat) : Text → Option Nat
  | [] => some read
  | c :: rest =>
    match digit? c with
    | some d => readDigits (read * 10 + d) rest
    | none => none

/-- Reads a number: digits, possibly after a plus sign, that do not exceed the largest number. -/
def readNumber (t : Text) : Option Nat :=
  let digits := (Text.stripStart? ['+'] t).getD t
  if digits.isEmpty then none else (readDigits 0 digits).filter (· ≤ maxNumber)

/-- Reads a value that has to be text. -/
def readText (raw : Bytes) : Except Refusal Text :=
  match Utf8.decode? raw with
  | some t => .ok t
  | none => .error .undecodableValue

def readValue (takes : Takes) (raw : Bytes) : Except Refusal Value :=
  match takes with
  | .nothing => .ok .given
  | .path => if raw.isEmpty then .error .missingValue else .ok (.path ⟨raw⟩)
  | .text => (readText raw).map .text
  | .number => do
    match readNumber (← readText raw) with
    | some n => .ok (.number n)
    | none => .error .malformedValue
  | .blockKind => do
    match BlockKind.ofText (← readText raw) with
    | .ok k => .ok (.blockKind k)
    | .error _ => .error .malformedValue

/-! ## Scopes -/

/-- Where in the command line a word stands. -/
inductive Scope where
  | program
  | mock
  | test
  | offset
  | prefs
  | prefsGet
  | prefsSet
  | prefsClear
  | prefsList
  deriving DecidableEq

namespace Scope

/-- The switches that a scope accepts. Those of the log level and, among preferences, of the
preference file are accepted in all scopes below as well. -/
def switches : Scope → List Switch
  | program => [.logLevel, .help, .version]
  | mock => [.file, .line, .lineNumber, .into, .print, .logLevel, .help]
  | test => [.file, .line, .lineNumber, .outDir, .prefs, .print, .logLevel, .help]
  | offset => [.file, .marker, .logLevel, .help]
  | prefs => [.prefs, .logLevel, .help]
  | prefsGet => [.source, .prefs, .logLevel, .help]
  | prefsSet => [.source, .dir, .prefs, .logLevel, .help]
  | prefsClear => [.source, .prefs, .logLevel, .help]
  | prefsList => [.prefs, .logLevel, .help]

def children : Scope → List (Text × Scope)
  | program =>
    [("mock".toList, mock), ("test".toList, test), ("offset".toList, offset),
      ("prefs".toList, prefs)]
  | prefs =>
    [("get".toList, prefsGet), ("set".toList, prefsSet), ("clear".toList, prefsClear),
      ("list".toList, prefsList)]
  | _ => []

def needsCommand (s : Scope) : Bool := !s.children.isEmpty

/-- The word that asks for help wherever a command is expected. -/
def helpWord : Bytes := Utf8.encode "help".toList

def child? (s : Scope) (word : Bytes) : Option Scope :=
  (s.children.find? fun (name, _) => Utf8.encode name == word).map (·.2)

/-- The switch with the given long name. -/
def longSwitch? (s : Scope) (name : Bytes) : Option Switch :=
  s.switches.find? fun switch => Utf8.encode switch.longName == name

def letterSwitch? (s : Scope) (letter : UInt8) : Option Switch :=
  s.switches.find? fun switch => (switch.letter?.map (Utf8.encode [·])) == some [letter]

end Scope

/-! ## What a command line asks for -/

/-- The anchor line, by its text or by its number. -/
structure AnchorChoice where
  line : Option Text
  number : Option Nat
  deriving DecidableEq

inductive PrefsAction where
  | get (source : Path)
  | set (source dir : Path)
  | clear (source : Path)
  | list
  deriving DecidableEq

inductive Command where
  | mock (file : Path) (anchor : AnchorChoice) (into : Path) (print : Bool)
  | test (file : Path) (anchor : AnchorChoice) (outDir : Option Path) (print : Bool)
  | offset (file : Path) (kind : BlockKind)
  | prefs (action : PrefsAction)
  deriving DecidableEq

/-- A command with the settings that several scopes accept. -/
structure Invocation where
  logLevel : Option Text
  /-- The preference file, if it is not the usual one. -/
  prefs : Option Path
  command : Command
  deriving DecidableEq

/-- The log level of a user who asks for none. -/
def defaultLogLevel : Text := "warn".toList

end StubGen.CommandLine
