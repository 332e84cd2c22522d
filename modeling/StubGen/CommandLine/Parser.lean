import StubGen.CommandLine.Grammar

/-!
# Reading the command line

Words are read from left to right. A switch whose value is a word of its own waits for that word,
and its value is read only when the next switch or the end of the scope comes. A word that opens a
scope hands over the rest of the command line; the outer scope is completed after the inner one.
-/

namespace StubGen.CommandLine

/-- The switches of one scope that are read so far. -/
structure Progress where
  taken : List (Switch × Value)
  /-- The switch that was read last, and its value once that is read, if it is not taken yet. -/
  pending : Option (Switch × Option Bytes)
  deriving DecidableEq

namespace Progress

def none : Progress := ⟨[], .none⟩

def value? (p : Progress) (s : Switch) : Option Value := p.taken.lookup s

def has (p : Progress) (s : Switch) : Bool := (p.value? s).isSome

/-- Takes a switch with its value; no switch is taken twice. -/
def take (p : Progress) (s : Switch) (raw : Bytes) : Except Refusal Progress :=
  if p.has s then .error .conflict
  else (readValue s.takes raw).map fun v => { p with taken := (s, v) :: p.taken }

/-- Takes the pending switch. -/
def settle (p : Progress) : Except Refusal Progress :=
  match p.pending with
  | .none => .ok p
  | some (_, .none) => .error .missingValue
  | some (s, some raw) => { p with pending := .none }.take s raw

/-- The switch that waits for its value. -/
def awaiting? (p : Progress) : Option Switch :=
  match p.pending with
  | some (s, .none) => some s
  | _ => .none

/-- A switch without a value of its own. -/
def takeBare (p : Progress) (s : Switch) : Except Refusal Progress := do
  let p ← p.settle
  match s.takes with
  | .nothing =>
    match s with
    | .help => .error .helpAsked
    | .version => .error .versionAsked
    | _ => p.take s []
  | _ => .ok { p with pending := some (s, .none) }

/-- A switch with the value attached to it. -/
def takeAttached (p : Progress) (s : Switch) (raw : Bytes) : Except Refusal Progress := do
  let p ← p.settle
  p.take s raw

/-- The path that a switch was given. -/
def path? (p : Progress) (s : Switch) : Option Path :=
  match p.value? s with
  | some (.path v) => some v
  | _ => .none

/-- The text that a switch was given. -/
def text? (p : Progress) (s : Switch) : Option Text :=
  match p.value? s with
  | some (.text v) => some v
  | _ => .none

/-- The number that a switch was given. -/
def number? (p : Progress) (s : Switch) : Option Nat :=
  match p.value? s with
  | some (.number v) => some v
  | _ => .none

/-- The kind of block that a switch was given. -/
def blockKind? (p : Progress) (s : Switch) : Option BlockKind :=
  match p.value? s with
  | some (.blockKind v) => some v
  | _ => .none

/-- The path that a required switch was given. -/
def path (p : Progress) (s : Switch) : Except Refusal Path :=
  match p.path? s with
  | some v => .ok v
  | .none => .error .missingSwitch

/-- The anchor, which is given in exactly one of two ways. -/
def anchor (p : Progress) : Except Refusal AnchorChoice :=
  if p.has .line || p.has .lineNumber then .ok ⟨p.text? .line, p.number? .lineNumber⟩
  else .error .missingSwitch

end Progress

/-! ## Completing a scope -/

/-- The command of a scope without further words. -/
def commandOf (scope : Scope) (p : Progress) : Except Refusal Command :=
  match scope with
  | .mock => do return .mock (← p.path .file) (← p.anchor) (← p.path .into) (p.has .print)
  | .test => do return .test (← p.path .file) (← p.anchor) (p.path? .outDir) (p.has .print)
  | .offset => do return .offset (← p.path .file) ((p.blockKind? .marker).getD .test)
  | .prefsGet => do return .prefs (.get (← p.path .source))
  | .prefsSet => do return .prefs (.set (← p.path .source) (← p.path .dir))
  | .prefsClear => do return .prefs (.clear (← p.path .source))
  | .prefsList => return .prefs .list
  | .program | .prefs => .error (if p.taken.isEmpty then .nothingGiven else .missingCommand)

def complete (scope : Scope) (p : Progress) : Except Refusal Invocation := do
  let p ← p.settle
  if p.has .line && p.has .lineNumber then .error .conflict
  else return ⟨p.text? .logLevel, p.path? .prefs, ← commandOf scope p⟩

/-- Completes a scope around what an inner scope asks for. The settings of the inner scope win. -/
def completeAround (p : Progress) (inner : Invocation) : Except Refusal Invocation := do
  let p ← p.settle
  return { inner with
    logLevel := inner.logLevel <|> p.text? .logLevel
    prefs := inner.prefs <|> p.path? .prefs }

/-! ## Words -/

def dash : UInt8 := 0x2D

def equalsSign : UInt8 := 0x3D

inductive Shape where
  /-- Two dashes: no switches follow. -/
  | stop
  /-- Two dashes and a name, possibly with a value after an equals sign. -/
  | long (name : Bytes) (value : Option Bytes)
  /-- One dash and letters. -/
  | letters (bytes : Bytes)
  /-- Anything else. -/
  | plain
  deriving DecidableEq

def shapeOf (word : Bytes) : Shape :=
  match word with
  | first :: second :: rest =>
    if first == dash && second == dash then
      if rest.isEmpty then .stop
      else .long (rest.takeWhile (· != equalsSign))
        ((rest.dropWhile (· != equalsSign)).tail?)
    else if first == dash then .letters (second :: rest)
    else .plain
  | _ => .plain

def takeLong (scope : Scope) (p : Progress) (name : Bytes) (value : Option Bytes) :
    Except Refusal Progress :=
  match scope.longSwitch? name, value with
  | none, _ => .error .unknownArgument
  | some s, none => p.takeBare s
  | some s, some raw => if s.takes = .nothing then .error .unexpectedValue else p.takeAttached s raw

/-- Switches by their letters. What follows the letter of a switch with a value is that value,
without an equals sign in front. -/
def takeLetters (scope : Scope) (p : Progress) : Bytes → Except Refusal Progress
  | [] => .ok p
  | letter :: rest =>
    match scope.letterSwitch? letter with
    | none => .error .unknownArgument
    | some s =>
      if s.takes = .nothing then do takeLetters scope (← p.takeBare s) rest
      else if rest.isEmpty then p.takeBare s
      else if rest.head? == some equalsSign then p.takeAttached s (rest.drop 1)
      else p.takeAttached s rest

/-- Why a plain word cannot stand in a scope. -/
def strayWord (scope : Scope) : Refusal :=
  if scope.needsCommand then .unknownCommand else .unknownArgument

/-- Why a word after two dashes cannot stand in a scope; the name of a command could, before
them. -/
def strayAfterStop (scope : Scope) (word : Bytes) : Refusal :=
  if scope.needsCommand && word == Scope.helpWord then .unknownArgument
  else if (scope.child? word).isSome then .unknownArgument
  else strayWord scope

/-- Help for the scope that the words lead to. -/
def helpFor (scope : Scope) : List Bytes → Refusal
  | [] => .helpAsked
  | word :: rest =>
    match scope.child? word with
    | some inner => helpFor inner rest
    | none =>
      if scope.needsCommand && word == Scope.helpWord && rest.isEmpty then .helpAsked
      else .unknownCommand

def readScope (scope : Scope) (p : Progress) : List Bytes → Except Refusal Invocation
  | [] => complete scope p
  | word :: rest =>
    match p.awaiting?, scope.child? word with
    | none, some inner => do completeAround p (← readScope inner .none rest)
    | awaited, _ =>
      if awaited.isNone && scope.needsCommand && word == Scope.helpWord then
        .error (helpFor scope rest)
      else match shapeOf word with
        | .stop =>
          match rest with
          | [] => complete scope p
          | next :: _ => .error (strayAfterStop scope next)
        | .long name value => do readScope scope (← takeLong scope p name value) rest
        | .letters bytes => do readScope scope (← takeLetters scope p bytes) rest
        | .plain =>
          match awaited with
          | some s => readScope scope { p with pending := some (s, some word) } rest
          | none => .error (strayWord scope)

/-- Reads a command line, without the name of the program. -/
def parse (words : List Bytes) : Except Refusal Invocation := readScope .program .none words

end StubGen.CommandLine
