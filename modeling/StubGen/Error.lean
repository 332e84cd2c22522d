import StubGen.Text.Basic

/-!
# Errors

Everything that can go wrong while generating, placing or storing text, and the wording of each
cause.
-/

namespace StubGen

/-- Why a file system refused a request. -/
inductive Fault where
  | noSuchEntry
  | alreadyExists
  | notADirectory
  | isADirectory
  /-- The offset lies beyond the largest file. -/
  | invalidArgument
  | fileTooLarge
  | nameTooLong
  /-- The path holds a zero byte. -/
  | zeroByteInName
  /-- The file was to be read as text and is not valid UTF-8. -/
  | invalidText
  /-- Any other refusal, in the words of the system. -/
  | other (description : Text)
  deriving DecidableEq

namespace Fault

/-- The wording of a fault; those that the system numbers carry their number. -/
def message : Fault → Text
  | noSuchEntry => "No such file or directory (os error 2)".toList
  | alreadyExists => "File exists (os error 17)".toList
  | notADirectory => "Not a directory (os error 20)".toList
  | isADirectory => "Is a directory (os error 21)".toList
  | invalidArgument => "Invalid argument (os error 22)".toList
  | fileTooLarge => "File too large (os error 27)".toList
  | nameTooLong => "File name too long (os error 36)".toList
  | zeroByteInName => "file name contained an unexpected NUL byte".toList
  | invalidText => "stream did not contain valid UTF-8".toList
  | other description => description

end Fault

/-- Why text could not be generated, placed or stored. -/
inductive Error where
  /-- The anchor line is blank. -/
  | noSelection
  /-- Mocks are made from headers and tests from sources. -/
  | wrongFileKind (path expected : Text)
  /-- No line of the file equals the anchor. -/
  | anchorNotFound (anchor : Text)
  /-- No pair of parentheses, or no name before it. -/
  | malformedSignature (line : Text)
  /-- No output directory is stored and none was chosen. -/
  | noOutputDir (file : Text)
  /-- The target closes fewer braces than it opens namespaces. -/
  | unbalancedTarget (expected found : Nat)
  /-- The target is not valid UTF-8, so offsets into it would be wrong. -/
  | undecodableTarget (path : Text)
  /-- The file system refused a request. -/
  | io (fault : Fault)
  /-- The file system refused to give the file that the user named. -/
  | unreadableInput (path : Text) (fault : Fault)
  /-- The preference file cannot be understood, or the preferences cannot be written. -/
  | preferences (path reason : Text)
  /-- The anchor was given by number and the file has no such line. -/
  | lineOutOfRange (number : Nat)
  /-- The word names no kind of block. -/
  | unknownMarker (word : Text)
  deriving DecidableEq

namespace Error

def message : Error → Text
  | noSelection =>
    ("No selection: put the cursor on the class or method line you want to generate " ++
      "for").toList
  | wrongFileKind path expected =>
    "Wrong file kind '".toList ++ path ++ "': expected a ".toList ++ expected ++ " file".toList
  | anchorNotFound anchor => "Anchor line not found in file: '".toList ++ anchor ++ ['\x27']
  | malformedSignature line =>
    "Malformed signature (no parenthesis pair): '".toList ++ line ++ ['\x27']
  | noOutputDir file =>
    "No output directory for '".toList ++ file ++
      "'. Pass --out-dir or set one with 'gtest-scaffold prefs set'".toList
  | unbalancedTarget expected found =>
    "Cannot place generated code: expected ".toList ++ Text.ofNat expected ++
      " closing brace(s) at the end of the file, found ".toList ++ Text.ofNat found
  | undecodableTarget path =>
    "Cannot update '".toList ++ path ++ "': file is not valid UTF-8".toList
  | io fault => "I/O error: ".toList ++ fault.message
  | unreadableInput path fault =>
    "I/O error: ".toList ++ path ++ ": ".toList ++ fault.message
  | preferences path reason =>
    "Failed to load preferences from ".toList ++ path ++ ": ".toList ++ reason
  | lineOutOfRange number =>
    "Line ".toList ++ Text.ofNat number ++ " is out of range for this file".toList
  | unknownMarker word =>
    "Unknown marker '".toList ++ word ++ "' (expected test or mock)".toList

end Error

end StubGen
