/-
  File:      Chip8/Loading.lean
  Subject:   From a file and settings to a console that is ready to run.

  * `LoadError`: why there is none, and the wording;
  * `findPreset`: settings by name;
  * `checkImage`: the content of a file, unless it is too large for memory;
  * `Console.ofImage`: the console for the content of a file.
-/
import Chip8.Console
import Chip8.Preset
import Chip8.Text.Quoted

namespace Chip8

/-- What reading a file yields: its bytes, or the reason why it cannot be read. -/
abbrev FileContent := Except String (List Byte)

/-- The reason given for a file that does not exist. -/
def noSuchFile : String := "No such file or directory (os error 2)"

/-- Why a program could not be set up. -/
inductive LoadError where
  | unreadable (path reason : String)
  | rejected (cause : Cause)
  | unknownPreset (name : String)
  deriving DecidableEq, Repr

namespace LoadError

def message : LoadError → String
  | unreadable path reason => "could not read " ++ path ++ ": " ++ reason
  | rejected cause => cause.message
  | unknownPreset name => "unknown preset " ++ Text.quoted name

/-- The reasons behind an error, from the nearest to the first. -/
def reasons : LoadError → List String
  | unreadable _ reason => [reason]
  | rejected _ | unknownPreset _ => []

end LoadError

def findPreset (name : String) : Except LoadError Config :=
  match preset? name with
  | some config => .ok config
  | none => .error (.unknownPreset name)

/-- The bytes of a program file, unless there are more than fit between `programStart` and the
    end of memory. -/
def checkImage (path : String) (content : FileContent) : Except LoadError (List Byte) :=
  match content with
  | .error reason => .error (.unreadable path reason)
  | .ok image =>
      if maxProgramSize < image.length then
        .error (.rejected (.imageTooLarge image.length maxProgramSize))
      else .ok image

namespace Console

/-- A console with a program and otherwise as new. -/
def withProgram (program : List Byte) (pace : Pace) : Except Cause Console :=
  match Machine.withProgram program with
  | .ok machine => .ok { machine, pace, journal := #[.programLoaded program.length] }
  | .error c => .error c

/-- A console for the content of the file `path`, with the display, the policy and the pace of
    the settings. With `trace`, every cycle is written to the journal. -/
def ofImage (path : String) (content : FileContent) (config : Config) (trace : Bool) :
    Except LoadError Console :=
  match checkImage path content with
  | .error e => .error e
  | .ok image =>
      match withProgram image config.pace with
      | .error c => .error (.rejected c)
      | .ok c =>
          .ok { c with
            machine := { c.machine with display := .fading config.fade, policy := config.policy }
            observer := if trace then .tracer else .absent
            journal := c.journal.push (.imageLoaded path image.length) }

end Console

end Chip8
