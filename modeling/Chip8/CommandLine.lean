/-
  File:      Chip8/CommandLine.lean
  Subject:   A run from the command line.

  * `Answer`: what a run prints, and its exit code;
  * `errorText`: an error with its causes, as it is printed;
  * `run`: from the arguments and a way to read files to the answer.
-/
import Chip8.CommandLine.Arguments
import Chip8.Loading

namespace Chip8.CommandLine

/-- What a run prints, and its exit code. -/
structure Answer where
  code : Nat
  stdout : String := ""
  stderr : String := ""
  deriving DecidableEq, Repr

/-! ## 1. Fixed texts -/

def versionText : String := "chip8-vm 0.1.0\n"

def usageLine : String := "Usage: chip8-bin [OPTIONS] <ROM>\n"

def helpText : String :=
  "Runs a CHIP-8 program\n\n" ++ usageLine ++
  "\nArguments:\n" ++
  "  <ROM>  Program image, loaded at 0x200\n" ++
  "\nOptions:\n" ++
  "  -p, --preset <PRESET>\n" ++
  "          Timing and keyboard preset [default: default]\n" ++
  "      --strict\n" ++
  "          Fault on opcodes outside the instruction set instead of skipping them\n" ++
  "      --instruction-sleep-us <MICROSECONDS>\n" ++
  "          Pause between instructions, overriding the preset\n" ++
  "      --frames <FRAMES>\n" ++
  "          Run this many 60 Hz frames without a window and print the screen\n" ++
  "      --trace\n" ++
  "          Log every executed instruction at trace level\n" ++
  "  -h, --help\n" ++
  "          Print help\n" ++
  "  -V, --version\n" ++
  "          Print version\n"

/-- The answer to arguments that are refused. -/
def usageFailure (e : UsageError) : Answer where
  code := 2
  stderr := "error: " ++ e.message ++ "\n\n" ++ usageLine ++
    "\nFor more information, try '--help'.\n"

/-! ## 2. Errors with causes -/

/-- A cause, indented. Further lines of it start below the first. A cause among several has its
    number in front. -/
def indented (number : Option Nat) (text : String) : String :=
  match number with
  | none => "    " ++ "\n    ".intercalate (text.splitOn "\n")
  | some k =>
      let digits := toString k
      "".pushn ' ' (5 - digits.length) ++ digits ++ ": " ++
        "\n       ".intercalate (text.splitOn "\n")

/-- The causes of an error below their title. A single cause has no number. -/
def causesText : List String → String
  | [] => ""
  | [c] => "\n\nCaused by:\n" ++ indented none c
  | cs => "\n\nCaused by:\n" ++
      "\n".intercalate (cs.zipIdx.map fun (c, k) => indented (some k) c)

/-- An error and its causes, from the nearest to the first. -/
def errorText (message : String) (causes : List String) : String :=
  "Error: " ++ message ++ causesText causes ++ "\n"

/-- The answer of a run that ends with an error. -/
def failure (message : String) (causes : List String) (stdout : String := "") : Answer :=
  { code := 1, stdout, stderr := errorText message causes }

/-! ## 3. Runs -/

/-- Runs a number of frames and shows the screen, also after a fault. -/
def runHeadless (c : Console) (frames : Nat) : Answer :=
  let (c, result) := c.runFrames c.pace.cyclesPerFrame frames
  let screen := c.machine.display.screen.picture
  match result with
  | .ok _ => { code := 0, stdout := screen }
  | .error (.fault f) => failure f.message [f.cause.message] screen
  | .error .observerFailed => failure "observer failed" [] screen

/-- The settings that the arguments ask for. -/
def configure (a : Arguments) : Except LoadError Config := do
  let config ← findPreset a.preset
  let config := if a.strict then { config with policy := .strict } else config
  return a.pause.elim config config.withPause

/-- Sets up a console and runs it. There is no window, so a run needs a number of frames. -/
def runArguments (readFile : String → FileContent) (random : RandomSource) (a : Arguments) :
    Answer :=
  match configure a with
  | .error e =>
      failure ("available presets: " ++ ", ".intercalate presetNames) (e.message :: e.reasons)
  | .ok config =>
      match Console.ofImage a.rom (readFile a.rom) config a.trace with
      | .error e => failure ("failed to load " ++ a.rom) (e.message :: e.reasons)
      | .ok c =>
          match a.frames with
          | some frames => runHeadless { c with machine := { c.machine with random } } frames
          | none =>
              failure "built without the `visualizer` feature, pass --frames to run headless" []

/-- The answer to a list of arguments. -/
def run (readFile : String → FileContent) (random : RandomSource) (args : List String) : Answer :=
  match Request.ofArgs args with
  | .error e => usageFailure e
  | .ok .version => { code := 0, stdout := versionText }
  | .ok .help => { code := 0, stdout := helpText }
  | .ok (.run a) => runArguments readFile random a

end Chip8.CommandLine
