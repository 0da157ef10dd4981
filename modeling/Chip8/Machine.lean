/-
  File:      Chip8/Machine.lean
  Subject:   The state of the machine.

  * `Status`: running, waiting for a key, or halted;
  * `Policy`: what happens to words outside the instruction table;
  * `Machine`: processor, memory and the devices around them;
  * `Machine.loadProgram`, `Machine.withProgram`: a program is put into memory, or refused whole.
-/
import Chip8.Display
import Chip8.Keypad
import Chip8.RandomSource
import Chip8.Registers
import Chip8.Timers

namespace Chip8

/-- What the machine is doing. -/
inductive Status where
  | running
  /-- Stopped at `FX0A` until a key goes down, whose number register `r` then receives. -/
  | waitingForKey (r : Reg)
  | halted
  deriving DecidableEq, Inhabited, Repr

/-- What happens to words outside the instruction table. -/
inductive Policy where
  /-- They do nothing. -/
  | permissive
  /-- They stop the program. -/
  | strict
  deriving DecidableEq, Inhabited, Repr

/-- The whole machine. -/
structure Machine where
  registers : Registers := {}
  memory : Memory := .initial
  status : Status := .running
  /-- While the machine waits for a key: the keys that do not count because they have been held
      ever since the wait began. -/
  baseline : Keypad := .released
  policy : Policy := .permissive
  random : RandomSource := default
  display : Display := .plain
  keypad : Keypad := .released
  timers : Timers := {}

namespace Machine

instance : Inhabited Machine := ⟨{}⟩

/-- Puts a program into memory at `programStart`. Everything else stays as it is. -/
def loadProgram (m : Machine) (program : List Byte) : Except Cause Machine :=
  if maxProgramSize < program.length then
    .error (.imageTooLarge program.length maxProgramSize)
  else
    match m.memory.load programStart.toNat program with
    | .ok memory => .ok { m with memory }
    | .error c => .error c

/-- A new machine with a program, about to start it. -/
def withProgram (program : List Byte) : Except Cause Machine :=
  loadProgram {} program

/-- One tick of the 60 Hz clock. -/
def tick (m : Machine) : Machine := { m with timers := m.timers.tick }

/-- Stops the machine for good. -/
def halt (m : Machine) : Machine := { m with status := .halted }

end Machine

end Chip8
