/-
  File:      Chip8/Note.lean
  Subject:   What the machine reports while it works.

  * `Level`: how urgent a report is, and which reports a threshold lets through;
  * `Note`: the reports, as data;
  * `Note.level`, `Note.text`: the urgency and the wording of each.
-/
import Chip8.Instruction.Text
import Chip8.Machine.Step

namespace Chip8

/-! ## 1. Levels -/

/-- How urgent a report is. -/
inductive Level where
  | error
  | warn
  | info
  | debug
  | trace
  deriving DecidableEq, Repr

namespace Level

/-- The most urgent level is 0. -/
def rank : Level → Nat
  | error => 0
  | warn => 1
  | info => 2
  | debug => 3
  | trace => 4

/-- Whether a threshold lets a level through: the threshold itself and all that is more urgent. -/
def admits (threshold l : Level) : Bool := l.rank ≤ threshold.rank

def name : Level → String
  | error => "ERROR"
  | warn => "WARN"
  | info => "INFO"
  | debug => "DEBUG"
  | trace => "TRACE"

end Level

/-! ## 2. Notes -/

/-- One report. -/
inductive Note where
  | programLoaded (size : Nat)
  | imageLoaded (path : String) (size : Nat)
  | halted (pc : Word)
  | faulted (fault : Fault)
  | ignored (w : Word)
  | waiting (r : Reg)
  | resumed (key : Byte)
  | cycle (event : CycleEvent)
  | changed (r : Reg) (before after : Byte)
  deriving DecidableEq, Repr

def Note.level : Note → Level
  | faulted _ => .error
  | programLoaded _ | imageLoaded _ _ | halted _ => .info
  | ignored _ | waiting _ | resumed _ => .debug
  | cycle _ | changed _ _ _ => .trace

def Status.text : Status → String
  | running => "Running"
  | waitingForKey r => "WaitingForKey(" ++ (Operand.register r).text ++ ")"
  | halted => "Halted"

/-- One line of a trace: the place and the word with all its fields, the instruction, and the
    machine afterwards. -/
def CycleEvent.text (e : CycleEvent) : String :=
  let w := e.opcode
  Text.hex 3 e.pc.toNat ++ " " ++ Text.bareHex 4 w.toNat ++
    " nnn=" ++ Text.bareHex 3 w.nnn.toNat ++ " nn=" ++ Text.bareHex 2 w.nn.toNat ++
    " n=" ++ Text.bareHex 1 w.n.toNat ++ " x=" ++ Text.bareHex 1 w.x.toNat ++
    " y=" ++ Text.bareHex 1 w.y.toNat ++ " " ++ e.instruction.text ++
    " -> pc=" ++ Text.hex 3 e.nextPc.toNat ++ " i=" ++ Text.hex 3 e.index.toNat ++
    " " ++ e.status.text

def Note.text : Note → String
  | programLoaded size => "loaded program of " ++ toString size ++ " bytes"
  | imageLoaded path size => "loaded " ++ path ++ " (" ++ toString size ++ " bytes)"
  | halted pc => "halted at " ++ Text.hex 3 pc.toNat
  | faulted fault => fault.message
  | ignored w => "ignoring unknown opcode " ++ Text.bareHex 4 w.toNat
  | waiting r => "waiting for a key into V" ++ Text.bareHex 1 r.toNat
  | resumed key => "key " ++ Text.bareHex 1 key.toNat ++ " pressed, resuming"
  | cycle event => event.text
  | changed r before after => "  V" ++ Text.bareHex 1 r.toNat ++ ": " ++
      Text.hex 2 before.toNat ++ " -> " ++ Text.hex 2 after.toNat

/-! ## 3. What is reported when -/

/-- What the machine reports about an instruction that it has executed. -/
def Instruction.notes : Instruction → List Note
  | waitKey r => [.waiting r]
  | unknown w => [.ignored w]
  | _ => []

/-- What the machine reports about a step. -/
def Outcome.notes : Outcome → List Note
  | idle => []
  | polled _ none => []
  | polled _ (some key) => [.resumed key]
  | cycled event => event.instruction.notes
  | faulted fault => [.faulted fault]

/-- What the machine reports when it is told to halt: nothing if it had halted before. -/
def Machine.haltNotes (m : Machine) : List Note :=
  if m.status = .halted then [] else [.halted m.registers.pc]

/-- A whole cycle in a trace: one line for the instruction and one per changed register. -/
def CycleEvent.notes (e : CycleEvent) : List Note :=
  .cycle e :: e.changes.map fun (r, before, after) => .changed r before after

end Chip8
