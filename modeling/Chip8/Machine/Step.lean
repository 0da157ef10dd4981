/-
  File:      Chip8/Machine/Step.lean
  Subject:   One step of the machine.

  * `CycleEvent`: what happened in one cycle of fetching, decoding and executing;
  * `Outcome`: what a step amounts to, and its result;
  * `Machine.step`: a running machine performs one cycle, a waiting one looks at its keys, and a
    halted one does nothing. A fault halts it.
-/
import Chip8.Machine.Execute

namespace Chip8

/-! ## 1. What a step tells -/

/-- One finished cycle: where the instruction stood, what it was, and what the machine was like
    afterwards. -/
structure CycleEvent where
  pc : Word
  opcode : Word
  instruction : Instruction
  nextPc : Word
  index : Word
  status : Status
  /-- The general registers that changed, ascending, with the old and the new value. -/
  changes : List (Reg × Byte × Byte)
  deriving DecidableEq, Repr

/-- What a step amounts to. -/
inductive Outcome where
  /-- The machine was halted. -/
  | idle
  /-- The machine waited for a key for register `r`, and this is the key that went down. -/
  | polled (r : Reg) (key : Option Byte)
  /-- An instruction was executed. -/
  | cycled (event : CycleEvent)
  /-- The machine stopped. -/
  | faulted (fault : Fault)
  deriving DecidableEq, Repr

/-- The status after a step, or the fault. -/
def Outcome.result : Outcome → Except Fault Status
  | idle => .ok .halted
  | polled r none => .ok (.waitingForKey r)
  | polled _ (some _) => .ok .running
  | cycled event => .ok event.status
  | faulted fault => .error fault

/-! ## 2. The step -/

namespace Machine

/-- The word at the program counter. -/
def fetch (m : Machine) : Except Cause Word :=
  let a := m.registers.pc.toNat
  match m.memory.read a with
  | .error c => .error c
  | .ok high =>
      match m.memory.read (a + 1) with
      | .error c => .error c
      | .ok low => .ok (.ofBytes high low)

/-- The machine halts because of a fault. -/
def stopAt (m : Machine) (pc opcode : Word) (c : Cause) : Machine × Outcome :=
  (m.halt, .faulted ⟨pc, opcode, c⟩)

/-- Looks at the keys while waiting for one. The machine goes on as soon as a key is down that
    was not held all along. -/
def poll (m : Machine) (r : Reg) : Machine × Outcome :=
  let (key, baseline) := m.keypad.newlyPressed m.baseline
  let m := { m with baseline }
  match key with
  | none => (m, .polled r none)
  | some key =>
      match m.registers.set r key with
      | .ok registers => ({ m with registers, status := .running }, .polled r (some key))
      | .error c => m.stopAt (m.registers.pc - 2) ((0xF00A : Word) ||| r.toUInt16 <<< 8) c

/-- What happened between two machines, the later one right after the instruction `ins`. -/
def eventOf (before after : Machine) (opcode : Word) (ins : Instruction) : CycleEvent where
  pc := before.registers.pc
  opcode := opcode
  instruction := ins
  nextPc := after.registers.pc
  index := after.registers.i
  status := after.status
  changes := before.registers.changes after.registers

/-- One cycle: fetch, decode, execute. -/
def cycle (m : Machine) : Machine × Outcome :=
  match m.fetch with
  | .error c => m.stopAt m.registers.pc 0 c
  | .ok w =>
      match m.execute (.decode w) with
      | (m', .ok ()) => (m', .cycled (m.eventOf m' w (.decode w)))
      | (m', .error c) => m'.stopAt m.registers.pc w c

/-- One step. -/
def step (m : Machine) : Machine × Outcome :=
  match m.status with
  | .halted => (m, .idle)
  | .waitingForKey r => m.poll r
  | .running => m.cycle

end Machine

end Chip8
