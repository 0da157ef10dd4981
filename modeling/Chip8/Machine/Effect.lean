/-
  File:      Chip8/Machine/Effect.lean
  Subject:   The elementary accesses that instructions are made of.

  An `Effect` runs on a machine and either finishes or stops with a cause. What it did before it
  stopped stays done: the machine is handed on in both cases.

  * section 1: the accesses themselves;
  * section 2: how sequences run (`run_bind`, `each_succ`), and how the checked accesses run on an
    operand that exists (`readReg_of_lt`, …) and on one that does not (`readReg_of_le`, …).
-/
import Chip8.Machine

namespace Chip8

/-- A computation on a machine that may stop early, with the machine as it then is. -/
abbrev Effect := EStateM Cause Machine

namespace Effect

/-! ## 1. Accesses -/

/-- The content of a general register. -/
def readReg (n : Reg) : Effect Byte := fun m =>
  match m.registers.get n with
  | .ok b => .ok b m
  | .error c => .error c m

def writeReg (n : Reg) (b : Byte) : Effect Unit := fun m =>
  match m.registers.set n b with
  | .ok registers => .ok () { m with registers }
  | .error c => .error c m

/-- Sets VF to 1 or 0. -/
def writeFlag (flag : Bool) : Effect Unit := fun m =>
  .ok () { m with registers := m.registers.setFlag flag }

/-- Writes the flag first and the register last, so that in VF itself the value stays. -/
def writeFlagged (n : Reg) (b : Byte) (flag : Bool) : Effect Unit := do
  writeFlag flag
  writeReg n b

def readMem (a : Nat) : Effect Byte := fun m =>
  match m.memory.read a with
  | .ok b => .ok b m
  | .error c => .error c m

def writeMem (a : Nat) (b : Byte) : Effect Unit := fun m =>
  match m.memory.write a b with
  | .ok memory => .ok () { m with memory }
  | .error c => .error c m

/-- A range of memory cells. -/
def readSlice (a len : Nat) : Effect (List Byte) := fun m =>
  match m.memory.slice a len with
  | .ok l => .ok l m
  | .error c => .error c m

/-- The program counter goes to `a`. -/
def jumpTo (a : Word) : Effect Unit := fun m =>
  .ok () { m with registers := { m.registers with pc := a } }

/-- Passes over the next instruction if the condition holds. -/
def skipIf (condition : Bool) : Effect Unit := fun m =>
  .ok () (if condition then
    { m with registers := { m.registers with pc := m.registers.pc.next } } else m)

def setIndex (a : Word) : Effect Unit := fun m =>
  .ok () { m with registers := { m.registers with i := a } }

/-- Remembers an address on the call stack. -/
def push (a : Word) : Effect Unit := fun m =>
  match m.registers.push a with
  | .ok registers => .ok () { m with registers }
  | .error c => .error c m

/-- Takes the latest address off the call stack. -/
def pop : Effect Word := fun m =>
  match m.registers.pop with
  | .ok (a, registers) => .ok a { m with registers }
  | .error c => .error c m

/-- A random byte. -/
def takeRandom : Effect Byte := fun m =>
  let (b, random) := m.random.take
  .ok b { m with random }

/-- Inverts pixels one after the other, and tells whether one was lit when its turn came. -/
def drawCells (cells : List Position) : Effect Bool := fun m =>
  let (display, hit) := m.display.drawCells cells
  .ok hit { m with display }

/-- Runs `f 0`, `f 1`, … `f (n - 1)`. -/
def each : Nat → (Nat → Effect Unit) → Effect Unit
  | 0, _ => pure ()
  | n + 1, f => do
      each n f
      f n

/-! ## 2. How effects run -/

theorem run_pure {α : Type} (a : α) (m : Machine) : (pure a : Effect α) m = .ok a m := rfl

theorem run_bind {α β : Type} (e : Effect α) (f : α → Effect β) (m : Machine) :
    (e >>= f) m = match e m with
      | .ok a m' => f a m'
      | .error c m' => .error c m' := by
  change EStateM.bind e f m = _
  unfold EStateM.bind
  cases e m <;> rfl

theorem run_get (m : Machine) : (get : Effect Machine) m = .ok m m := rfl

theorem run_modify (f : Machine → Machine) (m : Machine) :
    (modify f : Effect PUnit) m = .ok ⟨⟩ (f m) := rfl

theorem run_throw {α : Type} (c : Cause) (m : Machine) :
    (throw c : Effect α) m = .error c m := rfl

@[simp] theorem each_zero (f : Nat → Effect Unit) : each 0 f = pure () := rfl

theorem each_succ (n : Nat) (f : Nat → Effect Unit) :
    each (n + 1) f = (do each n f; f n) := rfl

theorem readReg_of_lt (m : Machine) {n : Reg} (h : n.toNat < registerCount) :
    readReg n m = .ok m.registers.v[n.toNat] m := by
  simp only [readReg, Registers.get_of_lt _ h]

theorem readReg_of_le (m : Machine) {n : Reg} (h : registerCount ≤ n.toNat) :
    readReg n m = .error (.invalidRegister n) m := by
  simp only [readReg, Registers.get_of_le _ h]

theorem writeReg_of_lt (m : Machine) (b : Byte) {n : Reg} (h : n.toNat < registerCount) :
    writeReg n b m =
      .ok () { m with registers := { m.registers with v := m.registers.v.set n.toNat b } } := by
  simp only [writeReg, Registers.set_of_lt _ _ h]

theorem writeReg_of_le (m : Machine) (b : Byte) {n : Reg} (h : registerCount ≤ n.toNat) :
    writeReg n b m = .error (.invalidRegister n) m := by
  simp only [writeReg, Registers.set_of_le _ _ h]

theorem readMem_of_lt (m : Machine) {a : Nat} (h : a < memorySize) :
    readMem a m = .ok m.memory.cells[a] m := by
  simp only [readMem, Memory.read_of_lt h]

theorem readMem_of_le (m : Machine) {a : Nat} (h : memorySize ≤ a) :
    readMem a m = .error (.outOfBounds a) m := by
  simp only [readMem, Memory.read_of_le h]

theorem writeMem_of_lt (m : Machine) (b : Byte) {a : Nat} (h : a < memorySize) :
    writeMem a b m = .ok () { m with memory := ⟨m.memory.cells.set a b⟩ } := by
  simp only [writeMem, Memory.write_of_lt _ h]

theorem writeMem_of_le (m : Machine) (b : Byte) {a : Nat} (h : memorySize ≤ a) :
    writeMem a b m = .error (.outOfBounds a) m := by
  simp only [writeMem, Memory.write_of_le _ h]

end Effect

end Chip8
