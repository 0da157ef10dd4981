/-
  File:      Chip8/Machine/Execute.lean
  Subject:   What each instruction does.

  * `Instruction.effect`: the effect of an instruction, once the program counter has moved past
    it;
  * `Machine.execute`: the program counter moves first, then the effect happens, so that jumps,
    calls and skips set absolute targets.
-/
import Chip8.Instruction
import Chip8.Machine.Effect

namespace Chip8

namespace Instruction

open Effect

/-! ## 1. Instructions of several accesses -/

/-- Draws the sprite of `rows` rows at the index register with its top left corner at (VX, VY).
    VF tells whether a lit pixel went off. -/
def drawEffect (x y : Reg) (rows : Byte) : Effect Unit := do
  let left ← readReg x
  let top ← readReg y
  let sprite ← readSlice (← get).registers.i.toNat rows.toNat
  let hit ← drawCells (spriteCells left.toNat top.toNat sprite)
  writeFlag hit

/-- Writes the hundreds, the tens and the ones of VX to three cells. -/
def decimalEffect (x : Reg) : Effect Unit := do
  let b ← readReg x
  let a := (← get).registers.i.toNat
  writeMem a (b / 100)
  writeMem (a + 1) (b / 10 % 10)
  writeMem (a + 2) (b % 10)

/-- Copies V0 to VX to memory, one register after the other. -/
def storeEffect (x : Reg) : Effect Unit := do
  let a := (← get).registers.i.toNat
  each (x.toNat + 1) fun k => do
    let b ← readReg (UInt8.ofNat k)
    writeMem (a + k) b

/-- Copies V0 to VX from memory, one register after the other. -/
def loadEffect (x : Reg) : Effect Unit := do
  let a := (← get).registers.i.toNat
  each (x.toNat + 1) fun k => do
    let b ← readMem (a + k)
    writeReg (UInt8.ofNat k) b

/-- Starts to wait for a key: those held now do not count. -/
def waitEffect (x : Reg) : Effect Unit := do
  let _ ← readReg x
  modify fun m => { m with baseline := m.keypad, status := .waitingForKey x }

/-- Adds VX to the index register, unless the sum leaves the range of a word. -/
def addToIEffect (x : Reg) : Effect Unit := do
  let b ← readReg x
  let i := (← get).registers.i
  match i.offset? b.toUInt16 with
  | some i => setIndex i
  | none => throw (.outOfBounds (i.toNat + b.toNat))

/-- A word outside the table: nothing, or a refusal. -/
def unknownEffect (w : Word) : Effect Unit := do
  match (← get).policy with
  | .permissive => pure ()
  | .strict => throw (.unknownOpcode w)

/-! ## 2. All instructions -/

/-- The effect of an instruction that stood at `here`. Operands are read before anything is
    written. -/
def effect (here : Word) : Instruction → Effect Unit
  | clearDisplay => modify fun m => { m with display := m.display.clear }
  | returnSubroutine => do jumpTo (← pop).next
  | jump a => jumpTo a
  | callSubroutine a => do
      push here
      jumpTo a
  | skipIfEqualConst x k => do skipIf ((← readReg x) == k)
  | skipIfNotEqualConst x k => do skipIf ((← readReg x) != k)
  | skipIfEqual x y => do
      let a ← readReg x
      let b ← readReg y
      skipIf (a == b)
  | setConst x k => writeReg x k
  | addConst x k => do writeReg x ((← readReg x) + k)
  | set x y => do writeReg x (← readReg y)
  | or x y => do
      let a ← readReg x
      let b ← readReg y
      writeReg x (a ||| b)
  | and x y => do
      let a ← readReg x
      let b ← readReg y
      writeReg x (a &&& b)
  | xor x y => do
      let a ← readReg x
      let b ← readReg y
      writeReg x (a ^^^ b)
  | add x y => do
      let a ← readReg x
      let b ← readReg y
      writeFlagged x (a + b) (256 ≤ a.toNat + b.toNat)
  | sub x y => do
      let a ← readReg x
      let b ← readReg y
      writeFlagged x (a - b) (b ≤ a)
  | rightShift x => do
      let a ← readReg x
      writeFlagged x (a >>> 1) (a &&& 1 == 1)
  | negSub x y => do
      let a ← readReg x
      let b ← readReg y
      writeFlagged x (b - a) (a ≤ b)
  | leftShift x => do
      let a ← readReg x
      writeFlagged x (a <<< 1) (a >>> 7 == 1)
  | skipIfNotEqual x y => do
      let a ← readReg x
      let b ← readReg y
      skipIf (a != b)
  | setI a => setIndex a
  | jumpAdd a => do jumpTo (a + (← readReg 0).toUInt16)
  | rand x mask => do
      let b ← takeRandom
      writeReg x (b &&& mask)
  | draw x y rows => drawEffect x y rows
  | skipIfKey x => do
      let key ← readReg x
      skipIf ((← get).keypad.isHeld key)
  | skipIfNotKey x => do
      let key ← readReg x
      skipIf (!(← get).keypad.isHeld key)
  | getDelayTimer x => do writeReg x (← get).timers.delay
  | waitKey x => waitEffect x
  | setDelayTimer x => do
      let b ← readReg x
      modify fun m => { m with timers := { m.timers with delay := b } }
  | setSoundTimer x => do
      let b ← readReg x
      modify fun m => { m with timers := { m.timers with sound := b } }
  | addToI x => addToIEffect x
  | spriteAddr x => do setIndex ((← readReg x).toUInt16 * glyphSize)
  | decimal x => decimalEffect x
  | storeRegisters x => storeEffect x
  | loadRegisters x => loadEffect x
  | unknown w => unknownEffect w

end Instruction

namespace Machine

/-- The program counter moves past the instruction. -/
def advance (m : Machine) : Machine :=
  { m with registers := { m.registers with pc := m.registers.pc.next } }

/-- Runs one instruction: the machine after it, and why it stopped if it did not finish. -/
def execute (m : Machine) (ins : Instruction) : Machine × Except Cause Unit :=
  match ins.effect m.registers.pc m.advance with
  | .ok () m' => (m', .ok ())
  | .error c m' => (m', .error c)

end Machine

end Chip8
