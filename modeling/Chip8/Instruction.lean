/-
  File:      Chip8/Instruction.lean
  Subject:   The instruction table.

  * `Instruction`: the thirty-four instructions, and `unknown` for every word outside the table;
  * `Instruction.decode`: the instruction of a word, read off its fields; it never fails.

  In the comments a row of the table is written in digits: `X` and `Y` stand for register
  numbers, `NNN`, `NN` and `N` for constants of three, two and one digit.
-/
import Chip8.Word

namespace Chip8

/-- One instruction. A decoded instruction names registers 0 to 15 only; one that is built by
    hand may name any of 256 and then fails when it runs. -/
inductive Instruction where
  /-- Turn every pixel off (`00E0`). -/
  | clearDisplay
  /-- Continue behind the latest call (`00EE`). -/
  | returnSubroutine
  /-- Continue at `target` (`1NNN`). -/
  | jump (target : Word)
  /-- Remember this place and continue at `target` (`2NNN`). -/
  | callSubroutine (target : Word)
  /-- Skip one instruction if VX is `k` (`3XNN`). -/
  | skipIfEqualConst (x : Reg) (k : Byte)
  /-- Skip one instruction unless VX is `k` (`4XNN`). -/
  | skipIfNotEqualConst (x : Reg) (k : Byte)
  /-- Skip one instruction if VX is VY (`5XY0`). -/
  | skipIfEqual (x y : Reg)
  /-- VX becomes `k` (`6XNN`). -/
  | setConst (x : Reg) (k : Byte)
  /-- VX grows by `k`, without a flag (`7XNN`). -/
  | addConst (x : Reg) (k : Byte)
  /-- VX becomes VY (`8XY0`). -/
  | set (x y : Reg)
  /-- VX becomes VX or VY, bit by bit (`8XY1`). -/
  | or (x y : Reg)
  /-- VX becomes VX and VY, bit by bit (`8XY2`). -/
  | and (x y : Reg)
  /-- VX becomes VX exclusive-or VY, bit by bit (`8XY3`). -/
  | xor (x y : Reg)
  /-- VX grows by VY; VF tells a carry (`8XY4`). -/
  | add (x y : Reg)
  /-- VX shrinks by VY; VF tells that nothing was borrowed (`8XY5`). -/
  | sub (x y : Reg)
  /-- VX moves right by one bit, which goes into VF (`8XY6`). -/
  | rightShift (x : Reg)
  /-- VX becomes VY less VX; VF tells that nothing was borrowed (`8XY7`). -/
  | negSub (x y : Reg)
  /-- VX moves left by one bit, which goes into VF (`8XYE`). -/
  | leftShift (x : Reg)
  /-- Skip one instruction unless VX is VY (`9XY0`). -/
  | skipIfNotEqual (x y : Reg)
  /-- The index register becomes `target` (`ANNN`). -/
  | setI (target : Word)
  /-- Continue at `target` plus V0 (`BNNN`). -/
  | jumpAdd (target : Word)
  /-- VX becomes a random byte and `mask`, bit by bit (`CXNN`). -/
  | rand (x : Reg) (mask : Byte)
  /-- Draw `rows` rows of the sprite at the index register at (VX, VY) (`DXYN`). -/
  | draw (x y : Reg) (rows : Byte)
  /-- Skip one instruction if the key in VX is held (`EX9E`). -/
  | skipIfKey (x : Reg)
  /-- Skip one instruction unless the key in VX is held (`EXA1`). -/
  | skipIfNotKey (x : Reg)
  /-- VX becomes the delay timer (`FX07`). -/
  | getDelayTimer (x : Reg)
  /-- Wait until a key goes down and put it into VX (`FX0A`). -/
  | waitKey (x : Reg)
  /-- The delay timer becomes VX (`FX15`). -/
  | setDelayTimer (x : Reg)
  /-- The sound timer becomes VX (`FX18`). -/
  | setSoundTimer (x : Reg)
  /-- The index register grows by VX (`FX1E`). -/
  | addToI (x : Reg)
  /-- The index register becomes the address of the glyph of VX (`FX29`). -/
  | spriteAddr (x : Reg)
  /-- The three decimal digits of VX go to the index register and the two cells behind (`FX33`). -/
  | decimal (x : Reg)
  /-- V0 to VX go to memory from the index register on (`FX55`). -/
  | storeRegisters (x : Reg)
  /-- V0 to VX come from memory from the index register on (`FX65`). -/
  | loadRegisters (x : Reg)
  /-- Every other word, calls of machine code (`0NNN`) included. -/
  | unknown (word : Word)
  deriving DecidableEq, Repr

namespace Instruction

/-! ## 1. Families with a selector -/

/-- The `8XY_` family, selected by the last digit. -/
def decodeArithmetic (w : Word) : Instruction :=
  match w.n.toNat with
  | 0x0 => .set w.x w.y
  | 0x1 => .or w.x w.y
  | 0x2 => .and w.x w.y
  | 0x3 => .xor w.x w.y
  | 0x4 => .add w.x w.y
  | 0x5 => .sub w.x w.y
  | 0x6 => .rightShift w.x
  | 0x7 => .negSub w.x w.y
  | 0xE => .leftShift w.x
  | _ => .unknown w

/-- The `EX__` family, selected by the last two digits. -/
def decodeKey (w : Word) : Instruction :=
  match w.nn.toNat with
  | 0x9E => .skipIfKey w.x
  | 0xA1 => .skipIfNotKey w.x
  | _ => .unknown w

/-- The `FX__` family, selected by the last two digits. -/
def decodeMisc (w : Word) : Instruction :=
  match w.nn.toNat with
  | 0x07 => .getDelayTimer w.x
  | 0x0A => .waitKey w.x
  | 0x15 => .setDelayTimer w.x
  | 0x18 => .setSoundTimer w.x
  | 0x1E => .addToI w.x
  | 0x29 => .spriteAddr w.x
  | 0x33 => .decimal w.x
  | 0x55 => .storeRegisters w.x
  | 0x65 => .loadRegisters w.x
  | _ => .unknown w

/-! ## 2. The table -/

/-- The instruction of a word. Words outside the table are `unknown`. -/
def decode (w : Word) : Instruction :=
  match w.kind.toNat with
  | 0x0 =>
      if w = 0x00E0 then .clearDisplay
      else if w = 0x00EE then .returnSubroutine
      else .unknown w
  | 0x1 => .jump w.nnn
  | 0x2 => .callSubroutine w.nnn
  | 0x3 => .skipIfEqualConst w.x w.nn
  | 0x4 => .skipIfNotEqualConst w.x w.nn
  | 0x5 => if w.n = 0 then .skipIfEqual w.x w.y else .unknown w
  | 0x6 => .setConst w.x w.nn
  | 0x7 => .addConst w.x w.nn
  | 0x8 => decodeArithmetic w
  | 0x9 => if w.n = 0 then .skipIfNotEqual w.x w.y else .unknown w
  | 0xA => .setI w.nnn
  | 0xB => .jumpAdd w.nnn
  | 0xC => .rand w.x w.nn
  | 0xD => .draw w.x w.y w.n
  | 0xE => decodeKey w
  | 0xF => decodeMisc w
  | _ => .unknown w

example : decode 0x00EE = .returnSubroutine ∧ decode 0x8AB4 = .add 0xA 0xB ∧
    decode 0xF355 = .storeRegisters 3 ∧ decode 0x5121 = .unknown 0x5121 := by decide

end Instruction

end Chip8
