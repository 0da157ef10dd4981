/-
  File:      Chip8/Instruction/Text.lean
  Subject:   How an instruction is written in a trace.

  * `Operand`: an operand together with its role, which decides how it is written;
  * `Instruction.name`, `Instruction.operands`: the two parts of an instruction;
  * `Instruction.text`: the name, and the operands in brackets if there are any.
-/
import Chip8.Instruction

namespace Chip8

/-- An operand and the role it plays. -/
inductive Operand where
  | address (a : Word)
  | register (r : Reg)
  | value (k : Byte)
  | opcode (w : Word)
  deriving DecidableEq, Repr

namespace Operand

/-- The number in an operand. -/
def toNat : Operand → Nat
  | address a => a.toNat
  | register r => r.toNat
  | value k => k.toNat
  | opcode w => w.toNat

/-- The role in words, and the number in decimal. -/
def text : Operand → String
  | address a => "Address(" ++ toString a.toNat ++ ")"
  | register r => "Register(" ++ toString r.toNat ++ ")"
  | value k => "Value(" ++ toString k.toNat ++ ")"
  | opcode w => "Opcode(" ++ toString w.toNat ++ ")"

end Operand

namespace Instruction

def name : Instruction → String
  | clearDisplay => "ClearDisplay"
  | returnSubroutine => "ReturnSubroutine"
  | jump _ => "Jump"
  | callSubroutine _ => "CallSubroutine"
  | skipIfEqualConst _ _ => "SkipIfEqualConst"
  | skipIfNotEqualConst _ _ => "SkipIfNotEqualConst"
  | skipIfEqual _ _ => "SkipIfEqual"
  | setConst _ _ => "SetConst"
  | addConst _ _ => "AddConst"
  | set _ _ => "Set"
  | or _ _ => "Or"
  | and _ _ => "And"
  | xor _ _ => "Xor"
  | add _ _ => "Add"
  | sub _ _ => "Sub"
  | rightShift _ => "RightShift"
  | negSub _ _ => "NegSub"
  | leftShift _ => "LeftShift"
  | skipIfNotEqual _ _ => "SkipIfNotEqual"
  | setI _ => "SetI"
  | jumpAdd _ => "JumpAdd"
  | rand _ _ => "Rand"
  | draw _ _ _ => "Draw"
  | skipIfKey _ => "SkipIfKey"
  | skipIfNotKey _ => "SkipIfNotKey"
  | getDelayTimer _ => "GetDelayTimer"
  | waitKey _ => "WaitKey"
  | setDelayTimer _ => "SetDelayTimer"
  | setSoundTimer _ => "SetSoundTimer"
  | addToI _ => "AddToI"
  | spriteAddr _ => "SpriteAddr"
  | decimal _ => "Decimal"
  | storeRegisters _ => "StoreRegisters"
  | loadRegisters _ => "LoadRegisters"
  | unknown _ => "Unknown"

def operands : Instruction → List Operand
  | clearDisplay | returnSubroutine => []
  | jump a | callSubroutine a | setI a | jumpAdd a => [.address a]
  | skipIfEqualConst x k | skipIfNotEqualConst x k | setConst x k | addConst x k | rand x k =>
      [.register x, .value k]
  | skipIfEqual x y | set x y | or x y | and x y | xor x y | add x y | sub x y | negSub x y
  | skipIfNotEqual x y => [.register x, .register y]
  | draw x y n => [.register x, .register y, .value n]
  | rightShift x | leftShift x | skipIfKey x | skipIfNotKey x | getDelayTimer x | waitKey x
  | setDelayTimer x | setSoundTimer x | addToI x | spriteAddr x | decimal x | storeRegisters x
  | loadRegisters x => [.register x]
  | unknown w => [.opcode w]

/-- The name, followed by the operands in brackets if there are any. -/
def text (ins : Instruction) : String :=
  match ins.operands with
  | [] => ins.name
  | ops => ins.name ++ "(" ++ ", ".intercalate (ops.map Operand.text) ++ ")"

example : (setConst 10 60).text = "SetConst(Register(10), Value(60))" ∧
    clearDisplay.text = "ClearDisplay" := by decide +kernel

end Instruction

end Chip8
