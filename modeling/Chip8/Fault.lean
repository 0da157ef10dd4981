/-
  File:      Chip8/Fault.lean
  Subject:   Why an operation is refused, and where a program stopped.

  * `Cause`: the conditions that stop an operation, and their wording `Cause.message`;
  * `Fault`: a cause together with the instruction that raised it, and its wording.
-/
import Chip8.Word
import Chip8.Text.Hex

namespace Chip8

/-- Why an operation did not happen. -/
inductive Cause where
  /-- There is no memory cell at `address`. -/
  | outOfBounds (address : Nat)
  /-- There is no general register `r`. -/
  | invalidRegister (r : Reg)
  /-- There is no key `key`. -/
  | invalidKey (key : Byte)
  /-- A call while all levels of the call stack are in use. -/
  | stackOverflow
  /-- A return without a call. -/
  | stackUnderflow
  /-- A word outside the instruction table, where such words are refused. -/
  | unknownOpcode (word : Word)
  /-- A program of `size` bytes where only `limit` bytes fit. -/
  | imageTooLarge (size limit : Nat)
  deriving DecidableEq, Repr

def Cause.message : Cause → String
  | outOfBounds a => "memory access out of bounds at " ++ Text.hex 4 a
  | invalidRegister r => "register index " ++ toString r.toNat ++ " out of range"
  | invalidKey k => "key " ++ Text.hex 1 k.toNat ++ " out of range"
  | stackOverflow => "call stack overflow"
  | stackUnderflow => "return with an empty call stack"
  | unknownOpcode w => "unknown opcode " ++ Text.hex 4 w.toNat
  | imageTooLarge size limit => "program image is " ++ toString size ++ " bytes, at most " ++
      toString limit ++ " fit into memory"

/-- A program stopped: why, at which address, and on which word. A word that could not be
    fetched counts as 0. -/
structure Fault where
  pc : Word
  opcode : Word
  cause : Cause
  deriving DecidableEq, Repr

def Fault.message (f : Fault) : String :=
  "fault at " ++ Text.hex 3 f.pc.toNat ++ " while executing " ++ Text.hex 4 f.opcode.toNat ++
    ": " ++ f.cause.message

example : Fault.message ⟨0x2A0, 0x00EE, .stackUnderflow⟩ =
    "fault at 0x2A0 while executing 0x00EE: return with an empty call stack" := by decide +kernel

end Chip8
