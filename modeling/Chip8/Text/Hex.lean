/-
  File:      Chip8/Text/Hex.lean
  Subject:   Numbers in hexadecimal.

  * `Text.hex`: upper case digits, at least as many as asked for, after the mark `0x`;
  * `Text.bareHex`: the same without the mark;
  * `Text.lowerHex`: as few lower case digits as the number needs.
-/

namespace Chip8.Text

/-- The digits of `n` in lower case, as few as the number needs. -/
def lowerHex (n : Nat) : String := String.ofList (Nat.toDigits 16 n)

/-- The digits of `n` in upper case, with zeros in front up to `width` digits. -/
def bareHex (width n : Nat) : String :=
  let digits := (Nat.toDigits 16 n).map Char.toUpper
  String.ofList (List.replicate (width - digits.length) '0' ++ digits)

/-- The digits of `n` in upper case, at least `width` of them, after `0x`. -/
def hex (width n : Nat) : String := "0x" ++ bareHex width n

example : hex 4 0xFF = "0x00FF" ∧ hex 3 0x1000 = "0x1000" ∧ bareHex 1 10 = "A" := by decide

end Chip8.Text
