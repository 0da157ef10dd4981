/-
  File:      Chip8/Timers.lean
  Subject:   The delay timer and the sound timer.

  Both count down once per tick of a 60 Hz clock and stop at zero, however many instructions run
  between two ticks.
-/
import Chip8.Word

namespace Chip8

/-- The delay timer and the sound timer. -/
structure Timers where
  delay : Byte := 0
  sound : Byte := 0
  deriving DecidableEq, Inhabited, Repr

namespace Timers

/-- One less, but never below zero. -/
def countDown (b : Byte) : Byte := if b = 0 then 0 else b - 1

/-- One tick of the clock. -/
def tick (t : Timers) : Timers := ⟨countDown t.delay, countDown t.sound⟩

/-- A tone sounds while the sound timer runs. -/
def isSounding (t : Timers) : Bool := t.sound != 0

theorem toNat_countDown (b : Byte) : (countDown b).toNat = b.toNat - 1 := by
  unfold countDown
  split
  · simp_all
  · next h =>
    have : b.toNat ≠ 0 := fun e => h (UInt8.toNat_inj.mp (by simpa using e))
    rw [UInt8.toNat_sub_of_le _ _ (by rw [UInt8.le_iff_toNat_le]; simp; omega)]
    simp

end Timers

end Chip8
