/-
  File:      Chip8/Keypad.lean
  Subject:   The sixteen keys.

  * `Keypad.setPressed`: a key goes down or up;
  * `Keypad.isHeld`, `Keypad.heldKeys`, `Keypad.anyHeld`: which keys are down;
  * `Keypad.newlyPressed`: the lowest key that is down now and was not in a baseline.
-/
import Chip8.Fault

namespace Chip8

/-- The number of keys. -/
abbrev keyCount : Nat := 16

/-- Which of the keys are down. -/
structure Keypad where
  down : Vector Bool keyCount := .replicate keyCount false
  deriving DecidableEq

namespace Keypad

/-- No key is down. -/
def released : Keypad := {}

instance : Inhabited Keypad := ⟨released⟩

def setPressed (k : Keypad) (key : Byte) (pressed : Bool) : Except Cause Keypad :=
  if h : key.toNat < keyCount then .ok ⟨k.down.set key.toNat pressed⟩
  else .error (.invalidKey key)

/-- Whether a key is down. There are no keys above 15, so they never are. -/
def isHeld (k : Keypad) (key : Byte) : Bool := k.down[key.toNat]?.getD false

/-- The keys that are down, ascending. -/
def heldKeys (k : Keypad) : List Byte :=
  ((List.range keyCount).map UInt8.ofNat).filter k.isHeld

/-- The lowest key that is down. -/
def anyHeld (k : Keypad) : Option Byte := k.heldKeys.head?

/-- The keys that are down on both keypads. -/
def inter (k l : Keypad) : Keypad := ⟨Vector.zipWith (· && ·) k.down l.down⟩

/-- The lowest key that is down and not in the baseline, and the new baseline. A key that was
    let go leaves the baseline, so that it counts when it goes down again. -/
def newlyPressed (k baseline : Keypad) : Option Byte × Keypad :=
  let baseline := baseline.inter k
  (k.heldKeys.find? fun key => !baseline.isHeld key, baseline)

theorem isHeld_inter (k l : Keypad) (key : Byte) :
    (k.inter l).isHeld key = (k.isHeld key && l.isHeld key) := by
  unfold isHeld inter
  by_cases h : key.toNat < keyCount
  · simp [h]
  · simp [h]

theorem mem_heldKeys {k : Keypad} {key : Byte} : key ∈ k.heldKeys ↔ k.isHeld key = true := by
  simp only [heldKeys, List.mem_filter, List.mem_map, List.mem_range, and_iff_right_iff_imp]
  intro h
  have hk : key.toNat < keyCount := by
    apply Classical.byContradiction
    intro hn
    simp [isHeld, hn] at h
  exact ⟨key.toNat, hk, by simp⟩

end Keypad

end Chip8
