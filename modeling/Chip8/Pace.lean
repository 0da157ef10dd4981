/-
  File:      Chip8/Pace.lean
  Subject:   How fast a machine runs.

  * `Duration`: a span of time in nanoseconds;
  * `Pace`: the pause between two instructions, and the time between two ticks of the timers;
  * `Pace.cyclesPerFrame`: how many instructions belong to one tick.
-/

namespace Chip8

/-- A span of time. -/
structure Duration where
  nanoseconds : Nat
  deriving DecidableEq, Inhabited, Repr

namespace Duration

def ofParts (seconds nanoseconds : Nat) : Duration := ⟨seconds * 1000000000 + nanoseconds⟩

def ofMicros (n : Nat) : Duration := ⟨n * 1000⟩

/-- The whole microseconds of a span; a rest is dropped. -/
def micros (d : Duration) : Nat := d.nanoseconds / 1000

@[simp] theorem micros_ofMicros (n : Nat) : (ofMicros n).micros = n := by
  simp [micros, ofMicros]

end Duration

/-- The pause after an instruction, and the time between two ticks of the timers. -/
structure Pace where
  pause : Duration := .ofMicros 2000
  interval : Duration := .ofMicros 16667
  deriving DecidableEq, Inhabited, Repr

/-- The instructions that fit between two ticks, and at least one. A pause below one microsecond
    counts as one microsecond, and the quotient is a 64 bit number. -/
def Pace.cyclesPerFrame (p : Pace) : Nat :=
  max 1 (p.interval.micros / max 1 p.pause.micros % UInt64.size)

example : Pace.cyclesPerFrame {} = 8 := by decide

end Chip8
