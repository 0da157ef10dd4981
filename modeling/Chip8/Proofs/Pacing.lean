/-
  File:      Chip8/Proofs/Pacing.lean
  Subject:   How many instructions belong to one tick of the timers.

  The count is taken in numbers of any size. Here it is compared with a count in words, in which
  every step may fail:

  * `Checked.add?`, `Checked.mul?`, `Checked.div?`: arithmetic on words without a result where a
    number does not fit or the divisor is zero;
  * `Span`: a span of time in the words of a clock, and `Span.duration`, the time it stands for;
  * `Pace.count?`: the count in words of 128 and 64 bits; `count?_eq_some`: no step of it fails,
    and it is `Pace.cyclesPerFrame`.

  What the count is:

  * `Pace.Fits`: so many instructions fit between two ticks; `Pace.Uncut`: the largest number of
    them has no more than 64 bits;
  * `Pace.Counts`: what the count is then, and what it is otherwise;
  * `Pace.cyclesPerFrame_le`: then a longer pause or a shorter interval leaves no more of them.
-/
import Mathlib
import Chip8.Pace

namespace Chip8

/-! ## 1. Arithmetic on words -/

namespace Checked

variable {w : Nat} {a b : BitVec w}

/-- The sum, if it fits. -/
def add? (a b : BitVec w) : Option (BitVec w) := if a.uaddOverflow b then none else some (a + b)

/-- The product, if it fits. -/
def mul? (a b : BitVec w) : Option (BitVec w) := if a.umulOverflow b then none else some (a * b)

/-- The whole part of the quotient, unless the divisor is zero. -/
def div? (a b : BitVec w) : Option (BitVec w) := if b = 0 then none else some (a / b)

/-- The word itself, or 1 in place of zero. -/
def atLeastOne (a : BitVec w) : BitVec w := if a = 0 then 1 else a

theorem add?_eq_some (h : a.toNat + b.toNat < 2 ^ w) :
    ∃ c, add? a b = some c ∧ c.toNat = a.toNat + b.toNat := by
  have hfits : ¬ a.uaddOverflow b := by simpa [BitVec.uaddOverflow] using h
  exact ⟨a + b, if_neg hfits, BitVec.toNat_add_of_not_uaddOverflow hfits⟩

theorem mul?_eq_some (h : a.toNat * b.toNat < 2 ^ w) :
    ∃ c, mul? a b = some c ∧ c.toNat = a.toNat * b.toNat := by
  have hfits : ¬ a.umulOverflow b := by simpa [BitVec.umulOverflow] using h
  exact ⟨a * b, if_neg hfits, BitVec.toNat_mul_of_not_umulOverflow hfits⟩

theorem div?_eq_some (h : 0 < b.toNat) :
    ∃ c, div? a b = some c ∧ c.toNat = a.toNat / b.toNat :=
  ⟨a / b, if_neg fun e => h.ne' (congrArg BitVec.toNat e), BitVec.toNat_udiv⟩

theorem toNat_atLeastOne (hw : 0 < w) (a : BitVec w) : (atLeastOne a).toNat = max 1 a.toNat := by
  unfold atLeastOne
  split
  next e =>
    rw [e]
    exact BitVec.toNat_one hw
  next e =>
    have hpos : a.toNat ≠ 0 := fun h => e (BitVec.eq_of_toNat_eq h)
    omega

end Checked

/-! ## 2. Spans of time -/

/-- A span of time as a clock keeps it: whole seconds, and a rest below one second. -/
structure Span where
  seconds : UInt64
  nanoseconds : UInt32
  nanoseconds_lt : nanoseconds.toNat < 1000000000

namespace Span

open Checked

/-- The time that a span stands for. -/
def duration (a : Span) : Duration := .ofParts a.seconds.toNat a.nanoseconds.toNat

/-- The whole microseconds of a span, in a word of 128 bits. -/
def micros? (a : Span) : Option (BitVec 128) := do
  let whole ← mul? (a.seconds.toBitVec.setWidth 128) 1000000
  add? whole ((a.nanoseconds / 1000).toBitVec.setWidth 128)

theorem micros_duration (a : Span) :
    a.duration.micros = a.seconds.toNat * 1000000 + a.nanoseconds.toNat / 1000 := by
  show (a.seconds.toNat * 1000000000 + a.nanoseconds.toNat) / 1000 = _
  omega

/-- The microseconds of every span fit into 128 bits. -/
theorem micros?_eq_some (a : Span) : ∃ m, a.micros? = some m ∧ m.toNat = a.duration.micros := by
  have hseconds := a.seconds.toNat_lt
  have hrest := a.nanoseconds_lt
  have hwide : (a.seconds.toBitVec.setWidth 128).toNat = a.seconds.toNat :=
    BitVec.toNat_setWidth_of_le (by decide)
  have hbelow : ((a.nanoseconds / 1000).toBitVec.setWidth 128).toNat =
      a.nanoseconds.toNat / 1000 :=
    (BitVec.toNat_setWidth_of_le (by decide)).trans (UInt32.toNat_div _ _)
  obtain ⟨whole, hmul, hwhole⟩ : ∃ whole, mul? (a.seconds.toBitVec.setWidth 128) 1000000 =
      some whole ∧ whole.toNat = a.seconds.toNat * 1000000 := by
    rw [← hwide]
    refine mul?_eq_some ?_
    rw [hwide]
    -- A million is less than `2 ^ 20`.
    show a.seconds.toNat * 1000000 < 2 ^ 128
    omega
  obtain ⟨m, hadd, hm⟩ := add?_eq_some (a := whole)
    (b := (a.nanoseconds / 1000).toBitVec.setWidth 128) (by rw [hwhole, hbelow]; omega)
  refine ⟨m, ?_, ?_⟩
  · rw [micros?, hmul]
    exact hadd
  · rw [hm, hwhole, hbelow, micros_duration]

end Span

/-! ## 3. The count in words -/

namespace Pace

open Checked

variable {p p' : Pace}

/-- The pace with the given pause and interval. -/
def ofSpans (pause interval : Span) : Pace := ⟨pause.duration, interval.duration⟩

/-- The instructions that belong to one tick, counted in words: the quotient has 128 bits, of which
    the lower 64 are kept. -/
def count? (pause interval : Span) : Option (BitVec 64) := do
  let s ← pause.micros?
  let t ← interval.micros?
  let quotient ← div? t (atLeastOne s)
  return atLeastOne (quotient.setWidth 64)

/-- **Counting never divides by zero, and all its numbers fit.** -/
theorem count?_eq_some (pause interval : Span) :
    ∃ c, count? pause interval = some c ∧ c.toNat = (ofSpans pause interval).cyclesPerFrame := by
  obtain ⟨s, hs, hpause⟩ := pause.micros?_eq_some
  obtain ⟨t, ht, hinterval⟩ := interval.micros?_eq_some
  have hdivisor : (atLeastOne s).toNat = max 1 pause.duration.micros := by
    rw [toNat_atLeastOne (by decide), hpause]
  obtain ⟨quotient, hdiv, hquotient⟩ := div?_eq_some (a := t) (b := atLeastOne s)
    (by rw [hdivisor]; omega)
  refine ⟨atLeastOne (quotient.setWidth 64), ?_, ?_⟩
  · rw [count?, hs, ht]
    simp only [Option.bind_eq_bind, Option.bind_some, hdiv]
    rfl
  · rw [toNat_atLeastOne (by decide), BitVec.toNat_setWidth, hquotient, hdivisor, hinterval]
    rfl

/-! ## 4. The largest count that fits -/

/-- The microseconds that one instruction takes. -/
def cycle (p : Pace) : Nat := max 1 p.pause.micros

/-- Between two ticks there is time for `k` instructions. -/
def Fits (p : Pace) (k : Nat) : Prop := k * p.cycle ≤ p.interval.micros

instance (p : Pace) (k : Nat) : Decidable (p.Fits k) := inferInstanceAs (Decidable (_ ≤ _))

/-- How often one instruction goes into the time between two ticks. -/
def quotient (p : Pace) : Nat := p.interval.micros / p.cycle

/-- The quotient is a number of 64 bits: nothing of it is cut off. -/
def Uncut (p : Pace) : Prop := p.quotient < UInt64.size

instance (p : Pace) : Decidable p.Uncut := inferInstanceAs (Decidable (_ < _))

/-- A frame has `c` instructions, as it should. -/
structure Counts (p : Pace) (c : Nat) : Prop where
  pos : 1 ≤ c
  /-- They are the most that fit. -/
  greatest : p.Uncut → (∃ k, 1 ≤ k ∧ p.Fits k) → IsGreatest {k | 1 ≤ k ∧ p.Fits k} c
  /-- If none fits, there is one all the same. -/
  single : p.Uncut → (¬ ∃ k, 1 ≤ k ∧ p.Fits k) → c = 1
  /-- Of a quotient that is too large only the lower 64 bits count. -/
  cut : ¬ p.Uncut → c = max 1 (p.quotient % UInt64.size)

theorem cycle_pos (p : Pace) : 0 < p.cycle := Nat.le_max_left 1 _

theorem fits_iff {k : Nat} : p.Fits k ↔ k ≤ p.quotient :=
  (Nat.le_div_iff_mul_le p.cycle_pos).symm

theorem cyclesPerFrame_eq (p : Pace) : p.cyclesPerFrame = max 1 (p.quotient % UInt64.size) := rfl

theorem cyclesPerFrame_of_uncut (h : p.Uncut) : p.cyclesPerFrame = max 1 p.quotient := by
  rw [cyclesPerFrame_eq, Nat.mod_eq_of_lt h]

theorem isGreatest_cyclesPerFrame (h : p.Uncut) (hfits : ∃ k, 1 ≤ k ∧ p.Fits k) :
    IsGreatest {k | 1 ≤ k ∧ p.Fits k} p.cyclesPerFrame := by
  obtain ⟨k, hk, hkfits⟩ := hfits
  have hquotient : 1 ≤ p.quotient := hk.trans (fits_iff.mp hkfits)
  rw [cyclesPerFrame_of_uncut h, max_eq_right hquotient]
  exact ⟨⟨hquotient, fits_iff.mpr le_rfl⟩, fun _ hj => fits_iff.mp hj.2⟩

theorem cyclesPerFrame_of_none_fits (h : ¬ ∃ k, 1 ≤ k ∧ p.Fits k) : p.cyclesPerFrame = 1 := by
  have hquotient : p.quotient = 0 := by
    by_contra hne
    exact h ⟨1, le_rfl, fits_iff.mpr (Nat.one_le_iff_ne_zero.mpr hne)⟩
  rw [cyclesPerFrame_eq, hquotient]
  rfl

theorem counts_cyclesPerFrame (p : Pace) : p.Counts p.cyclesPerFrame where
  pos := Nat.le_max_left 1 _
  greatest := isGreatest_cyclesPerFrame
  single _ := cyclesPerFrame_of_none_fits
  cut _ := cyclesPerFrame_eq p

/-- A longer pause or a shorter interval leaves time for no more instructions. -/
theorem quotient_le (hpause : p.pause.nanoseconds ≤ p'.pause.nanoseconds)
    (hinterval : p'.interval.nanoseconds ≤ p.interval.nanoseconds) : p'.quotient ≤ p.quotient :=
  Nat.div_le_div (Nat.div_le_div_right hinterval)
    (max_le_max_left 1 (Nat.div_le_div_right hpause)) p.cycle_pos.ne'

theorem cyclesPerFrame_le (h : p.Uncut) (p' : Pace)
    (hpause : p.pause.nanoseconds ≤ p'.pause.nanoseconds)
    (hinterval : p'.interval.nanoseconds ≤ p.interval.nanoseconds) :
    p'.cyclesPerFrame ≤ p.cyclesPerFrame := by
  have hquotient := quotient_le hpause hinterval
  rw [cyclesPerFrame_of_uncut h, cyclesPerFrame_of_uncut (hquotient.trans_lt h)]
  exact max_le_max_left 1 hquotient

/-- **The instructions of a frame fill the time between two ticks.** For all spans of a clock the
    count has a result, without a division by zero. It is the largest number of instructions that
    fits, or 1 if none does, as long as nothing of it is cut off, and then it neither grows with
    the pause nor shrinks with the interval. -/
theorem cyclesPerFrame_tight (pause interval : Span) :
    (∃ c, count? pause interval = some c ∧ c.toNat = (ofSpans pause interval).cyclesPerFrame) ∧
    (ofSpans pause interval).Counts (ofSpans pause interval).cyclesPerFrame ∧
    ((ofSpans pause interval).Uncut → ∀ pause' interval' : Span,
      pause.duration.nanoseconds ≤ pause'.duration.nanoseconds →
      interval'.duration.nanoseconds ≤ interval.duration.nanoseconds →
      (ofSpans pause' interval').cyclesPerFrame ≤ (ofSpans pause interval).cyclesPerFrame) := by
  refine ⟨count?_eq_some pause interval, counts_cyclesPerFrame _, fun h pause' interval' => ?_⟩
  exact cyclesPerFrame_le h (ofSpans pause' interval')

/-- Two milliseconds. -/
def usualPause : Span := ⟨0, 2000000, by decide⟩

/-- The sixtieth part of a second. -/
def usualInterval : Span := ⟨0, 16667000, by decide⟩

/-- Less than one microsecond. -/
def leastPause : Span := ⟨0, 999, by decide⟩

/-- As many microseconds as there are numbers of 64 bits. -/
def hugeSpan : Span := ⟨18446744073709, 551616000, by decide⟩

/-- Eight instructions of two milliseconds fit into the sixtieth part of a second, no longer ones
    are more, and of the longest none fits. A huge interval has room for so many of the shortest
    that the lower 64 bits of their number are zero: one is left. -/
theorem cyclesPerFrame_tight_edges :
    IsGreatest {k | 1 ≤ k ∧ (ofSpans usualPause usualInterval).Fits k}
      (ofSpans usualPause usualInterval).cyclesPerFrame ∧
    (ofSpans usualPause usualInterval).cyclesPerFrame = 8 ∧
    (ofSpans hugeSpan usualInterval).cyclesPerFrame ≤ 8 ∧
    (ofSpans hugeSpan usualInterval).cyclesPerFrame = 1 ∧
    ¬ (ofSpans leastPause hugeSpan).Uncut ∧
    ∃ c, count? leastPause hugeSpan = some c ∧ c.toNat = 1 := by
  obtain ⟨-, husual, hless⟩ := cyclesPerFrame_tight usualPause usualInterval
  obtain ⟨-, hslow, -⟩ := cyclesPerFrame_tight hugeSpan usualInterval
  obtain ⟨hcount, hhuge, -⟩ := cyclesPerFrame_tight leastPause hugeSpan
  have huncut : (ofSpans usualPause usualInterval).Uncut := by decide
  have hcut : ¬ (ofSpans leastPause hugeSpan).Uncut := by decide
  refine ⟨husual.greatest huncut ⟨1, le_rfl, by decide⟩, by decide, ?_, ?_, hcut, ?_⟩
  · exact hless huncut hugeSpan usualInterval (by decide) le_rfl
  · refine hslow.single (by decide) ?_
    rintro ⟨k, hk, hfits⟩
    have hnone : (ofSpans hugeSpan usualInterval).quotient = 0 := by decide
    have hle := fits_iff.mp hfits
    omega
  · rw [hhuge.cut hcut] at hcount
    exact hcount

end Pace

end Chip8
