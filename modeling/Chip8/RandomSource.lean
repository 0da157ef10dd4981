/-
  File:      Chip8/RandomSource.lean
  Subject:   Where random bytes come from.

  * `RandomSource`: an endless sequence of 32 bit words, and how many of them were taken;
  * `RandomSource.take`: the low byte of the next word;
  * `RandomSource.cycling`, `RandomSource.seeded`: a script that starts over, and a sequence
    computed from a seed.
-/
import Chip8.Word

namespace Chip8

/-- An endless sequence of words. The first `taken` of them are used up. -/
structure RandomSource where
  word : Nat → UInt32
  taken : Nat := 0

namespace RandomSource

/-- The low byte of the next word, and the source without that word. -/
def take (s : RandomSource) : Byte × RandomSource :=
  ((s.word s.taken).toUInt8, { s with taken := s.taken + 1 })

/-- The given words, over and over. Without words, zeros. -/
def cycling (words : List UInt32) : RandomSource where
  word k := words.getD (k % words.length) 0

/-- Scatters the bits of a number over the whole number. -/
def scatter (z : UInt64) : UInt64 :=
  let z := (z ^^^ z >>> 30) * 0xBF58476D1CE4E5B9
  let z := (z ^^^ z >>> 27) * 0x94D049BB133111EB
  z ^^^ z >>> 31

/-- The words that belong to a seed: equal steps from the seed, each with its bits scattered. -/
def seeded (seed : UInt64) : RandomSource where
  word k := (scatter (seed + UInt64.ofNat (k + 1) * 0x9E3779B97F4A7C15) >>> 32).toUInt32

instance : Inhabited RandomSource := ⟨cycling []⟩

@[simp] theorem taken_take (s : RandomSource) : s.take.2.taken = s.taken + 1 := rfl

@[simp] theorem word_take (s : RandomSource) : s.take.2.word = s.word := rfl

end RandomSource

end Chip8
