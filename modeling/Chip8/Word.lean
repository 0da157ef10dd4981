/-
  File:      Chip8/Word.lean
  Subject:   Bytes, 16 bit words and the fields of an instruction word.

  * `Byte`, `Word`, `Reg`: what cells, addresses and register numbers are made of;
  * `Word.nnn`, `Word.nn`, `Word.n`, `Word.x`, `Word.y`, `Word.kind`: the fields of an
    instruction word, each with its value as a quotient and remainder (`toNat_nnn`, …), and the
    word as the sum of its fields (`toNat_eq_digits`, …);
  * `Word.next`, `Word.offset?`: the two ways an address moves on.
-/

namespace Chip8

/-- One memory cell or one general register. -/
abbrev Byte := UInt8

/-- An instruction word, an address or the content of the index register. -/
abbrev Word := UInt16

/-- The number of a general register. Only 0 to 15 name one. -/
abbrev Reg := UInt8

namespace Word

/-! ## 1. The fields of an instruction word -/

/-- The word with the given bytes, the more significant first. -/
def ofBytes (high low : Byte) : Word := high.toUInt16 <<< 8 ||| low.toUInt16

/-- The top four bits, which select the family of the instruction. -/
def kind (w : Word) : Byte := (w >>> 12).toUInt8

/-- The low twelve bits: an address. -/
def nnn (w : Word) : Word := w &&& 0x0FFF

/-- The low eight bits: a constant. -/
def nn (w : Word) : Byte := w.toUInt8

/-- The low four bits: a row count or a selector. -/
def n (w : Word) : Byte := (w &&& 0x000F).toUInt8

/-- The second digit: the first register operand. -/
def x (w : Word) : Reg := (w >>> 8 &&& 0x000F).toUInt8

/-- The third digit: the second register operand. -/
def y (w : Word) : Reg := (w >>> 4 &&& 0x000F).toUInt8

/-- The four hexadecimal digits, the most significant first. -/
def nibbles (w : Word) : List Byte := [w.kind, w.x, w.y, w.n]

theorem toNat_ofBytes (high low : Byte) :
    (ofBytes high low).toNat = 256 * high.toNat + low.toNat := by
  have hl := low.toNat_lt
  have hh := high.toNat_lt
  have e : high.toNat <<< 8 % 2 ^ 16 = high.toNat <<< 8 := by
    rw [Nat.shiftLeft_eq]; omega
  simp only [ofBytes, UInt16.toNat_or, UInt16.toNat_shiftLeft, UInt8.toNat_toUInt16]
  change (high.toNat <<< 8 % 2 ^ 16) ||| low.toNat = _
  rw [e, Nat.shiftLeft_eq, Nat.mul_comm, ← Nat.two_pow_add_eq_or_of_lt (i := 8) hl]

theorem toNat_kind (w : Word) : w.kind.toNat = w.toNat / 4096 := by
  have hw := w.toNat_lt
  simp only [kind, UInt16.toNat_toUInt8, UInt16.toNat_shiftRight]
  change (w.toNat >>> 12) % 2 ^ 8 = _
  rw [Nat.shiftRight_eq_div_pow]
  omega

theorem toNat_nnn (w : Word) : w.nnn.toNat = w.toNat % 4096 := by
  simp only [nnn, UInt16.toNat_and]
  exact Nat.and_two_pow_sub_one_eq_mod w.toNat 12

theorem toNat_nn (w : Word) : w.nn.toNat = w.toNat % 256 := by
  simp [nn]

theorem toNat_n (w : Word) : w.n.toNat = w.toNat % 16 := by
  simp only [n, UInt16.toNat_toUInt8, UInt16.toNat_and]
  change (w.toNat &&& 2 ^ 4 - 1) % 2 ^ 8 = _
  rw [Nat.and_two_pow_sub_one_eq_mod]
  omega

theorem toNat_x (w : Word) : w.x.toNat = w.toNat / 256 % 16 := by
  simp only [x, UInt16.toNat_toUInt8, UInt16.toNat_and, UInt16.toNat_shiftRight]
  change (w.toNat >>> 8 &&& 2 ^ 4 - 1) % 2 ^ 8 = _
  rw [Nat.and_two_pow_sub_one_eq_mod, Nat.shiftRight_eq_div_pow]
  omega

theorem toNat_y (w : Word) : w.y.toNat = w.toNat / 16 % 16 := by
  simp only [y, UInt16.toNat_toUInt8, UInt16.toNat_and, UInt16.toNat_shiftRight]
  change (w.toNat >>> 4 &&& 2 ^ 4 - 1) % 2 ^ 8 = _
  rw [Nat.and_two_pow_sub_one_eq_mod, Nat.shiftRight_eq_div_pow]
  omega

/-- A decoded register operand always names a register. -/
theorem x_lt (w : Word) : w.x.toNat < 16 := by rw [toNat_x]; omega

theorem y_lt (w : Word) : w.y.toNat < 16 := by rw [toNat_y]; omega

theorem n_lt (w : Word) : w.n.toNat < 16 := by rw [toNat_n]; omega

theorem nnn_lt (w : Word) : w.nnn.toNat < 4096 := by rw [toNat_nnn]; omega

theorem kind_lt (w : Word) : w.kind.toNat < 16 := by
  have hw := w.toNat_lt
  rw [toNat_kind]
  omega

/-- A word is the sum of its four digits. -/
theorem toNat_eq_digits (w : Word) :
    w.toNat = 4096 * w.kind.toNat + 256 * w.x.toNat + 16 * w.y.toNat + w.n.toNat := by
  rw [toNat_kind, toNat_x, toNat_y, toNat_n]
  omega

/-- The last two digits as one byte. -/
theorem toNat_eq_nn (w : Word) :
    w.toNat = 4096 * w.kind.toNat + 256 * w.x.toNat + w.nn.toNat := by
  rw [toNat_kind, toNat_x, toNat_nn]
  omega

/-- The last three digits as one address. -/
theorem toNat_eq_nnn (w : Word) : w.toNat = 4096 * w.kind.toNat + w.nnn.toNat := by
  rw [toNat_kind, toNat_nnn]
  omega

/-! ## 2. Moving an address -/

/-- The address of the following instruction; the last two addresses continue at 0 and 1. -/
def next (a : Word) : Word := a + 2

/-- The address `delta` cells further on, or `none` where that does not fit into 16 bits. -/
def offset? (a delta : Word) : Option Word :=
  if a.toNat + delta.toNat < 65536 then some (a + delta) else none

theorem toNat_next (a : Word) : (next a).toNat = (a.toNat + 2) % 65536 := by
  simp [next, UInt16.toNat_add]

theorem toNat_offset {a delta b : Word} (h : a.offset? delta = some b) :
    b.toNat = a.toNat + delta.toNat := by
  unfold offset? at h
  split at h
  · cases h; simp only [UInt16.toNat_add]; omega
  · cases h

end Word

end Chip8
