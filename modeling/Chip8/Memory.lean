/-
  File:      Chip8/Memory.lean
  Subject:   The 4096 cells of memory.

  * `Memory.read`, `Memory.write`: one cell; an address without a cell is refused;
  * `Memory.slice`, `Memory.load`: a range of cells, all of it or nothing (`checkRange`);
  * `Memory.Access`, `Memory.perform`: the four of them as data, so that a history of a memory
    is a list.

  `Memory.get?` is the view of a memory as a partial map; the lemmas of section 3 say what each
  operation does to it.
-/
import Chip8.Fault

namespace Chip8

/-- The number of cells. -/
abbrev memorySize : Nat := 4096

/-- Where programs are loaded and start. -/
def programStart : Word := 0x200

/-- The largest program that fits between `programStart` and the end of memory. -/
def maxProgramSize : Nat := 0xE00

/-- The number of bytes of one glyph of the font. -/
def glyphSize : Word := 5

theorem toNat_glyphSize : glyphSize.toNat = 5 := rfl

/-- The glyphs of the sixteen hexadecimal digits, five rows each. -/
def font : List Byte :=
  [0xF0, 0x90, 0x90, 0x90, 0xF0,
   0x20, 0x60, 0x20, 0x20, 0x70,
   0xF0, 0x10, 0xF0, 0x80, 0xF0,
   0xF0, 0x10, 0xF0, 0x10, 0xF0,
   0x90, 0x90, 0xF0, 0x10, 0x10,
   0xF0, 0x80, 0xF0, 0x10, 0xF0,
   0xF0, 0x80, 0xF0, 0x90, 0xF0,
   0xF0, 0x10, 0x20, 0x40, 0x40,
   0xF0, 0x90, 0xF0, 0x90, 0xF0,
   0xF0, 0x90, 0xF0, 0x10, 0xF0,
   0xF0, 0x90, 0xF0, 0x90, 0x90,
   0xE0, 0x90, 0xE0, 0x90, 0xE0,
   0xF0, 0x80, 0x80, 0x80, 0xF0,
   0xE0, 0x90, 0x90, 0x90, 0xE0,
   0xF0, 0x80, 0xF0, 0x80, 0xF0,
   0xF0, 0x80, 0xF0, 0x80, 0x80]

/-- Memory: one byte per cell. Nothing outside the cells is ever clamped or wrapped. -/
structure Memory where
  cells : Vector Byte memorySize
  deriving DecidableEq

namespace Memory

/-! ## 1. The operations -/

/-- The byte at an address, or `none` where there is no cell. -/
def get? (m : Memory) (a : Nat) : Option Byte := m.cells[a]?

def read (m : Memory) (a : Nat) : Except Cause Byte :=
  match m.get? a with
  | some b => .ok b
  | none => .error (.outOfBounds a)

def write (m : Memory) (a : Nat) (b : Byte) : Except Cause Memory :=
  if h : a < memorySize then .ok ⟨m.cells.set a b⟩ else .error (.outOfBounds a)

/-- Refuses a range that leaves memory, with the first address of it that does not exist. An
    empty range may start anywhere up to the end of memory. -/
def checkRange (a len : Nat) : Except Cause Unit :=
  if memorySize ≤ a ∧ 0 < len then .error (.outOfBounds a)
  else if a + len ≤ memorySize then .ok ()
  else .error (.outOfBounds memorySize)

/-- The `len` bytes from `a` on. -/
def slice (m : Memory) (a len : Nat) : Except Cause (List Byte) :=
  match checkRange a len with
  | .ok () => .ok (m.cells.extract a (a + len)).toList
  | .error c => .error c

/-- The cells with `data` written from `a` on. -/
def overwrite (cells : Vector Byte memorySize) (a : Nat) : List Byte → Vector Byte memorySize
  | [] => cells
  | b :: bs => overwrite (cells.setIfInBounds a b) (a + 1) bs

/-- Copies `data` to the cells from `a` on, if all of it fits. -/
def load (m : Memory) (a : Nat) (data : List Byte) : Except Cause Memory :=
  match checkRange a data.length with
  | .ok () => .ok ⟨overwrite m.cells a data⟩
  | .error c => .error c

/-- Zeros, with the font at address 0. -/
def initial : Memory := ⟨overwrite (.replicate memorySize 0) 0 font⟩

instance : Inhabited Memory := ⟨initial⟩

/-! ## 2. Histories -/

/-- One use of a memory. -/
inductive Access where
  | read (a : Nat)
  | write (a : Nat) (b : Byte)
  | load (a : Nat) (data : List Byte)
  | slice (a len : Nat)
  deriving DecidableEq, Repr

/-- What a use of a memory yields: nothing to tell, one byte, or a range of bytes. -/
inductive Yield where
  | done
  | byte (b : Byte)
  | bytes (l : List Byte)
  deriving DecidableEq, Repr

/-- One use of a memory: the memory after it, and what it yields. A use that is refused leaves
    the memory alone. -/
def perform (m : Memory) : Access → Memory × Except Cause Yield
  | .read a => (m, (m.read a).map .byte)
  | .slice a len => (m, (m.slice a len).map .bytes)
  | .write a b =>
      match m.write a b with
      | .ok m' => (m', .ok .done)
      | .error c => (m, .error c)
  | .load a data =>
      match m.load a data with
      | .ok m' => (m', .ok .done)
      | .error c => (m, .error c)

/-! ## 3. What the operations do to the view -/

theorem ext_get? {m m' : Memory} (h : ∀ a, m.get? a = m'.get? a) : m = m' := by
  cases m; cases m'
  congr 1
  refine Vector.ext fun k hk => Option.some.inj ?_
  simpa [get?, hk] using h k

theorem get?_eq_none_iff {m : Memory} {a : Nat} : m.get? a = none ↔ memorySize ≤ a := by
  simp [get?]

theorem read_of_lt {m : Memory} {a : Nat} (h : a < memorySize) : m.read a = .ok m.cells[a] := by
  simp [read, get?, h]

theorem read_of_le {m : Memory} {a : Nat} (h : memorySize ≤ a) :
    m.read a = .error (.outOfBounds a) := by
  simp [read, get?_eq_none_iff.mpr h]

theorem write_of_lt {m : Memory} {a : Nat} (b : Byte) (h : a < memorySize) :
    m.write a b = .ok ⟨m.cells.set a b⟩ := by
  simp [write, h]

theorem write_of_le {m : Memory} {a : Nat} (b : Byte) (h : memorySize ≤ a) :
    m.write a b = .error (.outOfBounds a) := by
  simp [write, Nat.not_lt.mpr h]

/-- A write changes its own cell and no other. -/
theorem get?_write {m m' : Memory} {a : Nat} {b : Byte} (h : m.write a b = .ok m') (k : Nat) :
    m'.get? k = if k = a then some b else m.get? k := by
  unfold write at h
  split at h
  · cases h
    simp only [get?, Vector.getElem?_set]
    by_cases e : a = k
    · subst e; simp_all
    · simp [e, Ne.symm e]
  · cases h

/-- Overwriting changes exactly the cells under the data. -/
theorem getElem?_overwrite (cells : Vector Byte memorySize) (a : Nat) (data : List Byte)
    (h : a + data.length ≤ memorySize) (k : Nat) :
    (overwrite cells a data)[k]? =
      if a ≤ k ∧ k < a + data.length then data[k - a]? else cells[k]? := by
  induction data generalizing cells a with
  | nil =>
    have out : ¬ (a ≤ k ∧ k < a + 0) := by omega
    rw [overwrite, List.length_nil, if_neg out]
  | cons b bs ih =>
    rw [List.length_cons] at h ⊢
    rw [overwrite, ih _ _ (by omega), Vector.getElem?_setIfInBounds]
    by_cases e : a = k
    · have out : ¬ (a + 1 ≤ k ∧ k < a + 1 + bs.length) := by omega
      have within : a ≤ k ∧ k < a + (bs.length + 1) := by omega
      rw [if_neg out, if_pos within, if_pos e, if_pos (by omega), ← e, Nat.sub_self,
        List.getElem?_cons_zero]
    · rw [if_neg e]
      by_cases hk : a + 1 ≤ k ∧ k < a + 1 + bs.length
      · have within : a ≤ k ∧ k < a + (bs.length + 1) := by omega
        have next : k - a = (k - (a + 1)) + 1 := by omega
        rw [if_pos hk, if_pos within, next, List.getElem?_cons_succ]
      · have out : ¬ (a ≤ k ∧ k < a + (bs.length + 1)) := by omega
        rw [if_neg hk, if_neg out]

end Memory

end Chip8
