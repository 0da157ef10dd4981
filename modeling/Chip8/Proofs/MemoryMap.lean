/-
  File:      Chip8/Proofs/MemoryMap.lean
  Subject:   Memory is a partial map from addresses to bytes.

  * `ByteMap`: a map with its own account of the four uses; `missing?`: the first address of a
    range that is not on it;
  * `getElem?_slice`, `get?_load`: what a range yields, and what a load changes;
  * `Memory.Shows`: the view of a memory is a map; `shows_perform`: each use keeps it so and
    yields what the map knows;
  * `checkRange_words`: the check of a range may be made in 64 bit arithmetic;
  * `shows_runAll`, `memory_is_map`: the same for whole histories, from a new memory on.
-/
import Mathlib.Data.List.Basic
import Mathlib.Order.Bounds.Basic
import Chip8.Memory

namespace Chip8

/-! ## 1. Maps -/

/-- A list of uses, one after the other: what they leave, and what they yield in order. -/
def runAll {α β σ : Type} (perform : σ → α → σ × β) (s : σ) : List α → σ × List β
  | [] => (s, [])
  | a :: as =>
      let (s, y) := perform s a
      let (s, ys) := runAll perform s as
      (s, y :: ys)

/-- Which byte is at which address. -/
abbrev ByteMap := Nat → Option Byte

/-- Where a range leaves memory: at its own start, or else at the end of memory. An empty range
    may start anywhere up to the end of memory. -/
def missing? (a len : Nat) : Option Nat :=
  if a + len ≤ 4096 then none else some (if 4096 ≤ a ∧ 0 < len then a else 4096)

namespace ByteMap

/-- The font, and zeros up to the end of memory. -/
def initial : ByteMap := fun a =>
  if a < 80 then font[a]? else if a < 4096 then some 0 else none

/-- The map with other bytes from an address on. -/
def put (f : ByteMap) (a : Nat) (data : List Byte) : ByteMap := fun k =>
  if a ≤ k ∧ k < a + data.length then data[k - a]? else f k

/-- One use of a memory, as the map knows it. -/
def perform (f : ByteMap) : Memory.Access → ByteMap × Except Cause Memory.Yield
  | .read a => (f, match f a with
      | some b => .ok (.byte b)
      | none => .error (.outOfBounds a))
  | .write a b =>
      if a < 4096 then (f.put a [b], .ok .done) else (f, .error (.outOfBounds a))
  | .load a data => match missing? a data.length with
      | none => (f.put a data, .ok .done)
      | some k => (f, .error (.outOfBounds k))
  | .slice a len => (f, match missing? a len with
      | none => .ok (.bytes ((List.range' a len).filterMap f))
      | some k => .error (.outOfBounds k))

end ByteMap

/-! ## 2. Ranges -/

theorem missing?_eq_none_iff {a len : Nat} : missing? a len = none ↔ a + len ≤ 4096 := by
  unfold missing?
  split
  · next h => exact iff_of_true rfl h
  · next h => exact iff_of_false (fun e => nomatch e) h

/-- **A range that is not empty is refused for the first of its addresses that does not exist.** -/
theorem missing?_eq_some_iff {f : ByteMap} (hf : ∀ a, f a = none ↔ 4096 ≤ a) {a len k : Nat}
    (hlen : 0 < len) :
    missing? a len = some k ↔ IsLeast {j | a ≤ j ∧ j < a + len ∧ f j = none} k := by
  have hset : {j | a ≤ j ∧ j < a + len ∧ f j = none} = {j | max a 4096 ≤ j ∧ j < a + len} := by
    ext j
    simp only [Set.mem_ofPred_eq, hf]
    omega
  rw [hset, missing?]
  constructor
  · intro h
    split at h
    · cases h
    next hout =>
      have hk : k = max a 4096 := by
        rw [← Option.some.inj h]
        split <;> omega
      exact ⟨⟨Nat.le_of_eq hk.symm, by omega⟩, fun j hj => hk ▸ hj.1⟩
  · intro h
    obtain ⟨⟨hle, hlt⟩, hleast⟩ := h
    have hk : k = max a 4096 := Nat.le_antisymm (hleast ⟨Nat.le_refl _, by omega⟩) hle
    rw [if_neg (by omega), hk]
    refine congrArg some ?_
    split <;> omega

namespace Memory

variable {m : Memory} {f : ByteMap}

theorem checkRange_eq (a len : Nat) :
    checkRange a len = match missing? a len with
      | none => .ok ()
      | some k => .error (.outOfBounds k) := by
  unfold checkRange missing?
  by_cases hout : 4096 ≤ a ∧ 0 < len
  · rw [if_pos hout, if_pos hout, if_neg (by omega)]
  · rw [if_neg hout, if_neg hout]
    by_cases hin : a + len ≤ 4096
    · rw [if_pos hin, if_pos hin]
    · rw [if_neg hin, if_neg hin]

/-- The check in 64 bit arithmetic. The sum is looked at only where it has not wrapped. -/
def checkWords (a len : UInt64) : Except Cause Unit :=
  if 4096 ≤ a ∧ 0 < len then .error (.outOfBounds a.toNat)
  else if a ≤ a + len ∧ a + len ≤ 4096 then .ok ()
  else .error (.outOfBounds memorySize)

/-- **No sum of 64 bit words slips through the check by wrapping.** -/
theorem checkRange_words (a len : UInt64) : checkRange a.toNat len.toNat = checkWords a len := by
  have ha := a.toNat_lt
  have hlen := len.toNat_lt
  have hout : (4096 ≤ a ∧ 0 < len) ↔ memorySize ≤ a.toNat ∧ 0 < len.toNat := by
    rw [UInt64.le_iff_toNat_le, UInt64.lt_iff_toNat_lt]
    exact Iff.rfl
  have hin : (a ≤ a + len ∧ a + len ≤ 4096) ↔ a.toNat + len.toNat ≤ memorySize := by
    have h4096 : (4096 : UInt64).toNat = 4096 := rfl
    rw [UInt64.le_iff_toNat_le, UInt64.le_iff_toNat_le, UInt64.toNat_add, h4096, memorySize]
    omega
  unfold checkRange checkWords
  rw [if_congr hout rfl (if_congr hin rfl rfl)]

/-! ## 3. The view of a memory -/

/-- The view of the memory is the map. -/
def Shows (m : Memory) (f : ByteMap) : Prop := ∀ a, m.get? a = f a

theorem shows_initial : initial.Shows .initial := by
  intro a
  have hfont : font.length = 80 := rfl
  rw [initial, get?, getElem?_overwrite _ _ _ (by decide), ByteMap.initial, hfont]
  by_cases h : a < 80
  · rw [if_pos (by omega), if_pos h, Nat.sub_zero]
  · rw [if_neg (by omega), if_neg h, Vector.getElem?_replicate]

/-- A memory shows a map of the addresses below 4096 only. -/
theorem eq_none_iff_of_shows (h : m.Shows f) (a : Nat) : f a = none ↔ 4096 ≤ a := by
  rw [← h a]
  exact get?_eq_none_iff

/-- A write changes its own cell, so it shows as a range of one byte. -/
theorem shows_write (h : m.Shows f) {a : Nat} {b : Byte} {m' : Memory}
    (hw : m.write a b = .ok m') : m'.Shows (f.put a [b]) := by
  intro k
  rw [get?_write hw, ByteMap.put, List.length_singleton, ← h k]
  by_cases hk : k = a
  · rw [if_pos hk, if_pos (by omega), hk, Nat.sub_self, List.getElem?_cons_zero]
  · rw [if_neg hk, if_neg (by omega)]

theorem shows_overwrite (h : m.Shows f) {a : Nat} {data : List Byte}
    (hin : a + data.length ≤ 4096) : Shows ⟨overwrite m.cells a data⟩ (f.put a data) := by
  intro k
  rw [get?, getElem?_overwrite _ _ _ hin, ByteMap.put, ← h k]
  rfl

/-- The bytes of a range that lies in memory. -/
theorem toList_extract (m : Memory) {a len : Nat} (hin : a + len ≤ 4096) :
    (m.cells.extract a (a + len)).toList = (List.range' a len).filterMap m.get? := by
  have hget : ∀ k ∈ List.range' a len, m.get? k = some ((m.get? k).getD 0) := by
    intro k hk
    have hk : k < memorySize := Nat.lt_of_lt_of_le (List.mem_range'_1.mp hk).2 hin
    rw [get?, Vector.getElem?_eq_getElem hk, Option.getD_some]
  rw [List.filterMap_eq_map_iff_forall_eq_some.mpr hget]
  refine List.ext_getElem ?_ fun j hj hj' => ?_
  · rw [Vector.length_toList, List.length_map, List.length_range', memorySize]
    omega
  · rw [List.length_map, List.length_range'] at hj'
    have hk : a + j < memorySize := by rw [memorySize]; omega
    rw [Vector.getElem_toList, Vector.getElem_extract, List.getElem_map, List.getElem_range',
      Nat.one_mul, get?, Vector.getElem?_eq_getElem hk, Option.getD_some]

/-- **A memory is the map that it shows.** Each use leaves the map that its use leaves, and it
    yields what the map knows. -/
theorem shows_perform (h : m.Shows f) (u : Access) :
    (m.perform u).1.Shows (f.perform u).1 ∧ (m.perform u).2 = (f.perform u).2 := by
  cases u with
  | read a =>
    refine ⟨h, ?_⟩
    show (m.read a).map Yield.byte = _
    rw [read, h a, ByteMap.perform]
    cases f a with
    | none => rfl
    | some b => rfl
  | write a b =>
    rw [perform, ByteMap.perform]
    by_cases ha : a < memorySize
    · rw [if_pos ha, write_of_lt b ha]
      exact ⟨shows_write h (write_of_lt b ha), rfl⟩
    · rw [if_neg ha, write_of_le b (Nat.le_of_not_lt ha)]
      exact ⟨h, rfl⟩
  | load a data =>
    rw [perform, load, checkRange_eq, ByteMap.perform]
    cases hmissing : missing? a data.length with
    | none => exact ⟨shows_overwrite h (missing?_eq_none_iff.mp hmissing), rfl⟩
    | some k => exact ⟨h, rfl⟩
  | slice a len =>
    refine ⟨h, ?_⟩
    show (m.slice a len).map Yield.bytes = _
    rw [slice, checkRange_eq, ByteMap.perform]
    cases hmissing : missing? a len with
    | none =>
      have hview : m.get? = f := funext h
      show Except.ok (Yield.bytes _) = _
      rw [toList_extract m (missing?_eq_none_iff.mp hmissing), hview]
    | some k => rfl

/-! ## 4. Histories -/

theorem shows_runAll (h : m.Shows f) (us : List Access) :
    (runAll perform m us).1.Shows (runAll ByteMap.perform f us).1 ∧
      (runAll perform m us).2 = (runAll ByteMap.perform f us).2 := by
  induction us generalizing m f with
  | nil => exact ⟨h, rfl⟩
  | cons u us ih =>
    obtain ⟨hmap, hyield⟩ := shows_perform h u
    obtain ⟨hmaps, hyields⟩ := ih hmap
    exact ⟨hmaps, congrArg₂ List.cons hyield hyields⟩

/-- **Memory is a checked map.** Whatever is done with a new memory, it yields what the map of the
    font and zeros yields, use by use, and shows that map. It is a map of the addresses below
    4096, and a range that is not empty is refused for the first of its addresses that is not
    among them. The check of a range is not fooled where 64 bit arithmetic wraps. -/
theorem memory_is_map (us : List Access) :
    let p := runAll perform initial us
    let q := runAll ByteMap.perform ByteMap.initial us
    p.2 = q.2 ∧ p.1.Shows q.1 ∧ (∀ a, q.1 a = none ↔ 4096 ≤ a) ∧
    (∀ a len k, 0 < len →
      (missing? a len = some k ↔ IsLeast {j | a ≤ j ∧ j < a + len ∧ q.1 j = none} k)) ∧
    ∀ a len : UInt64, checkRange a.toNat len.toNat = checkWords a len := by
  intro p q
  obtain ⟨hshows, hyields⟩ := shows_runAll shows_initial us
  have hnone := eq_none_iff_of_shows hshows
  exact ⟨hyields, hshows, hnone, fun _ _ _ hlen => missing?_eq_some_iff hnone hlen,
    checkRange_words⟩

/-- Uses at both ends of the font, at the end of memory and at the largest 64 bit address. -/
def edges : List Access :=
  [.load 0xFFE [1, 2, 3], .slice 0xFFE 2, .load 79 [7], .load 0xFFF [9], .slice 78 3,
    .slice 0x1000 0, .slice 0x1001 0, .write 0x1000 1, .load 0xFFFFFFFFFFFFFFFF [5, 6], .read 0xFFF]

/-- A range that leaves memory is refused whole, for address 4096 where it starts inside. -/
theorem memory_is_map_edges :
    (runAll perform initial edges).2 =
      [.error (.outOfBounds 0x1000), .ok (.bytes [0, 0]), .ok .done, .ok .done,
        .ok (.bytes [0x80, 7, 0]), .ok (.bytes []), .error (.outOfBounds 0x1000),
        .error (.outOfBounds 0x1000), .error (.outOfBounds 0xFFFFFFFFFFFFFFFF), .ok (.byte 9)] ∧
    0 < 3 ∧ IsLeast {j | 0xFFE ≤ j ∧ j < 0xFFE + 3 ∧
      (runAll ByteMap.perform ByteMap.initial edges).1 j = none} 0x1000 := by
  obtain ⟨hyields, -, -, hleast, -⟩ := memory_is_map edges
  exact ⟨hyields.trans rfl, by decide, (hleast 0xFFE 3 0x1000 (by decide)).mp rfl⟩

end Memory

end Chip8
