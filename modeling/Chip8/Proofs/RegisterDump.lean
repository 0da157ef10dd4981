/-
  File:      Chip8/Proofs/RegisterDump.lean
  Subject:   Storing registers to memory and loading them back.

  * `execute_store`, `execute_load`: what the two instructions leave if the cells exist;
  * `cell_store`, `v_load`: the same, read cell by cell and register by register;
  * `load_dump`: a load finds what a store has left, whatever happened to the registers;
  * `store_load`: a store directly behind a load writes what is there;
  * `kept_store_load`: neither touches the index register or the call stack, refused or not;
  * `dump_restore`: what this comes to.
-/
import Chip8.Proofs.Refusal

namespace Chip8

namespace Table

open Effect Instruction

variable {m m' : Machine} {x y : Reg}

/-! ## 1. One instruction -/

theorem execute_of_ending {ins : Instruction}
    (h : ending (ins.effect m.registers.pc (goOn m)) = .ok m') : m.execute ins = (m', .ok ()) := by
  rw [Machine.execute, advance_eq]
  cases he : ins.effect m.registers.pc (goOn m) with
  | ok _ _ =>
    rw [he] at h
    cases h
    rfl
  | error _ _ =>
    rw [he] at h
    cases h

theorem execute_store (hx : x.toNat < 16) (hi : m.registers.i.toNat + x.toNat ≤ 4095) :
    m.execute (.storeRegisters x) = (stored m (x.toNat + 1), .ok ()) := by
  have hrun := ending_each (stored m) fun k (hk : k ≤ x.toNat) =>
    storeTurn_stored m (Nat.lt_of_le_of_lt hk hx)
  refine execute_of_ending ?_
  rw [store_goOn, hrun, if_pos hi]

theorem execute_load (hx : x.toNat < 16) (hi : m.registers.i.toNat + x.toNat ≤ 4095) :
    m.execute (.loadRegisters x) = (loaded m (x.toNat + 1), .ok ()) := by
  have hrun := ending_each (loaded m) fun k (hk : k ≤ x.toNat) =>
    loadTurn_loaded m (Nat.lt_of_le_of_lt hk hx)
  refine execute_of_ending ?_
  rw [load_goOn, hrun, if_pos hi]

theorem cell_store (hx : x.toNat < 16) (hi : m.registers.i.toNat + x.toNat ≤ 4095) (a : Nat) :
    cell (m.execute (.storeRegisters x)).1 a =
      if m.registers.i.toNat ≤ a ∧ a ≤ m.registers.i.toNat + x.toNat then
        v m (a - m.registers.i.toNat)
      else cell m a := by
  have hreach : reach m (x.toNat + 1) = x.toNat + 1 := by
    rw [reach]
    omega
  have hcell := cell_filled m (v_lt m) (x.toNat + 1) a
  rw [hreach, ← stored_eq] at hcell
  rw [execute_store hx hi, hcell]
  exact if_congr (by omega) rfl rfl

theorem v_load (hx : x.toNat < 16) (hi : m.registers.i.toNat + x.toNat ≤ 4095) {k : Nat}
    (hk : k < 16) :
    v (m.execute (.loadRegisters x)).1 k =
      if k ≤ x.toNat then cell m (m.registers.i.toNat + k) else v m k := by
  rw [execute_load hx hi, v_loaded m _ hk]
  exact if_congr Nat.lt_succ_iff rfl rfl

theorem memory_load (hx : x.toNat < 16) (hi : m.registers.i.toNat + x.toNat ≤ 4095) :
    (m.execute (.loadRegisters x)).1.memory = m.memory := by
  rw [execute_load hx hi, loaded, memory_putAll]

/-- **The index register and the call stack stay**, whatever the operand, and also if the
    instruction is refused. -/
theorem kept_store_load {ins : Instruction}
    (h : ins = .storeRegisters x ∨ ins = .loadRegisters x) :
    (m.execute ins).1.registers.i = m.registers.i ∧
    (m.execute ins).1.registers.stack = m.registers.stack := by
  have hkeeps : Keeps (fun m => (m.registers.i, m.registers.stack))
      (ins.effect m.registers.pc) := by
    refine keeps_effect _ ins fun p hp => ?_
    rcases h with rfl | rfl
    · obtain rfl := List.mem_singleton.mp hp
      exact fun _ _ => rfl
    · obtain rfl := List.mem_singleton.mp hp
      exact fun _ _ => rfl
  rw [Machine.execute_fst]
  exact Prod.mk.inj (hkeeps m.advance)

/-! ## 2. One behind the other -/

/-- **A load finds what a store has left.** Between the two anything may have happened except to
    the index register and to the cells of the stored registers. -/
theorem load_dump (hx : x.toNat < 16) (hy : y.toNat ≤ x.toNat)
    (hi : m.registers.i.toNat + x.toNat ≤ 4095) (hindex : m'.registers.i = m.registers.i)
    (hcells : ∀ a, m.registers.i.toNat ≤ a → a ≤ m.registers.i.toNat + x.toNat →
      cell m' a = cell (m.execute (.storeRegisters x)).1 a) :
    (m'.execute (.loadRegisters y)).2 = .ok () ∧
    (∀ k ≤ y.toNat, v (m'.execute (.loadRegisters y)).1 k = v m k) ∧
    (∀ k < 16, y.toNat < k → v (m'.execute (.loadRegisters y)).1 k = v m' k) ∧
    (m'.execute (.loadRegisters y)).1.memory = m'.memory := by
  have hy16 : y.toNat < 16 := Nat.lt_of_le_of_lt hy hx
  have hi' : m'.registers.i.toNat + y.toNat ≤ 4095 := by
    rw [hindex]
    omega
  refine ⟨?_, fun k hk => ?_, fun k hk hyk => ?_, memory_load hy16 hi'⟩
  · rw [execute_load hy16 hi']
  · rw [v_load hy16 hi' (Nat.lt_of_le_of_lt hk hy16), if_pos hk, hindex,
      hcells _ (by omega) (by omega), cell_store hx hi, if_pos (by omega), Nat.add_sub_cancel_left]
  · rw [v_load hy16 hi' hk, if_neg (Nat.not_le_of_lt hyk)]

/-- **A store directly behind a load of as many registers writes what is there.** -/
theorem store_load (hx : x.toNat < 16) (hi : m.registers.i.toNat + x.toNat ≤ 4095)
    (hload : m.execute (.loadRegisters x) = (m', .ok ())) :
    (m'.execute (.storeRegisters x)).2 = .ok () ∧
    (m'.execute (.storeRegisters x)).1.memory = m.memory := by
  have hindex : m'.registers.i = m.registers.i := by
    rw [← (kept_store_load (m := m) (.inr rfl)).1, hload]
  have hmemory : m'.memory = m.memory := by rw [← memory_load hx hi, hload]
  rw [← hindex] at hi
  rw [execute_store hx hi]
  refine ⟨rfl, ?_⟩
  -- Every cell gets the value that it has.
  have hsame : stored m' (x.toNat + 1) = goOn m' := by
    rw [← putCells_cell, stored]
    refine putCells_congr m' fun j _ => ?_
    split
    next hj =>
      have hv := v_load hx (hindex ▸ hi) (m := m) (k := j - m'.registers.i.toNat) (by omega)
      rw [hload, if_pos (by omega), ← hindex, Nat.add_sub_cancel' hj.1] at hv
      rw [hv, cell, cell, hmemory]
    next => rfl
  rw [hsame]
  exact hmemory

end Table

namespace Machine

open Table

/-- **Storing registers and loading them are inverse.** Up to the last cell of memory a store of the
    registers up to X finishes and writes no other cell than those from the index register on. As
    long as these and the index register stay, a load up to a register Y not above X finishes,
    brings back the registers up to Y and leaves the others and memory as it finds them. A load up
    to X with a store directly behind it leaves all memory as it was. The index register and the
    call stack always stay. -/
theorem dump_restore (m : Machine) {x y : Reg} (hx : x.toNat ≤ 15) (hy : y.toNat ≤ x.toNat)
    (hi : m.registers.i.toNat + x.toNat ≤ 4095) :
    let dumped := m.execute (.storeRegisters x)
    dumped.2 = .ok () ∧
    (∀ a, ¬ (m.registers.i.toNat ≤ a ∧ a ≤ m.registers.i.toNat + x.toNat) →
      cell dumped.1 a = cell m a) ∧
    (∀ m' : Machine, m'.registers.i = dumped.1.registers.i →
      (∀ a, m.registers.i.toNat ≤ a → a ≤ m.registers.i.toNat + x.toNat →
        cell m' a = cell dumped.1 a) →
      let restored := m'.execute (.loadRegisters y)
      restored.2 = .ok () ∧ (∀ k ≤ y.toNat, v restored.1 k = v m k) ∧
      (∀ k < 16, y.toNat < k → v restored.1 k = v m' k) ∧ restored.1.memory = m'.memory ∧
      (m'.memory = dumped.1.memory →
        ∀ a, ¬ (m.registers.i.toNat ≤ a ∧ a ≤ m.registers.i.toNat + x.toNat) →
          cell restored.1 a = cell m a)) ∧
    (let loaded := m.execute (.loadRegisters x)
      let again := loaded.1.execute (.storeRegisters x)
      loaded.2 = .ok () ∧ again.2 = .ok () ∧ again.1.memory = m.memory) ∧
    ∀ (m : Machine) (z : Reg) (ins : Instruction),
      ins = .storeRegisters z ∨ ins = .loadRegisters z →
      (m.execute ins).1.registers.i = m.registers.i ∧
      (m.execute ins).1.registers.stack = m.registers.stack := by
  have hx16 : x.toNat < 16 := Nat.lt_succ_of_le hx
  intro dumped
  have houtside : ∀ a, ¬ (m.registers.i.toNat ≤ a ∧ a ≤ m.registers.i.toNat + x.toNat) →
      cell dumped.1 a = cell m a := fun a ha => by rw [cell_store hx16 hi, if_neg ha]
  refine ⟨congrArg Prod.snd (execute_store hx16 hi), houtside, fun m' hindex hcells => ?_, ?_,
    fun m z ins h => kept_store_load h⟩
  · obtain ⟨hok, hback, hleft, hmemory⟩ :=
      load_dump hx16 hy hi (hindex.trans (kept_store_load (.inl rfl)).1) hcells
    refine ⟨hok, hback, hleft, hmemory, fun hkept a ha => ?_⟩
    rw [← houtside a ha, cell, cell, hmemory, hkept]
  · intro loaded again
    have hok : loaded.2 = .ok () := congrArg Prod.snd (execute_load hx16 hi)
    exact ⟨hok, store_load hx16 hi (Prod.ext rfl hok)⟩

/-- A machine whose registers hold different values and whose index register points sixteen cells
    before the end of memory. -/
def dumping : Machine where
  registers := { v := .ofFn fun k => .ofNat (100 + k), i := 0xFF0 }

/-- The same after a store of all registers, which are then cleared. -/
def wiped : Machine :=
  let dumped := (dumping.execute (.storeRegisters 0xF)).1
  { dumped with registers := { dumped.registers with v := .replicate registerCount 0 } }

/-- Sixteen registers go up to the last cell of memory. Half of them are loaded back. -/
theorem dump_restore_dumping :
    (dumping.execute (.storeRegisters 0xF)).2 = .ok () ∧
    (wiped.execute (.loadRegisters 7)).2 = .ok () ∧
    v (wiped.execute (.loadRegisters 7)).1 7 = 107 ∧
    v (wiped.execute (.loadRegisters 7)).1 8 = 0 ∧
    ((dumping.execute (.loadRegisters 0xF)).1.execute (.storeRegisters 0xF)).1.memory =
      dumping.memory := by
  obtain ⟨hok, -, hrestore, ⟨-, -, hagain⟩, -⟩ :=
    dump_restore dumping (x := 0xF) (y := 7) (by decide) (by decide) (by decide)
  obtain ⟨hloaded, hback, hleft, -⟩ := hrestore wiped rfl fun _ _ _ => rfl
  have hseven : v dumping 7 = 107 := rfl
  have height : v wiped 8 = 0 := rfl
  refine ⟨hok, hloaded, ?_, ?_, hagain⟩
  · rw [hback 7 (by decide), hseven]
  · rw [hleft 8 (by decide) (by decide), height]

end Machine

end Chip8
