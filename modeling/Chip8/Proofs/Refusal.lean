/-
  File:      Chip8/Proofs/Refusal.lean
  Subject:   What an instruction leaves behind when it is refused.

  Most instructions check their operands before they write. Four of them do their work piece by
  piece, and what is done by the time of the refusal stays done:

  * `each_left`: what a refused loop leaves;
  * `abandoned`: the machine that a refused instruction leaves; `eq_abandoned`: it does;
  * `Leaves`: the same, part by part; `leaves_abandoned`;
  * `Stops`: how a step leaves the machine when it faults; `stops_step`;
  * `refused_leaves`: both together.
-/
import Chip8.Proofs.Faults
import Chip8.Proofs.Frames

namespace Chip8

namespace Table

open Effect Instruction

variable {m m' : Machine} {c : Cause}

/-! ## 1. Refused loops -/

/-- The loop was in turn `k` when it was refused, if every turn before finishes and this one does
    not. -/
theorem each_left {f : Nat → Effect Unit} (s : Nat → Machine) {k n : Nat}
    (hok : ∀ j < k, f j (s j) = .ok () (s (j + 1)))
    (hstop : k < n → ∃ c, f k (s k) = .error c (s k))
    (h : each n f (s 0) = .error c m') : m' = s k := by
  by_cases hk : k < n
  · obtain ⟨c', hc⟩ := hstop hk
    rw [each_error s hok hk hc] at h
    cases h
    rfl
  · rw [each_ok s fun j hj => hok j (by omega)] at h
    cases h

/-- Of `n` cells from the index register on, those that exist. -/
def reach (m : Machine) (n : Nat) : Nat := min n (4096 - m.registers.i.toNat)

theorem lt_of_lt_reach {n j : Nat} (h : j < reach m n) :
    j < n ∧ m.registers.i.toNat + j < 4096 := by
  rw [reach] at h
  omega

theorem not_lt_of_reach_lt {n : Nat} (h : reach m n < n) :
    ¬ m.registers.i.toNat + reach m n < 4096 := by
  rw [reach] at h ⊢
  omega

theorem reach_eq_of_not_lt {n : Nat} (h : ¬ reach m n < n) (hn : 0 < n) :
    reach m n = n ∧ m.registers.i.toNat + n ≤ 4096 := by
  rw [reach] at h ⊢
  omega

theorem storeTurn_reach (m : Machine) : ∃ c,
    storeTurn m.registers.i.toNat (reach m 16) (stored m (reach m 16)) =
      .error c (stored m (reach m 16)) := by
  by_cases h : reach m 16 < 16
  · rw [storeTurn_stored m h, if_neg (not_lt_of_reach_lt h)]
    exact ⟨_, rfl⟩
  -- The loop is at the register 16, which does not exist.
  · rw [(reach_eq_of_not_lt h (by decide)).1, storeTurn]
    exact ⟨_, run_bind_error (readReg_of_le _ (by decide)) _⟩

theorem loadTurn_reach (m : Machine) : ∃ c,
    loadTurn m.registers.i.toNat (reach m 16) (loaded m (reach m 16)) =
      .error c (loaded m (reach m 16)) := by
  by_cases h : reach m 16 < 16
  · rw [loadTurn_loaded m h, if_neg (not_lt_of_reach_lt h)]
    exact ⟨_, rfl⟩
  · obtain ⟨e, hi⟩ := reach_eq_of_not_lt h (by decide)
    rw [e, loadTurn]
    by_cases hcell : m.registers.i.toNat + 16 < 4096
    · rw [loaded, run_bind_ok (readMem_putAll m _ hcell)]
      exact ⟨_, writeReg_of_le _ _ (by decide)⟩
    · exact ⟨_, run_bind_error (readMem_of_le _ (Nat.le_of_not_lt hcell)) _⟩

/-! ## 2. The machine that is left -/

/-- The machine that the instruction leaves when it is refused. -/
def abandoned (m : Machine) : Instruction → Machine
  | rand _ _ => { goOn m with random := { m.random with taken := m.random.taken + 1 } }
  | decimal x => if x.toNat < 16 then filled m (digit (v m x.toNat)) (reach m 3) else goOn m
  | storeRegisters _ => stored m (reach m 16)
  | loadRegisters _ => loaded m (reach m 16)
  | _ => goOn m

theorem eq_abandoned_rand {here : Word} {x : Reg} {mask : Byte}
    (h : (rand x mask).effect here (goOn m) = .error c m') : m' = abandoned m (rand x mask) := by
  have ht : takeRandom (goOn m) = .ok (m.random.word m.random.taken).toUInt8
      { goOn m with random := { m.random with taken := m.random.taken + 1 } } := rfl
  rw [effect, run_bind_ok ht] at h
  exact keepsRefused_writeReg (f := id) x _ _ _ _ h

theorem eq_abandoned_decimal {here : Word} {x : Reg}
    (h : (decimal x).effect here (goOn m) = .error c m') : m' = abandoned m (decimal x) := by
  rw [abandoned]
  by_cases hx : x.toNat < 16
  · rw [if_pos hx]
    rw [decimal_goOn m here hx] at h
    refine each_left (filled m (digit (v m x.toNat))) (fun j hj => ?_) (fun hk => ?_) h
    · rw [decimalTurn_filled, if_pos (lt_of_lt_reach hj).2]
    · rw [decimalTurn_filled, if_neg (not_lt_of_reach_lt hk)]
      exact ⟨_, rfl⟩
  · rw [if_neg hx]
    rw [effect, decimalEffect, run_bind_error (readReg_of_le _ (Nat.le_of_not_lt hx))] at h
    cases h
    rfl

theorem eq_abandoned_store {here : Word} {x : Reg}
    (h : (storeRegisters x).effect here (goOn m) = .error c m') :
    m' = abandoned m (storeRegisters x) := by
  rw [store_goOn] at h
  refine each_left (stored m) (fun j hj => ?_) (fun _ => storeTurn_reach m) h
  obtain ⟨h16, hcell⟩ := lt_of_lt_reach hj
  rw [storeTurn_stored m h16, if_pos hcell]

theorem eq_abandoned_load {here : Word} {x : Reg}
    (h : (loadRegisters x).effect here (goOn m) = .error c m') :
    m' = abandoned m (loadRegisters x) := by
  rw [load_goOn] at h
  refine each_left (loaded m) (fun j hj => ?_) (fun _ => loadTurn_reach m) h
  obtain ⟨h16, hcell⟩ := lt_of_lt_reach hj
  rw [loadTurn_loaded m h16, if_pos hcell]

/-- **A refused instruction leaves exactly this machine.** -/
theorem eq_abandoned {here : Word} {ins : Instruction}
    (h : ins.effect here (goOn m) = .error c m') : m' = abandoned m ins := by
  cases ins with
  | rand x mask => exact eq_abandoned_rand h
  | decimal x => exact eq_abandoned_decimal h
  | storeRegisters x => exact eq_abandoned_store h
  | loadRegisters x => exact eq_abandoned_load h
  | _ => exact keepsRefused_of_not_piecemeal (f := id) here rfl _ _ _ h

theorem cell_filled (m : Machine) {values : Nat → Nat} (hvalues : ∀ k, values k < 256) (n a : Nat) :
    cell (filled m values (reach m n)) a =
      if m.registers.i.toNat ≤ a ∧ a < m.registers.i.toNat + reach m n then
        values (a - m.registers.i.toNat)
      else cell m a := by
  by_cases ha : a < 4096
  · refine cell_putCells m ha ?_
    split
    · exact hvalues _
    · exact cell_lt m a
  · have hout : ¬ (m.registers.i.toNat ≤ a ∧ a < m.registers.i.toNat + reach m n) := by
      rw [reach]
      omega
    rw [if_neg hout, cell_of_le _ (Nat.le_of_not_lt ha), cell_of_le _ (Nat.le_of_not_lt ha)]

end Table

namespace Machine

open Table Instruction

/-! ## 3. Part by part -/

/-- What the refused instruction `ins` leaves of the machine `m`. -/
structure Leaves (m : Machine) (ins : Instruction) (m' : Machine) : Prop where
  counter : m'.registers.pc.toNat = (m.registers.pc.toNat + 2) % 65536
  /-- Besides the program counter, nothing but general registers, memory and random source ever
      changes. -/
  frame : m' = { m with
    registers := { m.registers with pc := m'.registers.pc, v := m'.registers.v }
    memory := m'.memory
    random := m'.random }
  general : (∀ x, ins ≠ .loadRegisters x) → m'.registers.v = m.registers.v
  memory : (∀ x, ins ≠ .storeRegisters x) → (∀ x, ins ≠ .decimal x) → m'.memory = m.memory
  random : (∀ x mask, ins ≠ .rand x mask) → m'.random = m.random
  /-- One word was taken. -/
  rand : ∀ x mask, ins = .rand x mask →
    m'.random = { m.random with taken := m.random.taken + 1 }
  /-- The registers were loaded whose cells exist. -/
  load : ∀ x, ins = .loadRegisters x → ∀ k < 16, v m' k =
    if k < reach m 16 then cell m (m.registers.i.toNat + k) else v m k
  /-- The registers were stored for which there are cells. -/
  store : ∀ x, ins = .storeRegisters x → ∀ a, cell m' a =
    if m.registers.i.toNat ≤ a ∧ a < m.registers.i.toNat + reach m 16 then
      v m (a - m.registers.i.toNat)
    else cell m a
  /-- So were the digits. -/
  decimal : ∀ x, ins = .decimal x → x.toNat < 16 → ∀ a, cell m' a =
    if m.registers.i.toNat ≤ a ∧ a < m.registers.i.toNat + reach m 3 then
      digit (v m x.toNat) (a - m.registers.i.toNat)
    else cell m a
  /-- A register that does not exist has none. -/
  decimal_of_le : ∀ x, ins = .decimal x → 16 ≤ x.toNat → m'.memory = m.memory

variable {m m' : Machine} {ins : Instruction} {c : Cause} {f : Fault}

theorem leaves_abandoned (m : Machine) (ins : Instruction) : Leaves m ins (abandoned m ins) where
  counter := by
    have e : (abandoned m ins).registers.pc = .ofNat (m.registers.pc.toNat + 2) := by
      cases ins with
      | decimal x =>
        rw [abandoned]
        split <;> rfl
      | _ => rfl
    rw [e, UInt16.toNat_ofNat']
  frame := by
    cases ins with
    | decimal x =>
      rw [abandoned]
      split <;> rfl
    | _ => rfl
  general h := by
    cases ins with
    | loadRegisters x => exact absurd rfl (h x)
    | decimal x =>
      rw [abandoned]
      split <;> rfl
    | _ => rfl
  memory hs hd := by
    cases ins with
    | storeRegisters x => exact absurd rfl (hs x)
    | decimal x => exact absurd rfl (hd x)
    | loadRegisters x => simp only [abandoned, loaded, putAll, goOn, goTo]
    | _ => rfl
  random h := by
    cases ins with
    | rand x mask => exact absurd rfl (h x mask)
    | decimal x =>
      rw [abandoned]
      split <;> rfl
    | loadRegisters x => simp only [abandoned, loaded, putAll, goOn, goTo]
    | _ => rfl
  rand x mask e := by
    subst e
    rfl
  load x e k hk := by
    subst e
    exact v_loaded m _ hk
  store x e a := by
    subst e
    rw [abandoned, stored_eq]
    exact cell_filled m (v_lt m) 16 a
  decimal x e hx a := by
    subst e
    rw [abandoned, if_pos hx]
    exact cell_filled m (fun k => Nat.lt_trans (digit_lt (v_lt m _) k) (by decide)) 3 a
  decimal_of_le x e hx := by
    subst e
    rw [abandoned, if_neg (Nat.not_lt_of_le hx)]
    rfl

theorem leaves_of_refused (h : (m.execute ins).2 = .error c) :
    Leaves m ins (m.execute ins).1 := by
  unfold execute at h ⊢
  rw [advance_eq] at h ⊢
  cases he : ins.effect m.registers.pc (goOn m) with
  | ok _ m' =>
    rw [he] at h
    cases h
  | error c' m' =>
    rw [eq_abandoned he]
    exact leaves_abandoned m ins

/-! ## 4. Faults -/

/-- The machine `m'` that a step leaves when it faults. -/
inductive Stops (m : Machine) : Machine → Prop
  /-- There is no word at the program counter. -/
  | fetch {c : Cause} (status : m.status = .running) (refused : m.fetch = .error c) :
      Stops m { m with status := .halted }
  /-- The instruction is refused. -/
  | execute {w : Word} {c : Cause} {m' : Machine} (status : m.status = .running)
      (fetched : m.fetch = .ok w) (refused : m.execute (.decode w) = (m', .error c))
      (leaves : Leaves m (.decode w) m') : Stops m { m' with status := .halted }
  /-- A key went down for a register that does not exist. -/
  | poll {r : Reg} (baseline : Keypad) (status : m.status = .waitingForKey r)
      (register : 16 ≤ r.toNat) : Stops m { m with status := .halted, baseline }

theorem stops_cycle (hs : m.status = .running) (h : m.cycle.2.result = .error f) :
    Stops m m.cycle.1 := by
  unfold cycle at h ⊢
  cases hf : m.fetch with
  | error c => exact .fetch hs hf
  | ok w =>
    rw [hf] at h
    simp only at h ⊢
    rcases he : m.execute (.decode w) with ⟨m', c | _⟩
    · have hleaves := leaves_of_refused (congrArg Prod.snd he)
      rw [he] at hleaves
      exact .execute hs hf he hleaves
    · rw [he] at h
      cases h

theorem stops_step (h : m.step.2.result = .error f) : Stops m m.step.1 := by
  unfold step at h ⊢
  cases hs : m.status with
  | halted =>
    rw [hs] at h
    cases h
  | waitingForKey r =>
    rw [hs] at h
    simp only at h ⊢
    obtain ⟨baseline, ⟨-, e⟩ | ⟨key, -, _, e⟩ | ⟨hr, f', e⟩⟩ := m.poll_cases r
    · rw [e] at h
      cases h
    · rw [e] at h
      cases h
    · rw [e]
      exact .poll baseline hs hr
  | running =>
    rw [hs] at h
    exact stops_cycle hs h

/-- **What a refused instruction leaves behind.** Whatever the operands and wherever the index
    register points, it leaves what `Leaves` says, and a step that faults leaves the same, halted.
    A failing fetch changes nothing else. -/
theorem refused_leaves (m : Machine) :
    (∀ ins c, (m.execute ins).2 = .error c → Leaves m ins (m.execute ins).1) ∧
    (∀ f, m.step.2.result = .error f → Stops m m.step.1) :=
  ⟨fun _ _ h => leaves_of_refused h, fun _ h => stops_step h⟩

/-- A machine in front of `F255` with the number 7 in all registers, whose index register points to
    the last two cells. -/
def spilling : Machine where
  registers := { v := .replicate registerCount 7, i := 0xFFE }
  memory := opening 0xF2 0x55

/-- Two of the three registers have been stored when it faults. A store with an operand that is no
    register gets as far. -/
theorem refused_leaves_spilling :
    (spilling.execute (.storeRegisters 16)).2 = .error (.outOfBounds 0x1000) ∧
    cell (spilling.execute (.storeRegisters 16)).1 0xFFF = 7 ∧
    (spilling.execute (.storeRegisters 16)).1.registers.v = spilling.registers.v ∧
    spilling.step.2.result = .error ⟨0x200, 0xF255, .outOfBounds 0x1000⟩ ∧
    Stops spilling spilling.step.1 := by
  have hrefused : (spilling.execute (.storeRegisters 16)).2 = .error (.outOfBounds 0x1000) := rfl
  have hfault : spilling.step.2.result = .error ⟨0x200, 0xF255, .outOfBounds 0x1000⟩ := by
    decide +kernel
  obtain ⟨hleaves, hstops⟩ := refused_leaves spilling
  have hleft := hleaves _ _ hrefused
  refine ⟨hrefused, ?_, hleft.general fun x e => (nomatch e), hfault, hstops _ hfault⟩
  rw [hleft.store 16 rfl]
  rfl

end Machine

end Chip8
