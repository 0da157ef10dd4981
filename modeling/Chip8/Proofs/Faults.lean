/-
  File:      Chip8/Proofs/Faults.lean
  Subject:   When a step faults, and with which fault.

  * `Table.Refused`: the words that the table refuses, each with its cause;
  * `next_error_iff`: the table refuses exactly those;
  * `Machine.Faults`: the faults of a running machine, those of the fetch included;
  * `step_fault_iff`: a step faults exactly so, and the machine is halted afterwards.
-/
import Chip8.Proofs.Refinement

namespace Chip8

namespace Table

/-! ## 1. Refused words -/

/-- A word that is refused, and why. -/
inductive Refused (m : Machine) (w : Nat) : Cause → Prop
  /-- A call while all levels are in use. -/
  | call (kind : w / 4096 = 0x2) (full : m.registers.stack.entries.length = 16) :
      Refused m w .stackOverflow
  /-- A return without a call. -/
  | ret (word : w = 0x00EE) (empty : m.registers.stack.entries = []) :
      Refused m w .stackUnderflow
  /-- A sprite that leaves memory. -/
  | sprite (kind : w / 4096 = 0xD) (out : 4096 < m.registers.i.toNat + w % 16) :
      Refused m w (.outOfBounds
        (if 4096 ≤ m.registers.i.toNat ∧ 0 < w % 16 then m.registers.i.toNat else 0x1000))
  /-- A sum that does not fit into the index register. -/
  | sum (kind : w / 4096 = 0xF) (selector : w % 256 = 0x1E)
      (out : 65535 < m.registers.i.toNat + v m (w / 256 % 16)) :
      Refused m w (.outOfBounds (m.registers.i.toNat + v m (w / 256 % 16)))
  /-- Decimal digits that leave memory. -/
  | decimal (kind : w / 4096 = 0xF) (selector : w % 256 = 0x33)
      (out : 4095 < m.registers.i.toNat + 2) :
      Refused m w (.outOfBounds (max m.registers.i.toNat 0x1000))
  /-- Registers that leave memory, on their way out or in. -/
  | registers (kind : w / 4096 = 0xF) (selector : w % 256 = 0x55 ∨ w % 256 = 0x65)
      (out : 4095 < m.registers.i.toNat + w / 256 % 16) :
      Refused m w (.outOfBounds (max m.registers.i.toNat 0x1000))
  /-- A word outside the table, under the strict policy. -/
  | unlisted (word : ¬ Listed w) (policy : m.policy = .strict) :
      Refused m w (.unknownOpcode (.ofNat w))

theorem unlisted_eq_error {m : Machine} {w : Nat} {c : Cause} (h : unlisted m w = .error c) :
    m.policy = .strict ∧ c = .unknownOpcode (.ofNat w) := by
  unfold unlisted at h
  split at h
  · cases h
  next hp =>
    cases h
    exact ⟨hp, rfl⟩

theorem unlisted_of_strict {m : Machine} (w : Nat) (h : m.policy = .strict) :
    unlisted m w = .error (.unknownOpcode (.ofNat w)) := by
  rw [unlisted, h]

/-! ## 2. Words outside the table, family by family -/

theorem listed_zero_iff {w : Nat} (hk : w / 4096 = 0) :
    Listed w ↔ w = 0x00E0 ∨ w = 0x00EE := by
  simp [Listed, hk]

theorem listed_arithmetic_iff {w : Nat} (hk : w / 4096 = 8) :
    Listed w ↔ w % 16 ∈ [0x0, 0x1, 0x2, 0x3, 0x4, 0x5, 0x6, 0x7, 0xE] := by
  have h : w ≠ 0x00E0 ∧ w ≠ 0x00EE := by omega
  simp [Listed, hk, h]

theorem listed_key_iff {w : Nat} (hk : w / 4096 = 0xE) :
    Listed w ↔ w % 256 = 0x9E ∨ w % 256 = 0xA1 := by
  have h : w ≠ 0x00E0 ∧ w ≠ 0x00EE := by omega
  simp [Listed, hk, h]

theorem listed_misc_iff {w : Nat} (hk : w / 4096 = 0xF) :
    Listed w ↔ w % 256 ∈ [0x07, 0x0A, 0x15, 0x18, 0x1E, 0x29, 0x33, 0x55, 0x65] := by
  have h : w ≠ 0x00E0 ∧ w ≠ 0x00EE := by omega
  simp [Listed, hk, h]

theorem listed_n_iff {w : Nat} (hk : w / 4096 = 5 ∨ w / 4096 = 9) : Listed w ↔ w % 16 = 0 := by
  have h : w ≠ 0x00E0 ∧ w ≠ 0x00EE := by omega
  rcases hk with hk | hk <;> simp [Listed, hk, h]

theorem arithmetic_of_not_listed (m : Machine) {w : Nat}
    (h : w % 16 ∉ [0x0, 0x1, 0x2, 0x3, 0x4, 0x5, 0x6, 0x7, 0xE]) :
    arithmetic m w = unlisted m w := by
  rw [arithmetic]
  split
  case h_10 => rfl
  -- The other rows belong to digits of the list.
  all_goals exact absurd (by rw [‹w % 16 = _›]; decide) h

theorem misc_of_not_listed (m : Machine) {w : Nat}
    (h : w % 256 ∉ [0x07, 0x0A, 0x15, 0x18, 0x1E, 0x29, 0x33, 0x55, 0x65]) :
    misc m w = unlisted m w := by
  rw [misc]
  split
  case h_10 => rfl
  all_goals exact absurd (by rw [‹w % 256 = _›]; decide) h

/-- **A word outside the table is passed over or refused, by the policy alone.** -/
theorem next_of_not_listed (m : Machine) {w : Nat} (hw : w < 65536) (h : ¬ Listed w) :
    next m w = unlisted m w := by
  rw [next]
  split
  case h_1 k =>
    rw [listed_zero_iff k, not_or] at h
    rw [if_neg h.1, if_neg h.2]
  case h_6 k => rw [if_neg (mt (listed_n_iff (.inl k)).mpr h)]
  case h_9 k => rw [arithmetic_of_not_listed m (mt (listed_arithmetic_iff k).mpr h)]
  case h_10 k => rw [if_neg (mt (listed_n_iff (.inr k)).mpr h)]
  case h_15 k =>
    rw [listed_key_iff k, not_or] at h
    rw [if_neg h.1, if_neg h.2]
  case h_16 =>
    have k : w / 4096 = 0xF := by
      simp only [imp_false] at *
      omega
    rw [misc_of_not_listed m (mt (listed_misc_iff k).mpr h)]
  -- The other families have a row for each word.
  all_goals exact absurd (.inr (.inr (.inl (by rw [‹w / 4096 = _›]; decide)))) h

theorem refused_of_unlisted {m : Machine} {w : Nat} {c : Cause} (hl : ¬ Listed w)
    (h : unlisted m w = .error c) : Refused m w c := by
  obtain ⟨hp, rfl⟩ := unlisted_eq_error h
  exact .unlisted hl hp

theorem refused_of_arithmetic {m : Machine} {w : Nat} {c : Cause} (k : w / 4096 = 0x8)
    (h : arithmetic m w = .error c) : Refused m w c := by
  by_cases hl : Listed w
  · rw [listed_arithmetic_iff k] at hl
    rw [arithmetic] at h
    split at h
    case h_10 => simp_all
    all_goals cases h
  · rw [arithmetic_of_not_listed m (mt (listed_arithmetic_iff k).mpr hl)] at h
    exact refused_of_unlisted hl h

theorem refused_of_misc {m : Machine} {w : Nat} {c : Cause} (k : w / 4096 = 0xF)
    (h : misc m w = .error c) : Refused m w c := by
  by_cases hl : Listed w
  · rw [listed_misc_iff k] at hl
    rw [misc] at h
    split at h
    case h_5 sel =>
      split at h
      · cases h
      · cases h
        exact .sum k sel (by omega)
    case h_7 sel =>
      split at h
      · cases h
      · cases h
        exact .decimal k sel (by omega)
    case h_8 sel =>
      split at h
      · cases h
      · cases h
        exact .registers k (.inl sel) (by omega)
    case h_9 sel =>
      split at h
      · cases h
      · cases h
        exact .registers k (.inr sel) (by omega)
    case h_10 => simp_all
    all_goals cases h
  · rw [misc_of_not_listed m (mt (listed_misc_iff k).mpr hl)] at h
    exact refused_of_unlisted hl h

theorem refused_of_next {m : Machine} {w : Nat} (hw : w < 65536) {c : Cause}
    (h : next m w = .error c) : Refused m w c := by
  rw [next] at h
  split at h
  case h_1 k =>
    split at h
    · cases h
    · split at h
      next e =>
        unfold returned at h
        split at h
        next hn =>
          cases h
          exact .ret e (List.getLast?_eq_none_iff.mp hn)
        next => cases h
      next h0 h1 =>
        refine refused_of_unlisted ?_ h
        rw [listed_zero_iff k, not_or]
        exact ⟨h0, h1⟩
  case h_3 k =>
    unfold called at h
    split at h
    · cases h
    next hf =>
      cases h
      have := m.registers.stack.length_le
      exact .call k (by simp only [stackDepth] at this; omega)
  case h_6 k =>
    split at h
    · cases h
    next hn => exact refused_of_unlisted (mt (listed_n_iff (.inl k)).mp hn) h
  case h_9 k => exact refused_of_arithmetic k h
  case h_10 k =>
    split at h
    · cases h
    next hn => exact refused_of_unlisted (mt (listed_n_iff (.inr k)).mp hn) h
  case h_14 k =>
    rw [drawn] at h
    split at h
    · cases h
    · cases h
      exact .sprite k (by omega)
  case h_15 k =>
    split at h
    · cases h
    · split at h
      · cases h
      next h0 h1 =>
        refine refused_of_unlisted ?_ h
        rw [listed_key_iff k, not_or]
        exact ⟨h0, h1⟩
  case h_16 =>
    have k : w / 4096 = 0xF := by
      simp only [imp_false] at *
      omega
    exact refused_of_misc k h
  all_goals cases h

/-- **The table refuses exactly the words of `Refused`**, each for its own cause. -/
theorem next_error_iff (m : Machine) {w : Nat} (hw : w < 65536) {c : Cause} :
    next m w = .error c ↔ Refused m w c := by
  refine ⟨refused_of_next hw, ?_⟩
  intro h
  cases h with
  | call k full =>
    simp only [next, k, called]
    rw [dif_neg (by omega)]
  | ret e empty =>
    subst e
    simp [next, returned, empty]
  | sprite k out =>
    simp only [next, k, drawn]
    rw [if_neg (by omega)]
  | sum k sel out =>
    simp only [next, k, misc, sel]
    rw [if_neg (by omega)]
  | decimal k sel out =>
    simp only [next, k, misc, sel]
    rw [if_neg (by omega)]
  | registers k sel out =>
    rcases sel with sel | sel
    · simp only [next, k, misc, sel]
      rw [if_neg (by omega)]
    · simp only [next, k, misc, sel]
      rw [if_neg (by omega)]
  | unlisted hl hp => rw [next_of_not_listed m hw hl, unlisted_of_strict w hp]

end Table

namespace Machine

open Table

/-! ## 3. Faults of a step -/

/-- The faults of a running machine: of the fetch, or of a refused word. Both tell where the
    instruction stands. -/
inductive Faults (m : Machine) : Fault → Prop
  /-- The program counter does not point to two cells. -/
  | fetch (out : 0xFFF ≤ m.registers.pc.toNat) :
      Faults m ⟨m.registers.pc, 0, .outOfBounds (max m.registers.pc.toNat 0x1000)⟩
  /-- The word at the program counter is refused. -/
  | refused {c : Cause} (within : m.registers.pc.toNat < 0xFFF) (cause : Refused m (word m) c) :
      Faults m ⟨m.registers.pc, .ofNat (word m), c⟩

theorem step_of_out (m : Machine) (hs : m.status = .running)
    (hpc : 0xFFF ≤ m.registers.pc.toNat) :
    m.step = m.stopAt m.registers.pc 0 (.outOfBounds (max m.registers.pc.toNat 0x1000)) := by
  rw [step, hs]
  show m.cycle = _
  rw [cycle, fetch_of_lt m hpc]

theorem result_step_running (m : Machine) (hs : m.status = .running) (f : Fault) :
    m.step.2.result = .error f ↔ m.Faults f := by
  by_cases hpc : m.registers.pc.toNat < 0xFFF
  · have hout : ¬ 0xFFF ≤ m.registers.pc.toNat := by omega
    rcases step_of_running m hs (by omega) with ⟨m', hn, -, h⟩ | ⟨c, m', hn, -, h⟩
    · rw [h]
      constructor
      · intro e
        cases e
      · intro e
        cases e with
        | fetch out => exact absurd out hout
        | refused _ cause =>
          rw [← next_error_iff m (word_lt m), hn] at cause
          cases cause
    · rw [h]
      constructor
      · intro e
        cases e
        exact .refused hpc ((next_error_iff m (word_lt m)).mp hn)
      · intro e
        cases e with
        | fetch out => exact absurd out hout
        | refused _ cause =>
          rw [← next_error_iff m (word_lt m), hn] at cause
          cases cause
          rfl
  · rw [step_of_out m hs (by omega)]
    constructor
    · intro e
      cases e
      exact .fetch (by omega)
    · intro e
      cases e with
      | fetch _ => rfl
      | refused within _ => exact absurd within hpc

/-- **One look at the keys**: none was pressed, or one was, for a register that exists or for
    one that does not. -/
theorem poll_cases (m : Machine) (r : Reg) : ∃ baseline,
    ((m.keypad.newlyPressed m.baseline).1 = none ∧
      m.poll r = ({ m with baseline }, .polled r none)) ∨
    (∃ key, (m.keypad.newlyPressed m.baseline).1 = some key ∧ ∃ h : r.toNat < registerCount,
      m.poll r = ({ m with
        registers := { m.registers with v := m.registers.v.set r.toNat key }
        status := .running
        baseline }, .polled r (some key))) ∨
    (registerCount ≤ r.toNat ∧ ∃ f,
      m.poll r = ({ m with status := .halted, baseline }, .faulted f)) := by
  unfold poll
  rcases m.keypad.newlyPressed m.baseline with ⟨_ | key, baseline⟩
  · exact ⟨baseline, .inl ⟨rfl, rfl⟩⟩
  · refine ⟨baseline, .inr ?_⟩
    by_cases hr : r.toNat < registerCount
    · simp only [Registers.set_of_lt _ _ hr]
      exact .inl ⟨key, rfl, hr, rfl⟩
    · have hr' := Nat.le_of_not_lt hr
      simp only [Registers.set_of_le _ _ hr']
      exact .inr ⟨hr', _, rfl⟩

/-- A machine that waits for a key for an existing register never faults. -/
theorem poll_polled (m : Machine) {r : Reg} (hr : r.toNat < registerCount) :
    ∃ key, (m.poll r).2 = .polled r key := by
  obtain ⟨baseline, ⟨-, e⟩ | ⟨key, -, _, e⟩ | ⟨hr', -⟩⟩ := m.poll_cases r
  · rw [e]
    exact ⟨none, rfl⟩
  · rw [e]
    exact ⟨some key, rfl⟩
  · exact absurd hr (Nat.not_lt_of_le hr')

theorem status_poll_of_fault {m : Machine} {r : Reg} {f : Fault}
    (h : (m.poll r).2.result = .error f) : (m.poll r).1.status = .halted := by
  obtain ⟨baseline, ⟨-, e⟩ | ⟨key, -, _, e⟩ | ⟨-, f', e⟩⟩ := m.poll_cases r
  · rw [e] at h
    cases h
  · rw [e] at h
    cases h
  · rw [e]

theorem status_cycle_of_fault {m : Machine} {f : Fault} (h : m.cycle.2.result = .error f) :
    m.cycle.1.status = .halted := by
  unfold cycle at h ⊢
  cases hf : m.fetch with
  | error c => rfl
  | ok w =>
    rw [hf] at h
    simp only at h ⊢
    rcases he : m.execute (.decode w) with ⟨m', _ | _⟩
    · rfl
    · rw [he] at h
      cases h

theorem status_step_of_fault (m : Machine) (f : Fault) (h : m.step.2.result = .error f) :
    m.step.1.status = .halted := by
  unfold step at h ⊢
  cases hs : m.status with
  | halted =>
    rw [hs] at h
    cases h
  | waitingForKey r =>
    rw [hs] at h
    exact status_poll_of_fault h
  | running =>
    rw [hs] at h
    exact status_cycle_of_fault h

/-- **A step faults exactly as `Faults` says**, and the machine is halted afterwards. A halted
    machine never faults, nor does one that waits for a key for an existing register. -/
theorem step_fault_iff (m : Machine) :
    (m.status = .running → ∀ f, m.step.2.result = .error f ↔ m.Faults f) ∧
    (∀ f, m.step.2.result = .error f → m.step.1.status = .halted) ∧
    (m.status = .halted → ∀ f, m.step.2.result ≠ .error f) ∧
    (∀ r, m.status = .waitingForKey r → r.toNat ≤ 15 → ∀ f, m.step.2.result ≠ .error f) := by
  refine ⟨result_step_running m, status_step_of_fault m, fun hs f => ?_, fun r hs hr f => ?_⟩
  · rw [step, hs]
    intro e
    cases e
  · obtain ⟨key, hk⟩ := m.poll_polled (Nat.lt_succ_of_le hr)
    rw [step, hs]
    show (m.poll r).2.result ≠ _
    rw [hk]
    intro e
    cases key with
    | none => cases e
    | some _ => cases e

/-- A machine in front of `D000`, a sprite without rows, whose index register lies beyond
    memory. -/
def beyond : Machine where
  registers := { i := 5000 }
  memory := opening 0xD0 0x00

theorem word_beyond : word beyond = 0xD000 := by
  rw [word_of_opening (m := beyond) rfl rfl]
  rfl

/-- Even a sprite without rows is refused there, though not at its own address. -/
theorem step_beyond : beyond.status = .running ∧
    beyond.step.2.result = .error ⟨0x200, 0xD000, .outOfBounds 0x1000⟩ ∧
    beyond.step.1.status = .halted := by
  have hf : beyond.Faults ⟨0x200, 0xD000, .outOfBounds 0x1000⟩ := by
    have hr : Refused beyond (word beyond) (.outOfBounds 0x1000) := by
      rw [word_beyond]
      exact .sprite (by decide) (by decide)
    have h := Faults.refused (m := beyond) (by decide) hr
    rw [word_beyond] at h
    exact h
  have hstep := step_fault_iff beyond
  have h := (hstep.1 rfl _).mpr hf
  exact ⟨rfl, h, hstep.2.1 _ h⟩

end Machine

end Chip8
