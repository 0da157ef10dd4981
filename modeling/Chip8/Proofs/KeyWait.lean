/-
  File:      Chip8/Proofs/KeyWait.lean
  Subject:   A wait for a key ends with the lowest key that goes down between two looks.

  The machine does not remember what it saw at its last look. It keeps a baseline, to which every
  look applies a conjunction.

  * `Keypad.Rises`, `Keypad.Quiet`, `Keypad.LowestRise`: keys that go down from one keypad to
    another; `newlyPressed` finds the lowest of them;
  * `Machine.Idle`: a waiting machine whose baseline is the keypad of its last look; a look at
    which no key has gone down leaves such a machine (`idle_after_step`), and so a whole run does
    (`idle_atSteps`);
  * `wait_until_rise`: the looks of a wait, one by one.
-/
import Chip8.Proofs.Stimuli

namespace Chip8

namespace Keypad

variable {k l baseline : Keypad} {key : Byte}

/-! ## 1. Keys that go down -/

/-- The key is up on the keypad `k` and down on `l`. -/
def Rises (k l : Keypad) (key : Byte) : Prop := k.isHeld key = false ∧ l.isHeld key = true

/-- No key goes down from `k` to `l`. -/
def Quiet (k l : Keypad) : Prop := ∀ key, ¬ k.Rises l key

/-- The lowest key that goes down from `k` to `l`. -/
def LowestRise (k l : Keypad) (key : Byte) : Prop :=
  k.Rises l key ∧ ∀ key', k.Rises l key' → key ≤ key'

theorem ext_isHeld (h : ∀ key, k.isHeld key = l.isHeld key) : k = l := by
  obtain ⟨down⟩ := k
  obtain ⟨down'⟩ := l
  congr
  ext i hi
  have hlt : i < UInt8.size := Nat.lt_trans hi (by decide)
  have hb : (UInt8.ofNat i).toNat = i := UInt8.toNat_ofNat_of_lt' hlt
  have e := h (.ofNat i)
  simp only [isHeld, hb, Vector.getElem?_eq_getElem hi, Option.getD_some] at e
  rw [e]

/-- Where no key goes down, the keys that are down on both keypads are those of the later one. -/
theorem inter_of_quiet (h : k.Quiet l) : k.inter l = l := by
  refine ext_isHeld fun key => ?_
  rw [isHeld_inter]
  have hkey := h key
  unfold Rises at hkey
  cases hk : k.isHeld key with
  | true => rw [Bool.true_and]
  | false =>
    cases hl : l.isHeld key with
    | true => exact absurd ⟨hk, hl⟩ hkey
    | false => rfl

theorem pairwise_heldKeys (k : Keypad) : k.heldKeys.Pairwise (· < ·) := by
  have h : ((List.range keyCount).map UInt8.ofNat).Pairwise (· < ·) := by decide
  exact h.filter _

/-- The keys among which the lowest is looked for are those that go down. -/
theorem mem_candidates_iff :
    (key ∈ k.heldKeys ∧ (!(baseline.inter k).isHeld key) = true) ↔ baseline.Rises k key := by
  rw [mem_heldKeys, isHeld_inter, Rises]
  cases baseline.isHeld key <;> cases k.isHeld key <;> decide

/-- **No newly pressed key** is found exactly if none goes down from the baseline. -/
theorem newlyPressed_eq_none_iff : (k.newlyPressed baseline).1 = none ↔ baseline.Quiet k := by
  rw [newlyPressed, List.find?_eq_none]
  constructor
  · intro h key hr
    obtain ⟨hm, hp⟩ := mem_candidates_iff.mpr hr
    exact h key hm hp
  · intro h key hm hp
    exact h key (mem_candidates_iff.mp ⟨hm, hp⟩)

/-- **A newly pressed key** is the lowest that goes down from the baseline. -/
theorem lowestRise_of_newlyPressed (h : (k.newlyPressed baseline).1 = some key) :
    baseline.LowestRise k key := by
  obtain ⟨hp, before, behind, hsplit, hbefore⟩ := List.find?_eq_some_iff_append.mp h
  have hs := k.pairwise_heldKeys
  have hm : key ∈ k.heldKeys := by
    rw [hsplit]
    exact List.mem_append_right _ List.mem_cons_self
  refine ⟨mem_candidates_iff.mp ⟨hm, hp⟩, fun key' hr => ?_⟩
  obtain ⟨hm', hp'⟩ := mem_candidates_iff.mpr hr
  rw [hsplit] at hm' hs
  rcases List.mem_append.mp hm' with hm' | hm'
  · -- A key in front of it would have been found first.
    have hno := hbefore key' hm'
    rw [hp'] at hno
    cases hno
  · rcases List.mem_cons.mp hm' with rfl | hm'
    · exact UInt8.le_refl _
    · have hrest := (List.pairwise_append.mp hs).2.1
      exact UInt8.le_of_lt ((List.pairwise_cons.mp hrest).1 key' hm')

end Keypad

namespace Machine

/-! ## 2. One look at the keys -/

/-- If no key has gone down, the machine goes on to wait and remembers the keypad as it is. -/
theorem poll_of_quiet {m : Machine} (r : Reg) (h : m.baseline.Quiet m.keypad) :
    m.poll r = ({ m with baseline := m.keypad }, .polled r none) := by
  have hp : m.keypad.newlyPressed m.baseline = (none, m.keypad) :=
    Prod.ext (Keypad.newlyPressed_eq_none_iff.mpr h) (Keypad.inter_of_quiet h)
  rw [poll, hp]

/-- Otherwise the register receives the lowest key that has, and the machine goes on. -/
theorem poll_of_rise {m : Machine} {r : Reg} (hr : r.toNat < registerCount)
    (h : ¬ m.baseline.Quiet m.keypad) :
    ∃ key, m.baseline.LowestRise m.keypad key ∧
      m.poll r = ({ m with
        registers := { m.registers with v := m.registers.v.set r.toNat key }
        status := .running
        baseline := m.baseline.inter m.keypad }, .polled r (some key)) := by
  cases hk : (m.keypad.newlyPressed m.baseline).1 with
  | none => exact absurd (Keypad.newlyPressed_eq_none_iff.mp hk) h
  | some key =>
    have hp : m.keypad.newlyPressed m.baseline = (some key, m.baseline.inter m.keypad) :=
      Prod.ext hk rfl
    refine ⟨key, Keypad.lowestRise_of_newlyPressed hk, ?_⟩
    rw [poll, hp]
    simp only [Registers.set_of_lt _ _ hr]

/-- The machine `m` is still what `d` was, but for the keys and the timers, and it remembers the
    keypad `seen`. -/
def Idle (d : Machine) (seen : Keypad) (m : Machine) : Prop :=
  ∃ keypad timers, m = { d with baseline := seen, keypad, timers }

end Machine

namespace Console

open Machine

/-! ## 3. Runs of a waiting machine -/

variable {d : Machine} {seen : Keypad} {e : Console}

theorem idle_after_of_ne_step (h : Idle d seen e.machine) {s : Stimulus} (hs : s ≠ .step) :
    Idle d seen (e.after s).machine := by
  obtain ⟨_, _, h⟩ := h
  obtain ⟨keypad, timers, ha⟩ := e.after_of_ne_step hs
  refine ⟨keypad, timers, ?_⟩
  rw [ha, h]

/-- A look at which no key has gone down. -/
theorem step_of_quiet {r : Reg} (hd : d.status = .waitingForKey r) (h : Idle d seen e.machine)
    (hq : seen.Quiet e.machine.keypad) :
    e.machine.step = ({ e.machine with baseline := e.machine.keypad }, .polled r none) := by
  obtain ⟨_, _, h⟩ := h
  have hs : e.machine.status = .waitingForKey r := by
    rw [h]
    exact hd
  have hb : e.machine.baseline = seen := by rw [h]
  rw [Machine.step, hs]
  exact poll_of_quiet r (hb ▸ hq)

theorem idle_after_step {r : Reg} (hd : d.status = .waitingForKey r) (h : Idle d seen e.machine)
    (hq : seen.Quiet e.machine.keypad) : Idle d e.machine.keypad (e.after .step).machine := by
  rw [machine_after_step, step_of_quiet hd h hq]
  obtain ⟨keypad, timers, h⟩ := h
  refine ⟨keypad, timers, ?_⟩
  rw [h]

/-- The keypads that the steps of a run find, behind the keypad `seen`. -/
def pads (seen : Keypad) (c : Console) (ss : List Stimulus) : List Keypad :=
  seen :: (c.atSteps ss).map (·.machine.keypad)

/-- The `j`-th of them. The one in front has the number 0. -/
def pad (seen : Keypad) (c : Console) (ss : List Stimulus) (j : Nat) : Keypad :=
  (pads seen c ss).getD j .released

theorem pad_succ_eq {ss : List Stimulus} {j : Nat} {f : Console}
    (h : (e.atSteps ss)[j]? = some f) : pad seen e ss (j + 1) = f.machine.keypad := by
  rw [pad, pads, List.getD_eq_getElem?_getD, List.getElem?_cons_succ, List.getElem?_map, h]
  rfl

/-- **As long as no key goes down between two looks, the baseline is the keypad of the last
    one**, although it is the conjunction of all of them. -/
theorem idle_atSteps {r : Reg} (hd : d.status = .waitingForKey r) (h : Idle d seen e.machine)
    {ss : List Stimulus} {j : Nat} {f : Console} (hf : (e.atSteps ss)[j]? = some f)
    (hq : ∀ i < j, (pad seen e ss i).Quiet (pad seen e ss (i + 1))) :
    Idle d (pad seen e ss j) f.machine := by
  induction ss generalizing e seen j with
  | nil => cases hf
  | cons s ss ih =>
    by_cases hs : s = .step
    · subst hs
      cases j with
      | zero =>
        obtain rfl := Option.some.inj hf
        exact h
      | succ j =>
        have hnow : seen.Quiet e.machine.keypad := hq 0 (Nat.succ_pos j)
        exact ih (idle_after_step hd h hnow) hf fun i hi => hq (i + 1) (Nat.succ_lt_succ hi)
    · have hp : ∀ i, pad seen e (s :: ss) i = pad seen (e.after s) ss i := by
        intro i
        rw [pad, pads, atSteps_cons_of_ne hs]
        rfl
      rw [atSteps_cons_of_ne hs] at hf
      rw [hp]
      refine ih (idle_after_of_ne_step h hs) hf fun i hi => ?_
      rw [← hp, ← hp]
      exact hq i hi

/-! ## 4. The whole wait -/

/-- The machine executes `FX0A` for register `r`, in a step or directly. -/
inductive StartsWait (c : Console) (r : Reg) : Console → Prop
  | step (h : c.machine.Waits r) : StartsWait c r (c.after .step)
  | direct (h : r.toNat ≤ 15) : StartsWait c r (c.executeDirect (.waitKey r)).1

theorem StartsWait.register {c d : Console} {r : Reg} (h : c.StartsWait r d) :
    r.toNat < registerCount := by
  cases h with
  | step h =>
    have := h.register
    simp only [registerCount]
    omega
  | direct h => exact Nat.lt_succ_of_le h

theorem StartsWait.machine {c d : Console} {r : Reg} (h : c.StartsWait r d) : d.machine =
    { c.machine.advance with status := .waitingForKey r, baseline := c.machine.keypad } := by
  cases h with
  | step h => rw [machine_after_step, (step_of_waits h).1]
  | direct h =>
    rw [machine_executeDirect, execute_fst, Instruction.effect, Instruction.waitEffect,
      Effect.run_bind, Effect.readReg_of_lt _ (Nat.lt_succ_of_le h)]
    rfl

/-- A console whose machine has looked at its keys without a fault. -/
theorem result_of_polled {c : Console} {m : Machine} {r : Reg} {key : Option Byte}
    (h : c.machine.step = (m, .polled r key)) :
    c.step.2 = .ok (if key.isSome then .running else .waitingForKey r) := by
  rw [Console.step, h]
  cases key with
  | none => rfl
  | some _ => rfl

/-- **A wait for a key, look by look.** The machine executes `FX0A`. Let `K 0` be the keypad then,
    and `K j` the keypad at the `j`-th step afterwards. As long as no key goes down from one of
    them to the next, the steps are looks at the keys that leave the machine waiting and change
    nothing but the baseline. When some key does go down, the step stores the lowest such key and
    the machine runs again, behind the `FX0A`. A key that was down from the beginning was up at
    some look before it counts. -/
theorem wait_until_rise {c d : Console} {r : Reg} (h : c.StartsWait r d) (ss : List Stimulus) :
    let K := pad c.machine.keypad d ss
    K 0 = c.machine.keypad ∧
    d.machine = { c.machine.advance with status := .waitingForKey r, baseline := K 0 } ∧
    ∃ _ : r.toNat < registerCount,
    ∀ j e, (d.atSteps ss)[j]? = some e → (∀ i < j, (K i).Quiet (K (i + 1))) →
      e.machine.keypad = K (j + 1) ∧ Idle d.machine (K j) e.machine ∧
      ((K j).Quiet (K (j + 1)) →
        e.step.2 = .ok (.waitingForKey r) ∧
        e.machine.step = ({ e.machine with baseline := K (j + 1) }, .polled r none)) ∧
      (¬ (K j).Quiet (K (j + 1)) → ∃ key, (K j).LowestRise (K (j + 1)) key ∧
        e.step.2 = .ok .running ∧
        e.machine.step = ({ e.machine with
          registers := { e.machine.registers with v := e.machine.registers.v.set r.toNat key }
          status := .running
          baseline := (K j).inter (K (j + 1)) }, .polled r (some key)) ∧
        ((K 0).isHeld key = true → ∃ i ≤ j, 0 < i ∧ (K i).isHeld key = false)) := by
  intro K
  have hm := h.machine
  have hr := h.register
  have hd : d.machine.status = .waitingForKey r := by rw [hm]
  have hstart : Idle d.machine c.machine.keypad d.machine :=
    ⟨d.machine.keypad, d.machine.timers, by rw [hm]⟩
  refine ⟨rfl, hm, hr, fun j e he hq => ?_⟩
  have hidle : Idle d.machine (K j) e.machine := idle_atSteps hd hstart he hq
  have hkey : e.machine.keypad = K (j + 1) := (pad_succ_eq he).symm
  refine ⟨hkey, hidle, fun hquiet => ?_, fun hrise => ?_⟩
  · have hs := step_of_quiet hd hidle (hkey ▸ hquiet)
    rw [hkey] at hs
    exact ⟨result_of_polled hs, hs⟩
  · have hb : e.machine.baseline = K j := by
      obtain ⟨_, _, e⟩ := hidle
      rw [e]
    have hs : e.machine.status = .waitingForKey r := by
      obtain ⟨_, _, e⟩ := hidle
      rw [e]
      exact hd
    rw [← hkey, ← hb] at hrise ⊢
    obtain ⟨key, hlow, hpoll⟩ := poll_of_rise hr hrise
    have hstep : e.machine.step = e.machine.poll r := by rw [Machine.step, hs]
    rw [hpoll] at hstep
    refine ⟨key, hlow, result_of_polled hstep, hstep, fun hheld => ?_⟩
    -- It was up at the last look, so that was not the beginning.
    have hup : (K j).isHeld key = false := hb ▸ hlow.1.1
    refine ⟨j, Nat.le_refl j, Nat.pos_of_ne_zero fun hj => ?_, hup⟩
    rw [hj, hheld] at hup
    cases hup

end Console

namespace Machine

open Table

/-- A machine in front of `F30A`, while key 5 is down. -/
def asking : Machine where
  memory := opening 0xF3 0x0A
  keypad := ⟨(Vector.replicate keyCount false).set 5 true⟩

theorem waits_asking : asking.Waits 3 := by
  have hw : word asking = 0xF30A := by
    rw [word_of_opening (m := asking) rfl rfl]
    rfl
  exact ⟨rfl, by decide, by rw [hw], by rw [hw], by rw [hw]; rfl⟩

end Machine

namespace Console

open Machine

/-- A console in front of the wait. -/
def asker : Console where
  machine := asking

/-- The console once it waits and has looked at its keys, when key 7 goes down as well. -/
def answered : Console := ((asker.after .step).after .step).after (.key 7 true)

/-- Key 5 does not count, because it is down all the time. Key 7 does. -/
theorem wait_of_asker : asker.StartsWait 3 (asker.after .step) ∧
    ((asker.after .step).atSteps [.step, .key 7 true, .step])[1]? = some answered ∧
    answered.step.2 = .ok .running := by
  have hs : asker.StartsWait 3 (asker.after .step) := .step waits_asking
  have hkeys : (asker.after .step).machine.keypad = asking.keypad := by
    rw [hs.machine]
    rfl
  obtain ⟨-, -, _, hwait⟩ := wait_until_rise hs [.step, .key 7 true, .step]
  -- The first look finds the keys as they were.
  have h0 : ((asker.after .step).atSteps [.step, .key 7 true, .step])[0]? =
      some (asker.after .step) := rfl
  have hquiet : asking.keypad.Quiet (asker.after .step).machine.keypad := by
    rw [hkeys]
    exact fun key hr => Bool.false_ne_true (hr.1.symm.trans hr.2)
  have hlook := ((hwait 0 _ h0 (by simp)).2.2.1 (by rw [pad_succ_eq h0]; exact hquiet)).2
  have hkeys' : ((asker.after .step).after .step).machine.keypad = asking.keypad := by
    rw [machine_after_step, hlook]
    dsimp only
    exact hkeys
  -- The second one finds key 7.
  have h1 : ((asker.after .step).atSteps [.step, .key 7 true, .step])[1]? = some answered := rfl
  have hlast : answered.machine.keypad = ⟨asking.keypad.down.set 7 true⟩ :=
    keypad_after_key (by rw [hkeys']; rfl)
  have hrise : ¬ (asker.after .step).machine.keypad.Quiet answered.machine.keypad := by
    rw [hkeys, hlast]
    exact fun hq => hq 7 ⟨by decide, by decide⟩
  have hpads : ∀ i < 1, (pad asking.keypad (asker.after .step) [.step, .key 7 true, .step] i).Quiet
      (pad asking.keypad (asker.after .step) [.step, .key 7 true, .step] (i + 1)) := by
    intro i hi
    obtain rfl := Nat.lt_one_iff.mp hi
    rw [pad_succ_eq h0]
    exact hquiet
  have hend := (hwait 1 _ h1 hpads).2.2.2
  rw [pad_succ_eq h0, pad_succ_eq h1] at hend
  obtain ⟨key, -, hr, -⟩ := hend hrise
  exact ⟨hs, h1, hr⟩

end Console

end Chip8
