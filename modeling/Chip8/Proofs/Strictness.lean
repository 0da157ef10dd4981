/-
  File:      Chip8/Proofs/Strictness.lean
  Subject:   The strict policy restricts the permissive one.

  * `Table.Outside`: the words outside the table, family by family; `outside_iff`: they are the
    words that are not listed, and `decode_of_outside`: those that are not decoded;
  * `Machine.step_of_outside`: the step that meets such a word, under either policy;
  * `SameButPolicy`: the policy shows in no other step;
  * `strict_restricts`: a strict run is the permissive run up to the first word outside the table.
-/
import Chip8.Proofs.Interference

namespace Chip8

namespace Table

/-! ## 1. Words outside the table -/

/-- The words outside the table. -/
def Outside (w : Nat) : Prop :=
  w / 4096 = 0x0 ∧ w ≠ 0x00E0 ∧ w ≠ 0x00EE ∨
  w / 4096 ∈ [0x5, 0x9] ∧ 0 < w % 16 ∨
  w / 4096 = 0x8 ∧ (0x8 ≤ w % 16 ∧ w % 16 ≤ 0xD ∨ w % 16 = 0xF) ∨
  w / 4096 = 0xE ∧ w % 256 ∉ [0x9E, 0xA1] ∨
  w / 4096 = 0xF ∧ w % 256 ∉ [0x07, 0x0A, 0x15, 0x18, 0x1E, 0x29, 0x33, 0x55, 0x65]

instance (w : Nat) : Decidable (Outside w) := by unfold Outside; infer_instance

/-- Every word is listed in the table or lies outside. -/
theorem outside_iff {w : Nat} (hw : w < 65536) : Outside w ↔ ¬ Listed w := by
  unfold Outside
  by_cases h0 : w / 4096 = 0x0
  · rw [listed_zero_iff h0, h0]
    simp
  by_cases hn : w / 4096 = 0x5 ∨ w / 4096 = 0x9
  · rw [listed_n_iff hn]
    rcases hn with h | h
    · simp [h, Nat.pos_iff_ne_zero]
    · simp [h, Nat.pos_iff_ne_zero]
  by_cases h8 : w / 4096 = 0x8
  · rw [listed_arithmetic_iff h8, h8]
    simp
    omega
  by_cases hE : w / 4096 = 0xE
  · rw [listed_key_iff hE, hE]
    simp
  by_cases hF : w / 4096 = 0xF
  · rw [listed_misc_iff hF, hF]
    simp
  -- The other families are listed whole.
  · have hl : w / 4096 ∈ [0x1, 0x2, 0x3, 0x4, 0x6, 0x7, 0xA, 0xB, 0xC, 0xD] := by
      simp only [List.mem_cons, List.not_mem_nil, or_false]
      omega
    refine iff_of_false (fun h => ?_) (not_not_intro (.inr (.inr (.inl hl))))
    rw [List.mem_cons, List.mem_singleton] at h
    omega

end Table

namespace Instruction

open Table

/-- The words outside the table are not decoded. -/
theorem decode_of_outside {w : Word} (h : Outside w.toNat) : decode w = .unknown w := by
  have hkind := w.toNat_kind
  have hnn := w.toNat_nn
  have hn := w.toNat_n
  rcases h with ⟨k, hc, hr⟩ | ⟨k, e⟩ | ⟨k, e⟩ | ⟨k, e⟩ | ⟨k, e⟩
  · have hc' : w ≠ 0x00E0 := fun h => hc (congrArg UInt16.toNat h)
    have hr' : w ≠ 0x00EE := fun h => hr (congrArg UInt16.toNat h)
    rw [k] at hkind
    simp only [decode, hkind, if_neg hc', if_neg hr']
  · have hz : w.n ≠ 0 := fun h => by
      rw [h] at hn
      exact absurd hn (Nat.ne_of_lt e)
    rw [List.mem_cons, List.mem_singleton] at k
    rcases k with k | k
    · rw [k] at hkind
      simp only [decode, hkind, if_neg hz]
    · rw [k] at hkind
      simp only [decode, hkind, if_neg hz]
  · rw [k] at hkind
    simp only [decode, hkind]
    unfold decodeArithmetic
    split
    case h_10 => rfl
    all_goals omega
  · rw [k] at hkind
    simp only [decode, hkind]
    simp only [List.mem_cons, List.not_mem_nil, or_false] at e
    unfold decodeKey
    split
    case h_3 => rfl
    all_goals omega
  · rw [k] at hkind
    simp only [decode, hkind]
    simp only [List.mem_cons, List.not_mem_nil, or_false] at e
    unfold decodeMisc
    split
    case h_10 => rfl
    all_goals omega

end Instruction

namespace Machine

open Table Instruction

variable {m : Machine}

/-! ## 2. The step that meets such a word -/

/-- Under the permissive policy the machine goes on behind the word, and under the strict one it
    stops there. -/
theorem step_of_outside {w : Nat} (hx : m.Executes w) (h : Outside w) :
    m.step = match m.policy with
      | .permissive => (m.advance, .cycled (m.eventOf m.advance (.ofNat w) (.unknown (.ofNat w))))
      | .strict => m.advance.stopAt m.registers.pc (.ofNat w) (.unknownOpcode (.ofNat w)) := by
  obtain ⟨hf, -⟩ := spelled_of_executes hx
  have hw : (UInt16.ofNat w).toNat = w := UInt16.toNat_ofNat_of_lt' (hx.word ▸ word_lt m)
  have hd := decode_of_outside (w := .ofNat w) (by rw [hw]; exact h)
  rw [step, hx.running]
  show m.cycle = _
  rw [cycle, hf]
  dsimp only
  rw [hd, execute, effect, unknownEffect, Effect.run_bind, Effect.run_get]
  show _ = match m.advance.policy with | .permissive => _ | .strict => _
  dsimp only
  cases m.advance.policy with
  | permissive => rfl
  | strict => rfl

/-! ## 3. Steps that meet none -/

/-- The second machine is the first one under another policy. -/
abbrev SameButPolicy (p : Policy) : Machine → Machine → Prop :=
  Rewritten fun (_ : Unit) m => { m with policy := p }

theorem twins_sameButPolicy (p : Policy) : Twins (SameButPolicy p) :=
  twins_rewritten (fun _ _ => ⟨rfl, rfl, rfl⟩) (fun _ _ _ => rfl) (fun _ _ _ => rfl) fun _ _ => rfl

/-- Of all devices only the policy shows the policy. -/
theorem shared_sameButPolicy (p : Policy) {d : Device} (hd : d ≠ .policy) :
    d.Shared (SameButPolicy p) := by
  cases d with
  | policy => exact absurd rfl hd
  | _ =>
    intro m m' h
    obtain ⟨_, rfl⟩ := h
    simp [Rewritten]

/-- The machine is not about to execute a word outside the table. -/
def KeepsToTable (m : Machine) : Prop := ∀ w, m.Executes w → ¬ Outside w

/-- Only words outside the table use the policy. -/
theorem shared_of_keepsToTable (p : Policy) (h : m.KeepsToTable) :
    ∀ d ∈ m.devices, d.Shared (SameButPolicy p) := by
  intro d hd
  refine shared_sameButPolicy p fun e => ?_
  subst e
  obtain ⟨w, hx, ins, hw, hi⟩ := spelled_of_mem_devices (by decide) hd
  cases ins with
  | unknown u => exact h w hx ((outside_iff (hx.word ▸ word_lt m)).mpr hw.2)
  | _ => simp [Instruction.devices] at hi

end Machine

namespace Console

open Machine Table

/-! ## 4. Runs -/

/-- The console under another policy. -/
def withPolicy (c : Console) (policy : Policy) : Console := c.modifyMachine ({ · with policy })

/-- While no word outside the table is executed, the policy shows in itself alone. -/
theorem run_withPolicy (p : Policy) {c : Console} {ss : List Stimulus}
    (h : ∀ d ∈ c.atSteps ss, d.machine.KeepsToTable) :
    (c.withPolicy p).run ss = (c.run ss).withPolicy p ∧
      (c.withPolicy p).answers ss = c.answers ss :=
  run_rewritten (twins_sameButPolicy p) (fun _ _ => rfl) (fun _ _ => rfl)
    fun e he => shared_of_keepsToTable p (h e he)

/-- **The strict policy restricts the permissive one.** As long as no word outside the table is
    executed, both answer the same and leave the same but for the policy. The first such word stops
    the strict machine, at its address. The permissive machine goes on behind it and changes nothing
    else, so that the two then differ in policy and status. -/
theorem strict_restricts (c : Console) (ss : List Stimulus) :
    let p := c.withPolicy .permissive
    let s := c.withPolicy .strict
    (∀ d ∈ p.atSteps ss, ∀ w, d.machine.Executes w → ¬ Outside w) →
    s.answers ss = p.answers ss ∧ s.run ss = (p.run ss).withPolicy .strict ∧
    ∀ w, (p.run ss).machine.Executes w → Outside w →
      let m := (p.run ss).machine
      let m' := (s.run ss).machine
      m.step.2.result = .ok .running ∧
      m.step.1 = { m with registers := { m.registers with pc := m.registers.pc + 2 } } ∧
      m'.step.2.result = .error ⟨m.registers.pc, .ofNat w, .unknownOpcode (.ofNat w)⟩ ∧
      m'.step.1 = { m.step.1 with policy := .strict, status := .halted } := by
  intro p s h
  obtain ⟨hrun, hanswers⟩ := run_withPolicy .strict h
  have hpolicy : (p.run ss).machine.policy = .permissive :=
    congrArg (fun d => d.machine.policy) (run_withPolicy .permissive h).1
  change s.run ss = _ at hrun
  refine ⟨hanswers, hrun, fun w hx ho => ?_⟩
  intro m m'
  have hm' : m' = { m with policy := .strict } := congrArg Console.machine hrun
  have hx' : m'.Executes w := by
    rw [hm']
    exact ⟨hx.running, hx.fetched, hx.word⟩
  have hstep := step_of_outside hx ho
  have hstep' := step_of_outside hx' ho
  rw [hpolicy] at hstep
  rw [hm'] at hstep' ⊢
  rw [hstep, hstep']
  refine ⟨?_, rfl, rfl, rfl⟩
  exact congrArg Except.ok hx.running

end Console

namespace Machine

open Table

/-- A machine in front of `A234`, with `5121` behind. -/
def straying : Machine where
  memory := holding [0xA2, 0x34, 0x51, 0x21]

/-- The machine in front of `5121`, which is not in the table. -/
def strayed : Machine where
  registers := { i := 0x234, pc := 0x202 }
  memory := holding [0xA2, 0x34, 0x51, 0x21]

theorem executes_straying : straying.Executes 0xA234 :=
  executes_of_holding [0xA2, 0x34, 0x51, 0x21] 0 (by rw [straying]) (by decide) rfl rfl (by decide)

theorem executes_strayed : strayed.Executes 0x5121 :=
  executes_of_holding [0xA2, 0x34, 0x51, 0x21] 2 (by rw [strayed]) (by decide) rfl rfl (by decide)

theorem step_straying : straying.step.1 = strayed := by
  have hx := executes_straying
  have hn : next straying (Table.word straying) = .ok strayed := by
    rw [hx.word]
    rfl
  exact (step_of_next hx.running hx.fetched hn).1

end Machine

namespace Console

open Machine Table

/-- A console in front of the two words. -/
def strayer : Console where
  machine := straying

/-- After one step that both policies share, the strict machine stops. -/
theorem strict_restricts_strayer :
    (∀ d ∈ (strayer.withPolicy .permissive).atSteps [.step], ∀ w, d.machine.Executes w →
      ¬ Outside w) ∧
    ((strayer.withPolicy .permissive).run [.step]).machine.Executes 0x5121 ∧ Outside 0x5121 ∧
    ((strayer.withPolicy .strict).run [.step]).machine.step.2.result =
      .error ⟨0x202, 0x5121, .unknownOpcode 0x5121⟩ := by
  have hinside : ∀ d ∈ (strayer.withPolicy .permissive).atSteps [.step],
      ∀ w, d.machine.Executes w → ¬ Outside w := by
    refine List.forall_mem_singleton.mpr fun w hx => ?_
    obtain rfl : 0xA234 = w := executes_straying.word.symm.trans hx.word
    decide
  have hm : ((strayer.withPolicy .permissive).run [.step]).machine = strayed :=
    ((strayer.withPolicy .permissive).machine_after_step).trans step_straying
  have hx : ((strayer.withPolicy .permissive).run [.step]).machine.Executes 0x5121 := by
    rw [hm]
    exact executes_strayed
  have ho : Outside 0x5121 := by decide
  obtain ⟨-, -, hstop⟩ := strict_restricts strayer [.step] hinside
  have hr := (hstop 0x5121 hx ho).2.2.1
  rw [hm] at hr
  exact ⟨hinside, hx, ho, hr⟩

end Console

end Chip8
