/-
  File:      Chip8/Proofs/Cadence.lean
  Subject:   Frames are steps with a tick after every so many of them.

  * `Stimulus.paced`: a number of steps with a tick after every `k`-th; `count_step_paced`,
    `count_tick_paced`: how many of each;
  * `Console.attempt`: a run that ends early when a step is interrupted;
  * `runFrames_eq_attempt`: frames of a machine that is not halted are such a run;
  * `runFrames_add`: frames can be split anywhere;
  * `runFrames_paced`: where a series of frames ends, and with which steps and ticks.
-/
import Chip8.Proofs.Stimuli

namespace Chip8

namespace Stimulus

/-! ## 1. Steps and ticks -/

/-- So many steps, with a tick after every `k`-th. -/
def paced (k : Nat) : Nat → List Stimulus
  | 0 => []
  | n + 1 => paced k n ++ .step :: if (n + 1) % k = 0 then [.tick] else []

theorem count_step_paced (k n : Nat) : (paced k n).count .step = n := by
  induction n with
  | zero => rfl
  | succ n ih =>
    rw [paced, List.count_append, List.count_cons_self, ih]
    split
    · rfl
    · rfl

theorem count_tick_paced (k n : Nat) : (paced k n).count .tick = n / k := by
  induction n with
  | zero => rw [Nat.zero_div]; rfl
  | succ n ih =>
    rw [paced, List.count_append, List.count_cons_of_ne (by decide), ih, Nat.succ_div]
    by_cases h : (n + 1) % k = 0
    · rw [if_pos h, if_pos (Nat.dvd_of_mod_eq_zero h)]
      rfl
    · rw [if_neg h, if_neg (mt Nat.mod_eq_zero_of_dvd h)]
      rfl

/-- Before the first tick there are only steps. -/
theorem paced_of_lt {k n : Nat} (h : n < k) : paced k n = List.replicate n .step := by
  induction n with
  | zero => rfl
  | succ n ih =>
    have hmod : (n + 1) % k ≠ 0 := by
      rw [Nat.mod_eq_of_lt h]
      exact Nat.succ_ne_zero n
    rw [paced, ih (Nat.lt_of_succ_lt h), if_neg hmod, List.replicate_succ']

/-- After one frame it starts over. -/
theorem paced_add {k : Nat} (hk : 1 ≤ k) (n : Nat) :
    paced k (k + n) = List.replicate k .step ++ .tick :: paced k n := by
  induction n with
  | zero =>
    obtain ⟨j, rfl⟩ := Nat.exists_eq_add_of_le' hk
    show paced (j + 1) j ++ .step :: (if (j + 1) % (j + 1) = 0 then [.tick] else []) =
      List.replicate (j + 1) .step ++ [.tick]
    rw [paced_of_lt (Nat.lt_add_one j), Nat.mod_self, if_pos rfl, List.replicate_succ',
      List.append_assoc]
    rfl
  | succ n ih =>
    rw [← Nat.add_assoc, paced, ih, paced, Nat.add_assoc, Nat.add_mod_left, List.append_assoc]
    rfl

/-- Each step has its place in a longer series. -/
theorem exists_paced {k n j : Nat} (h : j < n) :
    ∃ behind, paced k n = paced k j ++ .step :: behind := by
  induction n with
  | zero => cases h
  | succ n ih =>
    rcases Nat.lt_succ_iff_lt_or_eq.mp h with hlt | rfl
    · obtain ⟨behind, e⟩ := ih hlt
      rw [paced, e, List.append_assoc]
      exact ⟨_, rfl⟩
    · exact ⟨_, rfl⟩

end Stimulus

namespace Console

open Machine Stimulus

variable {c d : Console}

/-! ## 2. Runs that end early -/

/-- A run that ends with the first step that is interrupted: the status at the end, or what
    interrupted it. -/
def attempt (c : Console) : List Stimulus → Console × Except Interruption Status
  | [] => (c, .ok c.machine.status)
  | .step :: ss =>
      match c.step with
      | (c, .ok _) => c.attempt ss
      | (c, .error e) => (c, .error e)
  | s :: ss => (c.after s).attempt ss

/-- No step of the run is interrupted. -/
def Smooth (c : Console) (ss : List Stimulus) : Prop :=
  ∀ d ∈ c.atSteps ss, ∀ e, d.step.2 ≠ .error e

theorem attempt_cons_of_ne {s : Stimulus} (h : s ≠ .step) (c : Console) (ss : List Stimulus) :
    c.attempt (s :: ss) = (c.after s).attempt ss := by
  cases s with
  | step => exact absurd rfl h
  | _ => rfl

theorem attempt_append (c : Console) (ss ss' : List Stimulus) :
    c.attempt (ss ++ ss') = match c.attempt ss with
      | (d, .ok _) => d.attempt ss'
      | (d, .error e) => (d, .error e) := by
  induction ss generalizing c with
  | nil => rfl
  | cons s ss ih =>
    cases s with
    | step =>
      rw [List.cons_append, attempt, attempt]
      rcases c.step with ⟨d, e | s⟩
      · rfl
      · exact ih d
    | _ => exact ih _

/-- A run that is never interrupted is not ended early. -/
theorem attempt_of_smooth {ss : List Stimulus} (h : c.Smooth ss) :
    c.attempt ss = (c.run ss, .ok (c.run ss).machine.status) := by
  induction ss generalizing c with
  | nil => rfl
  | cons s ss ih =>
    cases s with
    | step =>
      obtain ⟨hnow, hlater⟩ := List.forall_mem_cons.mp h
      rw [attempt, run]
      rw [after_step] at hlater ⊢
      rcases hs : c.step with ⟨d, e | s⟩
      · rw [hs] at hnow
        exact absurd rfl (hnow e)
      · rw [hs] at hlater
        exact ih hlater
    | _ => exact ih h

/-- A run that is interrupted ends there. -/
theorem attempt_of_error {ss ss' : List Stimulus} {e : Interruption} (h : c.Smooth ss)
    (he : (c.run ss).step.2 = .error e) :
    c.attempt (ss ++ .step :: ss') = (c.run (ss ++ [.step]), .error e) := by
  rw [attempt_append, attempt_of_smooth h, run_concat, after_step]
  dsimp only
  rw [attempt]
  rcases hs : (c.run ss).step with ⟨d, e' | s⟩
  · rw [hs] at he
    cases he
    rfl
  · rw [hs] at he
    cases he

/-- Before a step that is interrupted no other one has faulted, because a fault halts the
    machine. -/
theorem smooth_of_error {ss : List Stimulus} {e : Interruption}
    (h : ∀ d ∈ c.atSteps ss, d.step.2 ≠ .error .observerFailed)
    (he : (c.run ss).step.2 = .error e) : c.Smooth ss := by
  induction ss generalizing c with
  | nil => exact List.forall_mem_nil _
  | cons s ss ih =>
    by_cases hs : s = .step
    · subst hs
      obtain ⟨hnow, hlater⟩ := List.forall_mem_cons.mp h
      refine List.forall_mem_cons.mpr ⟨fun e' hf => ?_, ih hlater he⟩
      cases e' with
      | observerFailed => exact hnow hf
      | fault f =>
        have hh := status_step_of_fault _ f ((step_fault_iff_machine c f).mp hf)
        rw [← machine_after_step] at hh
        rw [run, step_of_halted _ (halted_run hh ss)] at he
        cases he
    · rw [Smooth, atSteps_cons_of_ne hs]
      rw [atSteps_cons_of_ne hs] at h
      exact ih h he

/-! ## 3. Frames of a machine that is not halted -/

/-- No step halts the machine, unless it is interrupted. -/
theorem ne_halted_of_step (h : c.machine.status ≠ .halted) {s : Status}
    (hs : c.step = (d, .ok s)) : s ≠ .halted := by
  have hr := result_of_step (congrArg Prod.snd hs)
  cases hm : c.machine.status with
  | halted => exact absurd hm h
  | waitingForKey r =>
    have hstep : c.machine.step = c.machine.poll r := by rw [Machine.step, hm]
    rw [hstep] at hr
    obtain ⟨baseline, ⟨-, e⟩ | ⟨key, -, _, e⟩ | ⟨-, f, e⟩⟩ := c.machine.poll_cases r
    · rw [e] at hr
      cases hr
      exact Status.noConfusion
    · rw [e] at hr
      cases hr
      exact Status.noConfusion
    · rw [e] at hr
      cases hr
  | running =>
    rw [← status_of_result hr]
    rcases status_step_of_running hm with e | ⟨f, e⟩ | ⟨r, -, e⟩
    · rw [e]
      exact Status.noConfusion
    · cases hr.symm.trans e
    · rw [e]
      exact Status.noConfusion

theorem ne_halted_of_attempt (h : c.machine.status ≠ .halted) {ss : List Stimulus} {s : Status}
    (hs : c.attempt ss = (d, .ok s)) : d.machine.status ≠ .halted := by
  induction ss generalizing c with
  | nil =>
    cases hs
    exact h
  | cons t ss ih =>
    by_cases ht : t = .step
    · subst ht
      rw [attempt] at hs
      rcases he : c.step with ⟨c', e | s'⟩
      · rw [he] at hs
        cases hs
      · rw [he] at hs
        exact ih ((status_of_step he).trans_ne (ne_halted_of_step h he)) hs
    · rw [attempt_cons_of_ne ht] at hs
      obtain ⟨keypad, timers, e⟩ := c.after_of_ne_step ht
      refine ih ?_ hs
      rw [e]
      exact h

/-- The steps of one frame. -/
theorem frameSteps_eq_attempt (h : c.machine.status ≠ .halted) (n : Nat) :
    c.frameSteps n = match c.attempt (List.replicate n .step) with
      | (d, .ok _) => (d, none)
      | (d, .error e) => (d, some (.error e)) := by
  induction n generalizing c with
  | zero => rfl
  | succ n ih =>
    rw [frameSteps, List.replicate_succ, attempt]
    rcases he : c.step with ⟨c', e | s⟩
    · rfl
    · have hs := ne_halted_of_step h he
      have hrest := ih ((status_of_step he).trans_ne hs)
      cases s with
      | halted => exact absurd rfl hs
      | _ => exact hrest

/-- **Frames of a machine that is not halted are steps**, with a tick after each frame, up to the
    first that is interrupted. -/
theorem runFrames_eq_attempt (h : c.machine.status ≠ .halted) {k : Nat} (hk : 1 ≤ k) (f : Nat) :
    c.runFrames k f = c.attempt (paced k (f * k)) := by
  induction f generalizing c with
  | zero => rw [Nat.zero_mul]; rfl
  | succ f ih =>
    rw [Nat.succ_mul, Nat.add_comm (f * k), paced_add hk, attempt_append, runFrames,
      frameSteps_eq_attempt h]
    rcases he : c.attempt (List.replicate k .step) with ⟨d, e | s⟩
    · rfl
    · have hd := ne_halted_of_attempt h he
      exact ih (c := d.tick) hd

/-! ## 4. Frames that are split -/

/-- A frame that ends all frames without an interruption has found the machine halted. -/
theorem halted_of_frameSteps {n : Nat} {s : Status} (h : c.frameSteps n = (d, some (.ok s))) :
    1 ≤ n ∧ s = .halted ∧ d.machine.status = .halted := by
  induction n generalizing c with
  | zero => cases h
  | succ n ih =>
    refine ⟨Nat.succ_pos n, ?_⟩
    rw [frameSteps] at h
    rcases he : c.step with ⟨c', e | s'⟩
    · rw [he] at h
      cases h
    · rw [he] at h
      cases s' with
      | halted =>
        cases h
        exact ⟨rfl, status_of_step he⟩
      | _ => exact (ih h).2

/-- **Frames can be split anywhere**, unless the first part is interrupted. -/
theorem runFrames_add (c : Console) (k f₁ f₂ : Nat) :
    c.runFrames k (f₁ + f₂) = match c.runFrames k f₁ with
      | (d, .ok _) => d.runFrames k f₂
      | (d, .error e) => (d, .error e) := by
  induction f₁ generalizing c with
  | zero => rw [Nat.zero_add]; rfl
  | succ f₁ ih =>
    rw [Nat.succ_add, runFrames, runFrames]
    rcases hs : c.frameSteps k with ⟨d, _ | e | s⟩
    · exact ih d.tick
    · rfl
    · obtain ⟨hk, rfl, hd⟩ := halted_of_frameSteps hs
      cases f₂ with
      | zero =>
        show _ = (d, Except.ok d.machine.status)
        rw [hd]
      | succ f₂ => exact (runFrames_of_halted hd hk (Nat.succ_pos f₂)).symm

/-! ## 5. Together -/

/-- **Frames split and count.** A series of frames is what its two parts are one after the other,
    and a first part that is interrupted is the whole. Frames of a machine that is not halted are
    steps with a tick after every `k`-th. If no step is interrupted, all are made and the result is
    the status at the end. If the `j + 1`-st is the first, then the series ends right behind it,
    after `j / k` ticks, and its frame is left without one. -/
theorem runFrames_paced (c : Console) (k : Nat) :
    (∀ f₁ f₂, c.runFrames k (f₁ + f₂) = match c.runFrames k f₁ with
      | (d, .ok _) => d.runFrames k f₂
      | (d, .error e) => (d, .error e)) ∧
    (c.machine.status ≠ .halted → 1 ≤ k → ∀ f,
      (c.Smooth (paced k (f * k)) →
        c.runFrames k f =
          (c.run (paced k (f * k)), .ok (c.run (paced k (f * k))).machine.status)) ∧
      (paced k (f * k)).count .step = f * k ∧ (paced k (f * k)).count .tick = f ∧
      ∀ j < f * k, (∀ d ∈ c.atSteps (paced k j), d.step.2 ≠ .error .observerFailed) →
        ∀ e, (c.run (paced k j)).step.2 = .error e →
          c.runFrames k f = (c.run (paced k j ++ [.step]), .error e)) ∧
    ∀ j, (paced k j ++ [Stimulus.step]).count .step = j + 1 ∧
      (paced k j ++ [Stimulus.step]).count .tick = j / k := by
  refine ⟨c.runFrames_add k, fun h hk f => ?_, fun j => ?_⟩
  · rw [runFrames_eq_attempt h hk]
    refine ⟨attempt_of_smooth, count_step_paced k _, ?_, fun j hj hq e he => ?_⟩
    · rw [count_tick_paced, Nat.mul_div_cancel f hk]
    · obtain ⟨behind, hb⟩ := exists_paced (k := k) hj
      rw [hb]
      exact attempt_of_error (smooth_of_error hq he) he
  · rw [List.count_append, List.count_append, count_step_paced, count_tick_paced]
    exact ⟨rfl, rfl⟩

end Console

namespace Machine

open Table

/-- A machine in front of `1FFF`, a jump to the last cell, with the delay timer at 5. -/
def leaping : Machine where
  memory := opening 0x1F 0xFF
  timers := { delay := 5 }

theorem word_leaping : word leaping = 0x1FFF := by
  rw [word_of_opening (m := leaping) rfl rfl]
  rfl

theorem step_leaping : leaping.step.1 = goTo leaping 0xFFF ∧
    leaping.step.2.result = .ok .running := by
  have hn : next leaping (word leaping) = .ok (goTo leaping 0xFFF) := by
    rw [word_leaping]
    rfl
  exact step_of_next rfl (by decide) hn

end Machine

namespace Console

open Machine Stimulus

/-- A console in front of the jump. -/
def leaper : Console where
  machine := leaping

/-- The second frame faults at once. The timers have ticked in the first one only. -/
theorem runFrames_leaper : leaper.machine.status ≠ .halted ∧ leaper.Smooth [.step, .tick] ∧
    leaper.runFrames 1 1 =
      (leaper.run [.step, .tick], .ok (leaper.run [.step, .tick]).machine.status) ∧
    (leaper.run [.step, .tick]).step.2 = .error (.fault ⟨0xFFF, 0, .outOfBounds 0x1000⟩) ∧
    leaper.runFrames 1 2 = (leaper.run [.step, .tick, .step],
      .error (.fault ⟨0xFFF, 0, .outOfBounds 0x1000⟩)) := by
  obtain ⟨hm, hr⟩ := step_leaping
  have hne : leaper.machine.status ≠ .halted := Status.noConfusion
  have hs : leaper.step.2 = .ok .running := by
    have ha := congrArg Prod.snd (step_of_absent (c := leaper) rfl)
    dsimp only [leaper] at ha
    rw [hr] at ha
    exact ha
  have hsmooth : leaper.Smooth [.step, .tick] := by
    refine List.forall_mem_singleton.mpr fun e he => ?_
    cases hs.symm.trans he
  have hend : (leaper.run [.step, .tick]).machine = (Table.goTo leaping 0xFFF).tick := by
    show (leaper.after .step).machine.tick = _
    rw [machine_after_step]
    exact congrArg Machine.tick hm
  have hfault : (leaper.run [.step, .tick]).step.2 =
      .error (.fault ⟨0xFFF, 0, .outOfBounds 0x1000⟩) := by
    rw [step_fault_iff_machine, hend, step_of_out _ rfl (by decide)]
    rfl
  obtain ⟨-, hpaced, -⟩ := runFrames_paced leaper 1
  have hone := (hpaced hne (Nat.le_refl 1) 1).1 hsmooth
  have htwo := (hpaced hne (Nat.le_refl 1) 2).2.2.2 1 (by decide)
    (fun d hd => hsmooth d hd _) _ hfault
  exact ⟨hne, hsmooth, hone, hfault, htwo⟩

end Console

end Chip8
