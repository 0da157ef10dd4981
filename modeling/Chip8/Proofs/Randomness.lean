/-
  File:      Chip8/Proofs/Randomness.lean
  Subject:   Randomness enters a run through `CXNN` alone, one word each.

  * `RandomSource.skip`, `RandomSource.Alike`: a source after some words, and two sources whose
    next words agree in their low bytes;
  * `Machine.DrawsByte`: the machine is about to execute `CXNN`; `Console.draws`: how often a run
    does;
  * `step_of_drawsByte`, `step_withRandom`: what a step takes from the source, and that the source
    shows nowhere else;
  * `run_withRandom`, `random_enters_by_draws`: so it is with whole runs.
-/
import Chip8.Proofs.Interference

namespace Chip8

namespace RandomSource

variable {s s' : RandomSource} {n k : Nat}

/-! ## 1. Sources -/

/-- The source once `n` more words are used up. -/
def skip (s : RandomSource) (n : Nat) : RandomSource := { s with taken := s.taken + n }

/-- The low bytes of the next `n` words of two sources agree. -/
def Alike (n : Nat) (s s' : RandomSource) : Prop :=
  ∀ k < n, (s.word (s.taken + k)).toNat % 256 = (s'.word (s'.taken + k)).toNat % 256

theorem skip_skip (s : RandomSource) (n k : Nat) : (s.skip n).skip k = s.skip (n + k) := by
  rw [skip, skip, skip, Nat.add_assoc]

theorem Alike.mono (h : Alike n s s') (hk : k ≤ n) : Alike k s s' :=
  fun j hj => h j (Nat.lt_of_lt_of_le hj hk)

theorem Alike.skip (h : Alike (n + k) s s') : Alike k (s.skip n) (s'.skip n) := by
  intro j hj
  have hn := h (n + j) (Nat.add_lt_add_left hj n)
  rw [← Nat.add_assoc, ← Nat.add_assoc] at hn
  exact hn

end RandomSource

namespace Machine

open Table Instruction

variable {m : Machine}

/-! ## 2. One step -/

/-- The machine is about to execute `CXNN`. -/
def DrawsByte (m : Machine) : Prop :=
  m.status = .running ∧ m.registers.pc.toNat ≤ 0xFFE ∧ word m / 4096 = 0xC

instance : DecidablePred DrawsByte := fun _ => inferInstanceAs (Decidable (_ ∧ _ ∧ _))

/-- How many words the next step takes from the source. -/
def takes (m : Machine) : Nat := if m.DrawsByte then 1 else 0

/-- The second machine is the first one with another source. -/
abbrev SameButRandom (s : RandomSource) : Machine → Machine → Prop :=
  Rewritten fun (_ : Unit) m => { m with random := s }

theorem twins_sameButRandom (s : RandomSource) : Twins (SameButRandom s) :=
  twins_rewritten (fun _ _ => ⟨rfl, rfl, rfl⟩) (fun _ _ _ => rfl) (fun _ _ _ => rfl) fun _ _ => rfl

/-- Of all devices only the source shows the source. -/
theorem shared_sameButRandom (s : RandomSource) {d : Device} (hd : d ≠ .random) :
    d.Shared (SameButRandom s) := by
  cases d with
  | random => exact absurd rfl hd
  | _ =>
    intro m m' h
    obtain ⟨_, rfl⟩ := h
    simp [Rewritten]

/-- Only `CXNN` uses the source. -/
theorem drawsByte_of_mem_devices (h : Device.random ∈ m.devices) : m.DrawsByte := by
  obtain ⟨w, hx, ins, hw, hi⟩ := spelled_of_mem_devices (by decide) h
  cases ins with
  | rand x mask =>
    obtain ⟨hlt, hword⟩ := hw
    have hmask := mask.toNat_lt
    refine ⟨hx.running, hx.fetched, ?_⟩
    rw [hx.word]
    omega
  | _ => simp [Instruction.devices] at hi

/-- `CXNN` takes one word, and its low byte goes to a register. -/
theorem step_of_drawsByte (h : m.DrawsByte) : ∃ m' : Machine,
    m' = { put m (word m / 256 % 16)
        ((m.random.word m.random.taken).toNat % 256 &&& word m % 256) with
      random := m.random.skip 1 } ∧
    m.step = (m', .cycled (m.eventOf m' (.ofNat (word m)) (decode (.ofNat (word m))))) := by
  obtain ⟨hs, hpc, hk⟩ := h
  have hn : next m (word m) = .ok { put m (word m / 256 % 16)
      ((m.random.word m.random.taken).toNat % 256 &&& word m % 256) with
      random := m.random.skip 1 } := by
    simp only [next, hk]
    rfl
  rcases step_of_running m hs hpc with ⟨m', hm', -, e⟩ | ⟨c, m', hc, -, -⟩
  · exact ⟨m', Except.ok.inj (hm'.symm.trans hn), e⟩
  · cases hn.symm.trans hc

/-- Every other step is the same with any source, and leaves it alone. -/
theorem step_of_not_drawsByte (h : ¬ m.DrawsByte) (s : RandomSource) :
    { m with random := s }.step = ({ m.step.1 with random := s }, m.step.2) := by
  have hd : ∀ d ∈ m.devices, d.Shared (SameButRandom s) := fun d hd =>
    shared_sameButRandom s fun e => h (drawsByte_of_mem_devices (e ▸ hd))
  obtain ⟨ho, _, hm⟩ := agree_step (twins_sameButRandom s) ⟨(), rfl⟩ hd
  exact Prod.ext hm ho.symm

/-- **With another source a machine makes the same step**, if that source yields the same byte
    where one is drawn. Both sources lose the word of that byte, and nothing else. -/
theorem step_withRandom (m : Machine) (s : RandomSource)
    (h : RandomSource.Alike m.takes m.random s) :
    { m with random := s }.step = ({ m.step.1 with random := s.skip m.takes }, m.step.2) ∧
      m.step.1.random = m.random.skip m.takes := by
  unfold takes at h ⊢
  by_cases hc : m.DrawsByte
  · have hc' : { m with random := s }.DrawsByte := hc
    rw [if_pos hc] at h ⊢
    obtain ⟨m₁, hm, e⟩ := step_of_drawsByte hc
    obtain ⟨m₂, hm', e'⟩ := step_of_drawsByte hc'
    have hbyte : (m.random.word m.random.taken).toNat % 256 = (s.word s.taken).toNat % 256 :=
      h 0 Nat.zero_lt_one
    rw [hbyte] at hm
    rw [e, e', hm, hm']
    exact ⟨rfl, rfl⟩
  · rw [if_neg hc]
    refine ⟨step_of_not_drawsByte hc s, ?_⟩
    have hself := step_of_not_drawsByte hc m.random
    change m.step = _ at hself
    rw [hself]
    rfl

end Machine

namespace Console

open Machine

variable {c : Console}

/-! ## 3. Runs -/

/-- The console with another source. -/
def withRandom (c : Console) (random : RandomSource) : Console := c.modifyMachine ({ · with random })

/-- How many `CXNN` a run executes. -/
def draws (c : Console) (ss : List Stimulus) : Nat :=
  (c.atSteps ss).countP fun d => d.machine.DrawsByte

theorem draws_append (c : Console) (ss ss' : List Stimulus) :
    c.draws (ss ++ ss') = c.draws ss + (c.run ss).draws ss' := by
  rw [draws, atSteps_append, List.countP_append]
  rfl

theorem draws_step (c : Console) : c.draws [.step] = c.machine.takes := by
  show List.countP _ [c] = _
  rw [List.countP_singleton, takes]
  simp

theorem draws_of_ne_step {s : Stimulus} (hs : s ≠ .step) : c.draws [s] = 0 := by
  rw [draws, atSteps_cons_of_ne hs]
  rfl

/-- With another source a stimulus does the same, if that source yields the same byte where one is
    drawn. -/
theorem perform_withRandom (r : RandomSource) (s : Stimulus)
    (h : RandomSource.Alike (c.draws [s]) c.machine.random r) :
    (c.withRandom r).perform s.operation =
        ((c.after s).withRandom (r.skip (c.draws [s])), (c.perform s.operation).2) ∧
      (c.after s).machine.random = c.machine.random.skip (c.draws [s]) := by
  by_cases hs : s = .step
  · subst hs
    rw [draws_step] at h ⊢
    obtain ⟨hstep, hrandom⟩ := step_withRandom c.machine r h
    refine ⟨?_, by rw [machine_after_step, hrandom]⟩
    have ho : c.machine.step.2 = (c.withRandom r).machine.step.2 := (congrArg Prod.snd hstep).symm
    have hm : (c.withRandom r).machine.step.1 =
        { c.step.1.machine with random := r.skip c.machine.takes } := by
      rw [machine_step]
      exact congrArg Prod.fst hstep
    have hrest : c.withRandom r = { c with machine := (c.withRandom r).machine } := rfl
    rw [perform_step, perform_step, after_step, step_eq_of_outcome hrest ho, hm]
    rfl
  · rw [draws_of_ne_step hs]
    refine ⟨perform_rewritten (fun _ _ => rfl) (fun _ _ => rfl) hs c, ?_⟩
    obtain ⟨keypad, timers, e⟩ := c.after_of_ne_step hs
    rw [e]
    rfl

/-- **With another source a run is the same**, if that source yields the same bytes as long as some
    are drawn. Both sources lose the words of these, and nothing else. -/
theorem run_withRandom (r : RandomSource) (ss : List Stimulus)
    (h : RandomSource.Alike (c.draws ss) c.machine.random r) :
    (c.withRandom r).answers ss = c.answers ss ∧
      (c.withRandom r).run ss = (c.run ss).withRandom (r.skip (c.draws ss)) ∧
      (c.run ss).machine.random = c.machine.random.skip (c.draws ss) := by
  induction ss generalizing c r with
  | nil => exact ⟨rfl, rfl, rfl⟩
  | cons s ss ih =>
    rw [← List.singleton_append, draws_append] at h ⊢
    obtain ⟨hp, hrandom⟩ := perform_withRandom r s (h.mono (Nat.le_add_right _ _))
    have hlater : RandomSource.Alike ((c.after s).draws ss) (c.after s).machine.random
        (r.skip (c.draws [s])) := by
      rw [hrandom]
      exact h.skip
    obtain ⟨hanswers, hrun, hend⟩ := ih _ hlater
    rw [hrandom, RandomSource.skip_skip] at hend
    rw [RandomSource.skip_skip] at hrun
    rw [List.singleton_append, answers_cons, answers_cons, run, run, after, hp, hanswers, hrun]
    exact ⟨rfl, rfl, hend⟩

/-- **Randomness enters a run through `CXNN` alone**, which takes one word and uses its low byte. If
    the next words of two sources agree in their low bytes, as many as the run with the first source
    executes `CXNN`, then the runs answer the same all along and leave the same but for the source,
    and each source has lost one word for each `CXNN`. Any other step takes none. -/
theorem random_enters_by_draws (c : Console) (s s' : RandomSource) (ss : List Stimulus) :
    let a := c.withRandom s
    let b := c.withRandom s'
    (RandomSource.Alike (a.draws ss) s s' → ∀ pre, pre <+: ss →
      b.answers pre = a.answers pre ∧
      b.run pre = (a.run pre).withRandom (s'.skip (a.draws pre)) ∧
      (a.run pre).machine.random = s.skip (a.draws pre)) ∧
    ∀ d ∈ a.atSteps ss,
      d.machine.step.1.random = d.machine.random.skip (if d.machine.DrawsByte then 1 else 0) ∧
      (d.machine.DrawsByte → d.machine.step.2.result = .ok .running) := by
  intro a b
  refine ⟨fun h pre hpre => ?_, fun d _ => ⟨?_, fun hd => ?_⟩⟩
  · obtain ⟨behind, rfl⟩ := hpre
    rw [draws_append] at h
    exact run_withRandom (c := a) s' pre (h.mono (Nat.le_add_right _ _))
  · exact (step_withRandom d.machine d.machine.random fun _ _ => rfl).2
  · obtain ⟨m', hm', e⟩ := step_of_drawsByte hd
    have hs : m'.status = .running := by
      rw [hm']
      exact hd.1
    rw [e]
    exact congrArg Except.ok hs

end Console

namespace Machine

open Table

/-- A machine in front of `C0FF`. -/
def drawing : Machine where
  memory := opening 0xC0 0xFF

theorem drawsByte_drawing (s : RandomSource) : { drawing with random := s }.DrawsByte := by
  have hw : word { drawing with random := s } = 0xC0FF := by
    rw [word_of_opening (m := { drawing with random := s }) rfl rfl]
    rfl
  have hpc : drawing.registers.pc.toNat ≤ 0xFFE := by decide
  exact ⟨rfl, hpc, by rw [hw]⟩

end Machine

namespace Console

open Machine

/-- A console in front of the draw. -/
def drawer : Console where
  machine := drawing

/-- Two sources, one of them at its eighth word, yield the same byte. -/
theorem random_enters_drawer :
    let s : RandomSource := { word := fun _ => 0x1AA }
    let s' : RandomSource := { word := fun k => if k = 7 then 0x2AA else 0, taken := 7 }
    RandomSource.Alike ((drawer.withRandom s).draws [.step]) s s' ∧
    (drawer.withRandom s').run [.step] = ((drawer.withRandom s).run [.step]).withRandom (s'.skip 1) ∧
    (drawer.withRandom s).machine.DrawsByte ∧
    (drawer.withRandom s).machine.step.2.result = .ok .running := by
  intro s s'
  have hd : (drawer.withRandom s).machine.DrawsByte := drawsByte_drawing s
  have hone : (drawer.withRandom s).draws [.step] = 1 := by rw [draws_step, takes, if_pos hd]
  have halike : RandomSource.Alike ((drawer.withRandom s).draws [.step]) s s' := by
    rw [hone]
    intro k hk
    obtain rfl := Nat.lt_one_iff.mp hk
    show (0x1AA : UInt32).toNat % 256 = (if 7 = 7 then 0x2AA else 0 : UInt32).toNat % 256
    decide
  obtain ⟨hrun, hsteps⟩ := random_enters_by_draws drawer s s' [.step]
  obtain ⟨-, he, -⟩ := hrun halike [.step] (List.prefix_refl _)
  rw [hone] at he
  exact ⟨halike, he, hd, (hsteps _ (.head _)).2 hd⟩

end Console

end Chip8
