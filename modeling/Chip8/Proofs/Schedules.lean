/-
  File:      Chip8/Proofs/Schedules.lean
  Subject:   What the operations on a console do to its machine, and where their steps start.

  * `machine_step`, `step_fault_iff_machine`, `result_of_step`, `step_of_absent`, `step_of_halted`:
    a step of the console is a step of its machine;
  * `machine_loadProgram`, `machine_setRegister`, `machine_setKey`: what the operations that can be
    refused replace;
  * `Console.Stable`: a property that steps and ticks keep; then whole runs keep it
    (`Stable.steps`, `Stable.runFrames`);
  * `Console.starts`: the consoles at which an operation makes a step; they have every stable
    property of the console before (`Stable.starts`);
  * `performAll_keeps`: what every operation keeps is kept by a schedule.
-/
import Chip8.Operation

namespace Chip8

namespace Console

/-! ## 1. One step -/

theorem machine_notify (c : Console) (event : CycleEvent) :
    (c.notify event).1.machine = c.machine := by
  unfold notify
  split <;> rfl

theorem notify_ne_fault (c : Console) (event : CycleEvent) (f : Fault) :
    (c.notify event).2 ≠ .error (.fault f) := by
  unfold notify
  intro h
  split at h
  case h_4 => split at h <;> cases h
  all_goals cases h

/-- **A step of a console is a step of its machine.** -/
theorem machine_step (c : Console) : c.step.1.machine = c.machine.step.1 := by
  unfold step
  rcases c.machine.step with ⟨m, o⟩
  cases o with
  | cycled event =>
    have h := machine_notify ({ c with machine := m }.report (Outcome.cycled event).notes) event
    simp only
    generalize ({ c with machine := m }.report (Outcome.cycled event).notes).notify event = p at h ⊢
    rcases p with ⟨d, _ | _⟩
    · exact h
    · exact h
  | _ => rfl

/-- It faults exactly if the machine does. -/
theorem step_fault_iff_machine (c : Console) (f : Fault) :
    c.step.2 = .error (.fault f) ↔ c.machine.step.2.result = .error f := by
  unfold step
  rcases c.machine.step with ⟨m, o⟩
  cases o with
  | cycled event =>
    have h := notify_ne_fault ({ c with machine := m }.report (Outcome.cycled event).notes) event f
    simp only
    generalize ({ c with machine := m }.report (Outcome.cycled event).notes).notify event = p at h ⊢
    rcases p with ⟨d, e | _⟩
    · refine iff_of_false (fun hf => h ?_) fun hf => by cases hf
      cases hf
      rfl
    · constructor <;> (intro hf; cases hf)
  | idle => constructor <;> (intro hf; cases hf)
  | polled r key => cases key <;> constructor <;> (intro hf; cases hf)
  | faulted fault =>
    show Except.error (Interruption.fault fault) = _ ↔ Except.error fault = _
    rw [Except.error.injEq, Except.error.injEq, Interruption.fault.injEq]

/-- If nothing interrupts it, it answers what the machine answers. -/
theorem result_of_step {c : Console} {s : Status} :
    c.step.2 = .ok s → c.machine.step.2.result = .ok s := by
  unfold step
  rcases c.machine.step with ⟨m, o⟩
  cases o with
  | cycled event =>
    simp only
    generalize ({ c with machine := m }.report (Outcome.cycled event).notes).notify event = p
    rcases p with ⟨d, e | _⟩
    · intro h
      cases h
    · intro h
      cases h
      rfl
  | polled r key => cases key <;> (intro h; cases h; rfl)
  | idle =>
    intro h
    cases h
    rfl
  | faulted fault =>
    intro h
    cases h

/-- Where nobody observes, it reports what the machine tells and answers what the machine answers. -/
theorem step_of_absent {c : Console} (h : c.observer = .absent) :
    c.step = ({ c with machine := c.machine.step.1 }.report c.machine.step.2.notes,
      c.machine.step.2.result.mapError .fault) := by
  obtain ⟨machine, pace, observer, journal, recorded⟩ := c
  obtain rfl : observer = .absent := h
  unfold step
  dsimp only
  rcases machine.step with ⟨m, o⟩
  cases o with
  | cycled event => rfl
  | _ => rfl

/-- A halted machine makes no step at all, and nobody is told. -/
theorem step_of_halted (c : Console) (h : c.machine.status = .halted) :
    c.step = (c, .ok .halted) := by
  rw [step, Machine.step, h]
  show ({ c with journal := c.journal ++ [] }, _) = (c, _)
  rw [Array.appendList_nil]
  rfl

/-! ## 2. Other operations that can be refused -/

/-- Loading a program replaces memory, or nothing. -/
theorem machine_loadProgram (c : Console) (program : List Byte) :
    ∃ memory, (c.loadProgram program).1.machine = { c.machine with memory } := by
  unfold loadProgram
  split
  next m hm =>
    unfold Machine.loadProgram at hm
    split at hm
    · cases hm
    · split at hm
      next memory _ => exact ⟨memory, (Except.ok.inj hm).symm⟩
      next => cases hm
  next => exact ⟨c.machine.memory, rfl⟩

theorem machine_setRegister (c : Console) (r : Reg) (b : Byte) :
    ∃ v, (c.setRegister r b).1.machine =
      { c.machine with registers := { c.machine.registers with v } } := by
  unfold setRegister
  by_cases hr : r.toNat < registerCount
  · rw [Registers.set_of_lt _ _ hr]
    exact ⟨_, rfl⟩
  · rw [Registers.set_of_le _ _ (Nat.le_of_not_lt hr)]
    exact ⟨c.machine.registers.v, rfl⟩

theorem machine_setKey (c : Console) (key : Byte) (down : Bool) :
    ∃ keypad, (c.setKey key down).1.machine = { c.machine with keypad } := by
  unfold setKey
  split
  next keypad _ => exact ⟨keypad, rfl⟩
  next => exact ⟨c.machine.keypad, rfl⟩

/-! ## 3. Runs -/

/-- A property of consoles that steps and ticks keep. -/
structure Stable (P : Console → Prop) : Prop where
  step : ∀ c, P c → P c.step.1
  tick : ∀ c, P c → P c.tick

namespace Stable

variable {P : Console → Prop}

theorem steps (hP : Stable P) (n : Nat) (c : Console) (h : P c) : P (c.steps n).1 := by
  induction n generalizing c with
  | zero => exact h
  | succ n ih =>
    have hs := hP.step c h
    rw [Console.steps]
    generalize c.step = p at hs ⊢
    rcases p with ⟨d, _ | s⟩
    · exact hs
    · exact ih d hs

theorem ticks (hP : Stable P) (n : Nat) (c : Console) (h : P c) : P (c.ticks n) := by
  induction n generalizing c with
  | zero => exact h
  | succ n ih => exact ih c.tick (hP.tick c h)

theorem frameSteps (hP : Stable P) (n : Nat) (c : Console) (h : P c) :
    P (c.frameSteps n).1 := by
  induction n generalizing c with
  | zero => exact h
  | succ n ih =>
    have hs := hP.step c h
    rw [Console.frameSteps]
    generalize c.step = p at hs ⊢
    rcases p with ⟨d, _ | s⟩
    · exact hs
    · cases s with
      | halted => exact hs
      | _ => exact ih d hs

theorem runFrames (hP : Stable P) (cycles frames : Nat) (c : Console) (h : P c) :
    P (c.runFrames cycles frames).1 := by
  induction frames generalizing c with
  | zero => exact h
  | succ n ih =>
    have hf := hP.frameSteps cycles c h
    rw [Console.runFrames]
    generalize c.frameSteps cycles = p at hf ⊢
    rcases p with ⟨d, _ | r⟩
    · exact ih d.tick (hP.tick d hf)
    · exact hf

end Stable

/-! ## 4. Where steps start -/

/-- The consoles at which the steps of `steps` start. -/
def stepsStarts (c : Console) : Nat → List Console
  | 0 => []
  | n + 1 => c :: match c.step with
      | (d, .ok _) => d.stepsStarts n
      | (_, .error _) => []

/-- The consoles at which the steps of one frame start. -/
def frameStarts (c : Console) : Nat → List Console
  | 0 => []
  | n + 1 => c :: match c.step with
      | (_, .ok .halted) => []
      | (d, .ok _) => d.frameStarts n
      | (_, .error _) => []

/-- The consoles at which the steps of several frames start. -/
def framesStarts (c : Console) (cycles : Nat) : Nat → List Console
  | 0 => []
  | n + 1 => c.frameStarts cycles ++ match c.frameSteps cycles with
      | (d, none) => d.tick.framesStarts cycles n
      | (_, some _) => []

/-- The consoles at which an operation makes a step. -/
def starts (c : Console) : Operation → List Console
  | .step times => c.stepsStarts times
  | .runFrames frames cycles => c.framesStarts (cycles.getD c.pace.cyclesPerFrame) frames
  | _ => []

namespace Stable

variable {P : Console → Prop}

theorem stepsStarts (hP : Stable P) (n : Nat) (c : Console) (h : P c) :
    ∀ d ∈ c.stepsStarts n, P d := by
  induction n generalizing c with
  | zero => exact List.forall_mem_nil P
  | succ n ih =>
    have hs := hP.step c h
    rw [Console.stepsStarts, List.forall_mem_cons]
    refine ⟨h, ?_⟩
    generalize c.step = p at hs ⊢
    rcases p with ⟨d, _ | s⟩
    · exact List.forall_mem_nil P
    · exact ih d hs

theorem frameStarts (hP : Stable P) (n : Nat) (c : Console) (h : P c) :
    ∀ d ∈ c.frameStarts n, P d := by
  induction n generalizing c with
  | zero => exact List.forall_mem_nil P
  | succ n ih =>
    have hs := hP.step c h
    rw [Console.frameStarts, List.forall_mem_cons]
    refine ⟨h, ?_⟩
    generalize c.step = p at hs ⊢
    rcases p with ⟨d, _ | s⟩
    · exact List.forall_mem_nil P
    · cases s with
      | halted => exact List.forall_mem_nil P
      | _ => exact ih d hs

theorem framesStarts (hP : Stable P) (cycles frames : Nat) (c : Console) (h : P c) :
    ∀ d ∈ c.framesStarts cycles frames, P d := by
  induction frames generalizing c with
  | zero => exact List.forall_mem_nil P
  | succ n ih =>
    have hf := hP.frameSteps cycles c h
    rw [Console.framesStarts, List.forall_mem_append]
    refine ⟨hP.frameStarts cycles c h, ?_⟩
    generalize c.frameSteps cycles = p at hf ⊢
    rcases p with ⟨d, _ | r⟩
    · exact ih d.tick (hP.tick d hf)
    · exact List.forall_mem_nil P

/-- **All steps of an operation start where a stable property still holds.** -/
theorem starts (hP : Stable P) (o : Operation) (c : Console) (h : P c) :
    ∀ d ∈ c.starts o, P d := by
  cases o with
  | step times => exact hP.stepsStarts times c h
  | runFrames frames cycles => exact hP.framesStarts _ frames c h
  | _ => exact List.forall_mem_nil P

end Stable

/-! ## 5. Schedules -/

/-- What the operations of a schedule keep, the schedule keeps. -/
theorem performAll_keeps {P : Console → Prop} (os : List Operation)
    (hP : ∀ o ∈ os, ∀ c, P c → P (c.perform o).1) (c : Console) (h : P c) :
    P (c.performAll os).1 := by
  induction os generalizing c with
  | nil => exact h
  | cons o os ih =>
    rw [List.forall_mem_cons] at hP
    exact ih hP.2 (c.perform o).1 (hP.1 c h)

end Console

end Chip8
