/-
  File:      Chip8/Proofs/Stimuli.lean
  Subject:   Runs of a machine at work: steps, and what happens to it in between.

  * `Stimulus`: a step, a tick of the clock, or something at the keys; each is an operation;
  * `Console.after`, `Console.run`: the console after one stimulus, and after a list of them;
  * `Console.atSteps`: the consoles at which the steps of a run are made, in order;
  * `halted_run`: a halted machine stays halted;
  * `after_of_ne_step`: between two steps only the keys and the timers change;
  * `Console.answers`: what the stimuli of a run answer, in order.
-/
import Chip8.Proofs.Lifecycle

namespace Chip8

/-! ## 1. Stimuli -/

/-- What happens to a machine at work from one moment to the next. -/
inductive Stimulus where
  | step
  | tick
  | key (key : Byte) (down : Bool)
  | releaseAll
  deriving DecidableEq, Repr

/-- The operation that a stimulus is. -/
def Stimulus.operation : Stimulus → Operation
  | step => .step 1
  | tick => .tick 1
  | key k down => .key k down
  | releaseAll => .releaseAll

namespace Console

/-! ## 2. Runs -/

/-- The console after one stimulus. -/
def after (c : Console) (s : Stimulus) : Console := (c.perform s.operation).1

/-- The console after a run. -/
def run (c : Console) : List Stimulus → Console
  | [] => c
  | s :: ss => (c.after s).run ss

/-- The consoles at which the steps of a run are made, in order. -/
def atSteps (c : Console) : List Stimulus → List Console
  | [] => []
  | .step :: ss => c :: (c.after .step).atSteps ss
  | s :: ss => (c.after s).atSteps ss

/-- A run is a schedule of its operations. -/
theorem run_eq_performAll (c : Console) (ss : List Stimulus) :
    c.run ss = (c.performAll (ss.map Stimulus.operation)).1 := by
  induction ss generalizing c with
  | nil => rfl
  | cons s ss ih => exact ih (c.after s)

theorem run_append (c : Console) (ss ss' : List Stimulus) :
    c.run (ss ++ ss') = (c.run ss).run ss' := by
  induction ss generalizing c with
  | nil => rfl
  | cons s ss ih => exact ih (c.after s)

theorem run_concat (c : Console) (ss : List Stimulus) (s : Stimulus) :
    c.run (ss ++ [s]) = (c.run ss).after s := run_append c ss [s]

theorem after_step (c : Console) : c.after .step = c.step.1 := step_one c

theorem machine_after_step (c : Console) : (c.after .step).machine = c.machine.step.1 := by
  rw [after_step, machine_step]

theorem atSteps_cons_of_ne {s : Stimulus} (h : s ≠ .step) (c : Console) (ss : List Stimulus) :
    c.atSteps (s :: ss) = (c.after s).atSteps ss := by
  cases s with
  | step => exact absurd rfl h
  | _ => rfl

theorem atSteps_append (c : Console) (ss ss' : List Stimulus) :
    c.atSteps (ss ++ ss') = c.atSteps ss ++ (c.run ss).atSteps ss' := by
  induction ss generalizing c with
  | nil => rfl
  | cons s ss ih =>
    cases s with
    | step => exact congrArg (c :: ·) (ih _)
    | _ => exact ih _

/-- A halted machine stays halted. -/
theorem halted_run {c : Console} (h : c.machine.status = .halted) (ss : List Stimulus) :
    (c.run ss).machine.status = .halted := by
  rw [run_eq_performAll]
  refine performAll_keeps (P := fun c => c.machine.status = .halted) _ (fun o ho d hd => ?_) c h
  obtain ⟨s, -, rfl⟩ := List.mem_map.mp ho
  refine halted_perform hd fun hw => ?_
  obtain ⟨r, -, e⟩ := hw
  cases s <;> cases e

/-! ## 3. Between two steps -/

/-- **Between two steps only the keys and the timers change.** -/
theorem after_of_ne_step (c : Console) {s : Stimulus} (h : s ≠ .step) :
    ∃ keypad timers, c.after s = { c with machine := { c.machine with keypad, timers } } := by
  cases s with
  | step => exact absurd rfl h
  | tick => exact ⟨c.machine.keypad, c.machine.timers.tick, rfl⟩
  | releaseAll => exact ⟨.released, c.machine.timers, rfl⟩
  | key k down =>
    show ∃ keypad timers, (c.setKey k down).1 = _
    unfold setKey
    split
    next keypad _ => exact ⟨keypad, c.machine.timers, rfl⟩
    next => exact ⟨c.machine.keypad, c.machine.timers, rfl⟩

/-- A key that exists goes down or up. -/
theorem keypad_after_key {c : Console} {key : Byte} {down : Bool} {keypad : Keypad}
    (h : c.machine.keypad.setPressed key down = .ok keypad) :
    (c.after (.key key down)).machine.keypad = keypad := by
  show (c.setKey key down).1.machine.keypad = keypad
  rw [setKey, h]
  rfl

/-! ## 4. Answers -/

/-- What the stimuli of a run answer, in order. -/
def answers (c : Console) (ss : List Stimulus) : List Reply :=
  (c.performAll (ss.map Stimulus.operation)).2

theorem answers_cons (c : Console) (s : Stimulus) (ss : List Stimulus) :
    c.answers (s :: ss) = (c.perform s.operation).2 :: (c.after s).answers ss := rfl

/-- A step answers what it amounts to. -/
theorem perform_step (c : Console) :
    c.perform Stimulus.step.operation = (c.step.1, .ofRun c.step.2) := by
  show ((c.steps 1).1, Reply.ofRun (c.steps 1).2) = _
  rw [steps]
  rcases hs : c.step with ⟨d, e | s⟩
  · rfl
  · rw [← status_of_step hs]
    rfl

end Console

end Chip8
