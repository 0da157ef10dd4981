/-
  File:      Chip8/Console.lean
  Subject:   A machine at work: paced, observed, and with a record of what was reported.

  * `Observer`: who is told about finished cycles;
  * `Console`: a machine, its pace, its observer, the journal of notes and the recorded cycles;
  * `Console.step`, `Console.steps`: steps that tell the observer;
  * `Console.runFrames`: frames of a fixed number of steps, each with one tick of the timers;
  * `Console.runUntilStopped`: steps until the machine halts, faults or is told to stop.
-/
import Chip8.Note
import Chip8.Pace

namespace Chip8

/-! ## 1. Observers -/

/-- Who is told about finished cycles. -/
inductive Observer where
  /-- Nobody. -/
  | absent
  /-- Every cycle is recorded. -/
  | recorder
  /-- Every cycle is written to the journal. -/
  | tracer
  /-- An observer that fails in its `calls`-th call from now on, or never if that is 0. -/
  | failing (calls : Nat)
  deriving DecidableEq, Inhabited, Repr

/-- Why a step of a console yields no status. -/
inductive Interruption where
  | fault (f : Fault)
  | observerFailed
  deriving DecidableEq, Repr

/-! ## 2. Consoles -/

/-- A machine at work. -/
structure Console where
  machine : Machine := {}
  pace : Pace := {}
  observer : Observer := .absent
  /-- What was reported, oldest first. -/
  journal : Array Note := #[]
  /-- The cycles that a recorder was told about, oldest first. -/
  recorded : Array CycleEvent := #[]

namespace Console

instance : Inhabited Console := ⟨{}⟩

/-- Adds notes to the journal. -/
def report (c : Console) (notes : List Note) : Console :=
  { c with journal := c.journal ++ notes }

/-- Tells the observer about a finished cycle. An observer may fail, but it cannot touch the
    machine. -/
def notify (c : Console) (event : CycleEvent) : Console × Except Interruption Unit :=
  match c.observer with
  | .absent => (c, .ok ())
  | .recorder => ({ c with recorded := c.recorded.push event }, .ok ())
  | .tracer => (c.report event.notes, .ok ())
  | .failing calls =>
      ({ c with observer := .failing (calls - 1) },
        if calls = 1 then .error .observerFailed else .ok ())

/-- One step of the machine. The observer is told about a finished cycle after it has taken
    effect. -/
def step (c : Console) : Console × Except Interruption Status :=
  let (machine, outcome) := c.machine.step
  let c := { c with machine }.report outcome.notes
  match outcome with
  | .cycled event =>
      match c.notify event with
      | (c, .ok ()) => (c, .ok event.status)
      | (c, .error e) => (c, .error e)
  | outcome => (c, outcome.result.mapError .fault)

/-- Up to `n` steps. The result is the status after the last one, or what interrupted them. -/
def steps (c : Console) : Nat → Console × Except Interruption Status
  | 0 => (c, .ok c.machine.status)
  | n + 1 =>
      match c.step with
      | (c, .ok _) => c.steps n
      | (c, .error e) => (c, .error e)

/-! ## 3. Frames -/

/-- One tick of the timers. -/
def tick (c : Console) : Console := { c with machine := c.machine.tick }

/-- Up to `n` steps of one frame: whether the frame ran to its end, in which case the timers
    tick next, or why all frames end here. -/
def frameSteps (c : Console) : Nat → Console × Option (Except Interruption Status)
  | 0 => (c, none)
  | n + 1 =>
      match c.step with
      | (c, .ok .halted) => (c, some (.ok .halted))
      | (c, .ok _) => c.frameSteps n
      | (c, .error e) => (c, some (.error e))

/-- Runs `frames` frames of `cycles` steps and one tick each. The run ends early, within a frame
    and without its tick, when the machine is halted or interrupted. -/
def runFrames (c : Console) (cycles : Nat) : Nat → Console × Except Interruption Status
  | 0 => (c, .ok c.machine.status)
  | frames + 1 =>
      match c.frameSteps cycles with
      | (c, some result) => (c, result)
      | (c, none) => c.tick.runFrames cycles frames

/-! ## 4. Stopping -/

/-- Stops the machine for good. -/
def halt (c : Console) : Console :=
  { c.report c.machine.haltNotes with machine := c.machine.halt }

/-- Steps until the machine is halted or interrupted, or until `n` steps have been made: then it
    is told to stop, which halts it. -/
def runUntilStopped (c : Console) : Nat → Console × Except Interruption Unit
  | 0 => (c.halt, .ok ())
  | n + 1 =>
      match c.step with
      | (c, .ok .halted) => (c, .ok ())
      | (c, .ok _) => c.runUntilStopped n
      | (c, .error e) => (c, .error e)

end Console

end Chip8
