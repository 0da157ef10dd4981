/-
  File:      Chip8/Proofs/Observation.lean
  Subject:   An observer changes nothing, and what it records is what happened.

  * `Machine.Completes`: the next step is a cycle that finishes; `Machine.Describes`: what the
    event of such a cycle says;
  * `Machine.Silent`: a step without an event, and `Machine.Unreported`: what it does to the
    general registers;
  * `step_reported`: every step is one or the other;
  * `Console.recording`: a console with a recorder; `run_recording`: it does what the console does
    without an observer, and records the events of the run;
  * `described_events`, `isChain_events`: these events are those of the finished cycles, each
    where the one before went on;
  * `recorded_run`: all of it together.
-/
import Mathlib.Data.List.Chain
import Mathlib.Data.List.Forall2
import Chip8.Proofs.Stimuli

namespace Chip8

/-! ## 1. What changed -/

namespace Registers

theorem toNat_ofNat_register (k : Fin registerCount) : (UInt8.ofNat k.val).toNat = k.val :=
  UInt8.toNat_ofNat_of_lt' (Nat.lt_trans k.isLt (by decide))

/-- **The changes are exactly the registers with another value**, each with both values. -/
theorem mem_changes_iff {before after : Registers} {r : Reg} {old new : Byte} :
    (r, old, new) ∈ before.changes after ↔
      old ≠ new ∧ before.v[r.toNat]? = some old ∧ after.v[r.toNat]? = some new := by
  rw [changes, List.mem_filterMap]
  constructor
  · intro h
    obtain ⟨k, -, h⟩ := h
    split at h
    · cases h
    next hne =>
      cases h
      rw [toNat_ofNat_register]
      exact ⟨hne, Vector.getElem?_eq_getElem k.isLt, Vector.getElem?_eq_getElem k.isLt⟩
  · intro h
    obtain ⟨hne, hold, hnew⟩ := h
    obtain ⟨hr, rfl⟩ := Vector.getElem?_eq_some_iff.mp hold
    obtain ⟨_, rfl⟩ := Vector.getElem?_eq_some_iff.mp hnew
    refine ⟨⟨r.toNat, hr⟩, List.mem_finRange _, ?_⟩
    rw [UInt8.ofNat_toNat]
    exact if_neg hne

/-- They ascend, so that none is listed twice. -/
theorem pairwise_changes (before after : Registers) :
    (before.changes after).Pairwise fun a b => a.1 < b.1 := by
  rw [changes, List.pairwise_filterMap]
  refine (List.pairwise_lt_finRange registerCount).imp fun {j k} hjk a ha b hb => ?_
  split at ha
  · cases ha
  split at hb
  · cases hb
  cases ha
  cases hb
  rw [UInt8.lt_iff_toNat_lt, toNat_ofNat_register, toNat_ofNat_register]
  exact hjk

end Registers

/-- The events of a step: one if a cycle was finished, else none. -/
def Outcome.events : Outcome → List CycleEvent
  | cycled event => [event]
  | _ => []

namespace Machine

open Table Instruction

variable {m : Machine}

/-! ## 2. Steps with an event and without one -/

/-- The next step is a cycle, and it finishes. -/
def Completes (m : Machine) : Prop := m.status = .running ∧ m.step.2.result.isOk = true

instance : DecidablePred Completes := fun _ => inferInstanceAs (Decidable (_ ∧ _))

/-- The event says what happened in the next step: where the instruction stood and which word it
    was at that time, where the step left the machine, and which general registers it changed. -/
structure Describes (m : Machine) (e : CycleEvent) : Prop where
  pc : e.pc = m.registers.pc
  executed : m.Executes e.opcode.toNat
  decoded : e.instruction = decode e.opcode
  spelled : e.instruction.Spelled e.opcode.toNat
  nextPc : e.nextPc = m.step.1.registers.pc
  index : e.index = m.step.1.registers.i
  status : e.status = m.step.1.status
  ascending : e.changes.Pairwise fun a b => a.1 < b.1
  changes : ∀ r old new, (r, old, new) ∈ e.changes ↔
    old ≠ new ∧ m.registers.v[r.toNat]? = some old ∧ m.step.1.registers.v[r.toNat]? = some new

/-- What a step without an event does to the general registers. -/
inductive Unreported (m : Machine) : Prop
  /-- Nothing. -/
  | kept (same : m.step.1.registers.v = m.registers.v)
  /-- A wait for a key ends, and one register receives the key. -/
  | key {r : Reg} {key : Byte} (waiting : m.status = .waitingForKey r)
      (register : r.toNat < registerCount)
      (pressed : (m.keypad.newlyPressed m.baseline).1 = some key)
      (stored : m.step.1.registers.v = m.registers.v.set r.toNat key)
      (resumed : m.step.1.status = .running)
  /-- `FX65` reaches the end of memory. The registers whose cells exist are loaded by then. -/
  | load {x : Nat} (register : x < 16) (executed : m.Executes (0xF065 + 256 * x))
      (out : 4095 < m.registers.i.toNat + x)
      (loaded : ∀ k < 16, v m.step.1 k =
        if m.registers.i.toNat + k ≤ 4095 then cell m (m.registers.i.toNat + k) else v m k)

/-- A refused instruction keeps the general registers or is a load. -/
theorem unreported_of_refused (hs : m.status = .running) (hpc : m.registers.pc.toNat ≤ 0xFFE)
    {c : Cause} {m' : Machine}
    (he : (decode (.ofNat (word m))).effect m.registers.pc m.advance = .error c m')
    (hm : m.step.1 = { m' with status := .halted }) : m.Unreported := by
  have hx : m.Executes (word m) := ⟨hs, hpc, rfl⟩
  obtain ⟨-, hw⟩ := spelled_of_executes hx
  by_cases hl : ∃ x, decode (.ofNat (word m)) = .loadRegisters x
  · obtain ⟨x, hd⟩ := hl
    rw [hd] at he hw
    obtain ⟨hlt, hword⟩ := hw
    rw [advance_eq] at he
    have hout : 4095 < m.registers.i.toNat + x.toNat := by
      by_contra hin
      have hok := ending_load m m.registers.pc hlt
      rw [he, if_pos (Nat.le_of_not_lt hin)] at hok
      cases hok
    rw [load_refused m _ hlt hout] at he
    cases he
    rw [hword] at hx
    refine .load hlt hx hout fun k hk => ?_
    have hv := v_loaded m (4096 - m.registers.i.toNat) hk
    rw [hm]
    exact hv.trans (if_congr (by omega) rfl rfl)
  · refine .kept ?_
    rw [hm]
    have hk := keepsRefused_general m.registers.pc (fun x hx => hl ⟨x, hx⟩) m.advance c m' he
    exact hk

theorem describes_eventOf (hs : m.status = .running) (hpc : m.registers.pc.toNat ≤ 0xFFE) :
    m.Describes (m.eventOf m.step.1 (.ofNat (word m)) (decode (.ofNat (word m)))) := by
  have hx : m.Executes (word m) := ⟨hs, hpc, rfl⟩
  have hw : (UInt16.ofNat (word m)).toNat = word m := UInt16.toNat_ofNat_of_lt' (word_lt m)
  refine ⟨rfl, ?_, rfl, spelled_decode _, rfl, rfl, rfl, Registers.pairwise_changes _ _, ?_⟩
  · show m.Executes (UInt16.ofNat (word m)).toNat
    rw [hw]
    exact hx
  · exact fun _ _ _ => Registers.mem_changes_iff

/-- A step without an event: it is no cycle that finishes, it leaves the machine where it stands or
    halts it, and it changes the general registers in a few ways only. -/
structure Silent (m : Machine) : Prop where
  incomplete : ¬ m.Completes
  events : m.step.2.events = []
  stays : m.step.1.registers.pc = m.registers.pc ∨ m.step.1.status = .halted
  registers : m.Unreported

theorem silent_of_outcome {m' : Machine} {o : Outcome} (h : m.step = (m', o)) (he : o.events = [])
    (hf : m.status = .running → o.result.isOk = false)
    (hs : m'.registers.pc = m.registers.pc ∨ m'.status = .halted) (hu : m.Unreported) :
    m.Silent where
  incomplete := by
    rw [Completes, h]
    intro hc
    rw [hf hc.1] at hc
    exact Bool.false_ne_true hc.2
  events := by rw [h, he]
  stays := by
    rw [h]
    exact hs
  registers := hu

/-- **A step finishes a cycle and has the event that describes it**, or it has no event. -/
theorem step_reported (m : Machine) :
    (m.Completes ∧ ∃ e, m.step.2.events = [e] ∧ m.Describes e) ∨ m.Silent := by
  cases hs : m.status with
  | halted =>
    have hstep : m.step = (m, .idle) := by rw [step, hs]
    refine .inr (silent_of_outcome hstep rfl (fun h => ?_) (.inl rfl) (.kept (by rw [hstep])))
    cases hs.symm.trans h
  | waitingForKey r =>
    have hstep : m.step = m.poll r := by rw [step, hs]
    have hrun (b : Bool) (h : m.status = .running) : b = false := by
      cases hs.symm.trans h
    obtain ⟨baseline, ⟨-, e⟩ | ⟨key, hkey, hr, e⟩ | ⟨-, f, e⟩⟩ := m.poll_cases r
    · rw [e] at hstep
      exact .inr (silent_of_outcome hstep rfl (hrun _) (.inl rfl) (.kept (by rw [hstep])))
    · rw [e] at hstep
      exact .inr (silent_of_outcome hstep rfl (hrun _) (.inl rfl)
        (.key hs hr hkey (by rw [hstep]) (by rw [hstep])))
    · rw [e] at hstep
      exact .inr (silent_of_outcome hstep rfl (hrun _) (.inr rfl) (.kept (by rw [hstep])))
  | running =>
    by_cases hpc : m.registers.pc.toNat ≤ 0xFFE
    · rcases step_of_running m hs hpc with ⟨m', -, -, hstep⟩ | ⟨c, m', -, he, hstep⟩
      · have hd := describes_eventOf hs hpc
        rw [hstep] at hd
        exact .inl ⟨⟨hs, by rw [hstep]; rfl⟩, _, by rw [hstep]; rfl, hd⟩
      · exact .inr (silent_of_outcome hstep rfl (fun _ => rfl) (.inr rfl)
          (unreported_of_refused hs hpc he (by rw [hstep]; rfl)))
    · have hstep := step_of_out m hs (by omega)
      exact .inr (silent_of_outcome hstep rfl (fun _ => rfl) (.inr rfl)
        (.kept (by rw [hstep]; rfl)))

end Machine

namespace Console

open Machine

variable {c : Console}

/-! ## 3. Two consoles -/

/-- The console with another observer. -/
def withObserver (c : Console) (observer : Observer) : Console := { c with observer }

/-- The console with a recorder that has been told about some cycles. -/
def recording (c : Console) (recorded : Array CycleEvent) : Console :=
  { c with observer := .recorder, recorded }

/-- The events of a run. -/
def events (c : Console) (ss : List Stimulus) : List CycleEvent :=
  (c.atSteps ss).flatMap fun d => d.machine.step.2.events

theorem step_recording (h : c.observer = .absent) (recorded : Array CycleEvent) :
    (c.recording recorded).step =
      (c.step.1.recording (recorded ++ c.machine.step.2.events), c.step.2) := by
  obtain ⟨machine, pace, observer, journal, before⟩ := c
  obtain rfl : observer = .absent := h
  unfold step recording
  dsimp only
  rcases machine.step with ⟨m, o⟩
  cases o with
  | cycled event => rfl
  | _ => rfl

/-- A step without an event is told to nobody. -/
theorem recorded_of_silent : c.machine.step.2.events = [] → c.step.1.recorded = c.recorded := by
  unfold step
  rcases c.machine.step with ⟨m, o⟩
  cases o with
  | cycled event =>
    intro h
    cases h
  | _ => exact fun _ => rfl

/-- Nobody begins to observe by himself. -/
theorem observer_after (h : c.observer = .absent) (s : Stimulus) :
    (c.after s).observer = .absent := by
  by_cases hs : s = .step
  · rw [hs, after_step, step_of_absent h]
    exact h
  · obtain ⟨keypad, timers, e⟩ := c.after_of_ne_step hs
    rw [e]
    exact h

theorem events_append (c : Console) (ss ss' : List Stimulus) :
    c.events (ss ++ ss') = c.events ss ++ (c.run ss).events ss' := by
  rw [events, atSteps_append, List.flatMap_append]
  rfl

theorem events_step (c : Console) : c.events [.step] = c.machine.step.2.events :=
  List.append_nil _

theorem events_of_ne_step {s : Stimulus} (hs : s ≠ .step) : c.events [s] = [] := by
  rw [events, atSteps_cons_of_ne hs]
  rfl

/-- With a recorder a stimulus does the same, and its events are recorded. -/
theorem perform_recording (h : c.observer = .absent) (recorded : Array CycleEvent) (s : Stimulus) :
    (c.recording recorded).perform s.operation =
      ((c.after s).recording (recorded ++ c.events [s]), (c.perform s.operation).2) := by
  cases s with
  | step => rw [perform_step, perform_step, after_step, step_recording h, events_step]
  | key k down =>
    show (c.recording recorded).setKey k down =
      ((c.setKey k down).1.recording recorded, (c.setKey k down).2)
    rw [setKey, setKey, recording]
    cases c.machine.keypad.setPressed k down with
    | ok keypad => rfl
    | error e => rfl
  | _ => rfl

/-- **A run with a recorder is the run without an observer**, and its events are recorded. -/
theorem run_recording (h : c.observer = .absent) (recorded : Array CycleEvent)
    (ss : List Stimulus) :
    (c.recording recorded).run ss = (c.run ss).recording (recorded ++ c.events ss) ∧
      (c.recording recorded).answers ss = c.answers ss := by
  induction ss generalizing c recorded with
  | nil => exact ⟨rfl, rfl⟩
  | cons s ss ih =>
    have hp := perform_recording h recorded s
    have hafter := congrArg Prod.fst hp
    obtain ⟨hrun, hanswers⟩ := ih (observer_after h s) (recorded ++ c.events [s])
    change (c.recording recorded).after s = _ at hafter
    rw [answers_cons, answers_cons, hp, run, hafter, run, hrun, hanswers]
    have he : recorded ++ c.events (s :: ss) =
        recorded ++ c.events [s] ++ (c.after s).events ss := by
      rw [← List.singleton_append, events_append]
      exact List.foldl_append
    rw [he]
    exact ⟨rfl, rfl⟩

/-! ## 4. The events of a run -/

/-- The events of the steps of a run are those of the cycles that finish, in the same order. -/
theorem described_events (c : Console) (ss : List Stimulus) :
    List.Forall₂ (fun d e => d.machine.Describes e)
      ((c.atSteps ss).filter fun d => d.machine.Completes) (c.events ss) := by
  rw [events]
  induction c.atSteps ss with
  | nil => exact .nil
  | cons d ds ih =>
    rw [List.flatMap_cons]
    rcases d.machine.step_reported with ⟨hc, e, he, hd⟩ | hsilent
    · rw [List.filter_cons_of_pos (by simpa using hc), he]
      exact .cons hd ih
    · rw [List.filter_cons_of_neg (by simpa using hsilent.incomplete), hsilent.events]
      exact ih

theorem events_of_halted (h : c.machine.status = .halted) (ss : List Stimulus) :
    c.events ss = [] := by
  induction ss generalizing c with
  | nil => rfl
  | cons s ss ih =>
    rw [← List.singleton_append, events_append]
    by_cases hs : s = .step
    · subst hs
      have hafter : c.after .step = c := by rw [after_step, step_of_halted c h]
      have hstep : c.machine.step.2 = .idle := by rw [Machine.step, h]
      rw [events_step, hstep, run, hafter]
      exact ih h
    · obtain ⟨keypad, timers, e⟩ := c.after_of_ne_step hs
      rw [events_of_ne_step hs, run, e]
      exact ih h

/-- **Each event of a run is about the instruction where the one before it went on.** The first
    is about the one where the machine stands. -/
theorem isChain_events (c : Console) (ss : List Stimulus) :
    (∀ e ∈ (c.events ss).head?, e.pc = c.machine.registers.pc) ∧
      (c.events ss).IsChain fun e e' => e'.pc = e.nextPc := by
  induction ss generalizing c with
  | nil => exact ⟨by simp [events, atSteps], .nil⟩
  | cons s ss ih =>
    obtain ⟨hhead, hchain⟩ := ih (c.after s)
    rw [← List.singleton_append, events_append]
    by_cases hs : s = .step
    · subst hs
      have hm := c.machine_after_step
      rw [events_step]
      rcases c.machine.step_reported with ⟨-, e, he, hd⟩ | hsilent
      · rw [he, List.singleton_append, List.isChain_cons]
        refine ⟨fun e' he' => ?_, fun e' he' => ?_, hchain⟩
        · cases he'
          exact hd.pc
        · rw [hd.nextPc, ← hm]
          exact hhead e' he'
      · rw [hsilent.events]
        rcases hsilent.stays with hpc | hhalt
        · rw [← hpc, ← hm]
          exact ⟨hhead, hchain⟩
        · rw [← hm] at hhalt
          rw [run, run, events_of_halted hhalt ss]
          exact ⟨by simp, .nil⟩
    · obtain ⟨keypad, timers, e⟩ := c.after_of_ne_step hs
      rw [events_of_ne_step hs]
      have hpc : (c.after s).machine.registers.pc = c.machine.registers.pc := by rw [e]
      rw [← hpc]
      exact ⟨hhead, hchain⟩

/-! ## 5. Together -/

/-- **Observation is transparent and complete.** A run with a recorder answers the same as the run
    without an observer and leaves the same console but for the record. Recorded is one event for
    each cycle that finishes, in order. It describes the cycle, and it is about the instruction
    where the event before went on. The steps without an event change the general registers in two
    ways only: a wait for a key ends, or `FX65` faults at the end of memory, where the registers
    that it has loaded stay loaded. -/
theorem recorded_run (c : Console) (ss : List Stimulus) :
    let u := c.withObserver .absent
    let o := c.withObserver .recorder
    o.answers ss = u.answers ss ∧
    (∃ events : List CycleEvent,
      o.run ss = { u.run ss with observer := .recorder, recorded := c.recorded ++ events } ∧
      List.Forall₂ (fun d e => d.machine.Describes e)
        ((u.atSteps ss).filter fun d => d.machine.Completes) events ∧
      events.IsChain fun e e' => e'.pc = e.nextPc) ∧
    ∀ d ∈ u.atSteps ss, ¬ d.machine.Completes → d.machine.Unreported := by
  intro u o
  obtain ⟨hrun, hanswers⟩ := run_recording (c := u) rfl c.recorded ss
  refine ⟨hanswers, ⟨u.events ss, hrun, ?_, (u.isChain_events ss).2⟩, fun d _ hd => ?_⟩
  · exact u.described_events ss
  · rcases d.machine.step_reported with ⟨hc, -⟩ | hsilent
    · exact absurd hc hd
    · exact hsilent.registers

end Console

namespace Machine

open Table

/-- A machine in front of `F055`, which overwrites itself. -/
def overwriting : Machine where
  registers := { i := 0x200 }
  memory := opening 0xF0 0x55

theorem word_overwriting : word overwriting = 0xF055 := by
  rw [word_of_opening (m := overwriting) rfl rfl]
  rfl

theorem completes_overwriting : overwriting.Completes ∧ cell overwriting.step.1 0x200 = 0 := by
  have hn : next overwriting (word overwriting) = .ok (putCells overwriting fun j =>
      if 0x200 ≤ j ∧ j ≤ 0x200 then v overwriting (j - 0x200) else cell overwriting j) := by
    rw [word_overwriting]
    rfl
  obtain ⟨hm, hr⟩ := step_of_next rfl (by decide) hn
  refine ⟨⟨rfl, by rw [hr]; rfl⟩, ?_⟩
  rw [hm]
  simp [cell, putCells, v, overwriting, memorySize]

/-- A machine in front of `F265`, whose index register is two cells before the end of memory. -/
def overrunning : Machine where
  registers := { v := .replicate registerCount 0xAA, i := 0xFFE }
  memory := opening 0xF2 0x65

theorem word_overrunning : word overrunning = 0xF265 := by
  rw [word_of_opening (m := overrunning) rfl rfl]
  rfl

/-- It has loaded V0 when it faults. -/
theorem step_overrunning : v overrunning 0 = 0xAA ∧ v overrunning.step.1 0 = 0 ∧
    overrunning.step.2.events = [] := by
  have hd : Instruction.decode (.ofNat (word overrunning)) = .loadRegisters 2 := by
    rw [word_overrunning]
    rfl
  have hrefused := load_refused overrunning overrunning.registers.pc (x := 2) (by decide)
    (by decide)
  rw [← hd, ← advance_eq] at hrefused
  rcases step_of_running overrunning rfl (by decide) with ⟨m', -, he, -⟩ | ⟨c, m', -, he, hstep⟩
  · cases hrefused.symm.trans he
  · cases hrefused.symm.trans he
    have hv := v_loaded overrunning (4096 - overrunning.registers.i.toNat) (k := 0) (by decide)
    rw [hstep]
    refine ⟨rfl, hv.trans ?_, rfl⟩
    simp [cell, overrunning, opening, memorySize]

end Machine

namespace Console

open Machine Table

/-- A console in front of the store. -/
def overwriter : Console where
  machine := overwriting

/-- The event of the store still tells its word, which is no longer in memory. A look at the keys
    has no event, and the registers are as `Unreported` says. -/
theorem recorded_overwriter : cell overwriting.step.1 0x200 = 0 ∧
    (∃ e : CycleEvent, ((overwriter.withObserver .recorder).run [.step]).recorded = #[e] ∧
      e.opcode.toNat = 0xF055) ∧
    ¬ waiting.machine.Completes ∧ waiting.machine.Unreported := by
  obtain ⟨hc, hcell⟩ := completes_overwriting
  obtain ⟨-, ⟨events, hrun, hevents, -⟩, -⟩ := recorded_run overwriter [.step]
  have hf : ((overwriter.withObserver .absent).atSteps [.step]).filter
      (fun d => d.machine.Completes) = [overwriter.withObserver .absent] :=
    List.filter_cons_of_pos (decide_eq_true hc)
  rw [hf] at hevents
  obtain _ | ⟨hd, _ | _⟩ := hevents
  have hwait : ¬ waiting.machine.Completes := by
    intro h
    cases h.1
  refine ⟨hcell, ⟨_, congrArg Console.recorded hrun, ?_⟩, hwait, ?_⟩
  · rw [← hd.executed.word]
    exact word_overwriting
  · exact (recorded_run waiting [.step]).2.2 waiting (.head _) hwait

/-- A console in front of the load. -/
def loader : Console where
  machine := overrunning
  observer := .recorder

/-- **Some registers that were written are not reported** though the machine did not wait for a
    key: a faulting `FX65` has loaded V0 and more. -/
theorem write_unreported : ¬ ∀ c : Console, c.observer = .recorder → ∀ ss, ∀ d ∈ c.atSteps ss,
    d.step.1.recorded = d.recorded →
    d.step.1.machine.registers.v ≠ d.machine.registers.v →
    ∃ r, d.machine.status = .waitingForKey r := by
  intro h
  obtain ⟨hbefore, hafter, hevents⟩ := step_overrunning
  have hv : overrunning.step.1.registers.v ≠ overrunning.registers.v := by
    intro e
    rw [v, e] at hafter
    rw [v, hafter] at hbefore
    cases hbefore
  have hm : loader.step.1.machine = overrunning.step.1 := machine_step loader
  rw [← hm] at hv
  have hr : loader.step.1.recorded = loader.recorded := recorded_of_silent hevents
  obtain ⟨r, hr⟩ := h loader rfl [.step] loader (.head _) hr hv
  cases hr

end Console

end Chip8
