/-
  File:      Chip8/Proofs/Lifecycle.lean
  Subject:   How the status of a machine changes, and that halting is final.

  * `status_step_of_running`, `status_step_of_waiting`: what one step does to the status, by the
    status it finds;
  * `Console.Turn`: the five ways an operation changes it;
  * `Console.status_of_schedule`: after every schedule each operation leaves the status or takes
    its turn; and a halted machine stays as it is unless an instruction that waits for a key is
    executed directly.
-/
import Chip8.Proofs.Frames
import Chip8.Proofs.Schedules
import Chip8.Proofs.Spelling

namespace Chip8

namespace Machine

open Table Instruction

/-! ## 1. The status after one step -/

/-- Only `FX0A` is decoded as a wait. -/
theorem decode_eq_waitKey_iff {w : Word} {r : Reg} : decode w = .waitKey r ↔
    w.toNat / 4096 = 0xF ∧ w.toNat % 256 = 0x0A ∧ r.toNat = w.toNat / 256 % 16 := by
  constructor
  · intro h
    have hs := spelled_decode w
    rw [h] at hs
    obtain ⟨hr, hw⟩ := hs
    omega
  · intro h
    obtain ⟨k, s, e⟩ := h
    rw [← Word.toNat_kind] at k
    rw [← Word.toNat_nn] at s
    rw [← Word.toNat_x, UInt8.toNat_inj] at e
    simp only [decode, k, decodeMisc, s, e]

/-- The machine is about to execute `FX0A` with `X = r`. -/
structure Waits (m : Machine) (r : Reg) : Prop where
  running : m.status = .running
  fetched : m.registers.pc.toNat ≤ 0xFFE
  kind : word m / 4096 = 0xF
  selector : word m % 256 = 0x0A
  register : r.toNat = word m / 256 % 16

/-- The machine waits for a key, and one is down that was not held all along. -/
def Pressed (m : Machine) : Prop :=
  (∃ r, m.status = .waitingForKey r) ∧ (m.keypad.newlyPressed m.baseline).1.isSome

/-- `FX0A` goes on behind itself, waits for a key, and takes those held now as the baseline. -/
theorem step_of_waits {m : Machine} {r : Reg} (h : m.Waits r) :
    m.step.1 = { m.advance with status := .waitingForKey r, baseline := m.keypad } ∧
      m.step.2.result = .ok (.waitingForKey r) := by
  have hn : next m (word m) = .ok { goOn m with
      status := .waitingForKey (.ofNat (word m / 256 % 16)), baseline := m.keypad } := by
    simp only [next, h.kind, misc, h.selector]
  obtain ⟨e, hr⟩ := step_of_next h.running h.fetched hn
  have hreg : UInt8.ofNat (word m / 256 % 16) = r := by rw [← h.register, UInt8.ofNat_toNat]
  have hadv : m.advance = goOn m := by
    rw [advance, next_eq]
    rfl
  rw [e, hr, hadv, hreg]
  exact ⟨rfl, rfl⟩

theorem status_of_waits {m : Machine} {r : Reg} (h : m.Waits r) :
    m.step.1.status = .waitingForKey r := by
  rw [(step_of_waits h).1]

/-- A running machine goes on, faults, or starts to wait for a key. -/
theorem status_step_of_running {m : Machine} (hs : m.status = .running) :
    m.step.1.status = .running ∨ (∃ f, m.step.2.result = .error f) ∨
      ∃ r, m.Waits r ∧ m.step.1.status = .waitingForKey r := by
  by_cases hpc : m.registers.pc.toNat ≤ 0xFFE
  · rcases step_of_running m hs hpc with ⟨m', -, he, hm⟩ | ⟨c, m', -, -, hm⟩
    · have hx := execute_fst m (decode (.ofNat (word m)))
      rw [he] at hx
      rcases status_execute m (decode (.ofNat (word m))) with h | ⟨r, hr, hd, h⟩
      · rw [hx, hs] at h
        rw [hm]
        exact .inl h
      · rw [hx] at h
        obtain ⟨k, s, e⟩ := decode_eq_waitKey_iff.mp hd
        rw [UInt16.toNat_ofNat_of_lt' (word_lt m)] at k s e
        rw [hm]
        exact .inr (.inr ⟨r, ⟨hs, hpc, k, s, e⟩, h⟩)
    · rw [hm]
      exact .inr (.inl ⟨_, rfl⟩)
  · rw [step_of_out m hs (by omega)]
    exact .inr (.inl ⟨_, rfl⟩)

/-- A waiting machine goes on to wait, or runs once a key is pressed. -/
theorem status_step_of_waiting {m : Machine} {r : Reg} (hs : m.status = .waitingForKey r)
    (hr : r.toNat ≤ 15) :
    m.step.1.status = if (m.keypad.newlyPressed m.baseline).1.isSome then .running
      else .waitingForKey r := by
  rw [step, hs]
  show (m.poll r).1.status = _
  obtain ⟨baseline, ⟨hk, e⟩ | ⟨key, hk, _, e⟩ | ⟨hr', -⟩⟩ := m.poll_cases r
  · rw [e, hk]
    exact hs
  · rw [e, hk]
    rfl
  · exact absurd (Nat.lt_succ_of_le hr) (Nat.not_lt_of_le hr')

/-- A step without a fault answers the status that it leaves. -/
theorem status_of_result {m : Machine} {s : Status} (h : m.step.2.result = .ok s) :
    m.step.1.status = s := by
  unfold step at h ⊢
  cases hs : m.status with
  | halted =>
    rw [hs] at h
    cases h
    exact hs
  | waitingForKey r =>
    rw [hs] at h
    dsimp only at h ⊢
    obtain ⟨baseline, ⟨-, e⟩ | ⟨key, -, _, e⟩ | ⟨-, f, e⟩⟩ := m.poll_cases r
    · rw [e] at h ⊢
      cases h
      exact hs
    · rw [e] at h ⊢
      cases h
      rfl
    · rw [e] at h
      cases h
  | running =>
    rw [hs] at h
    dsimp only at h ⊢
    unfold cycle at h ⊢
    cases hf : m.fetch with
    | error c =>
      rw [hf] at h
      cases h
    | ok w =>
      rw [hf] at h
      dsimp only at h ⊢
      rcases he : m.execute (.decode w) with ⟨m', c | _⟩
      · rw [he] at h
        cases h
      · rw [he] at h
        cases h
        rfl

end Machine

/-! ## 2. One operation -/

/-- An operation on the machine itself, with one step at most. -/
def Operation.Single : Operation → Prop
  | .step times => times = 1
  | .runFrames _ _ => False
  | _ => True

/-- A direct execution of `FX0A`, for a register that exists. -/
def Operation.StartsWait (o : Operation) : Prop :=
  ∃ r : Reg, r.toNat ≤ 15 ∧ o = .execute (.waitKey r)

namespace Console

open Machine

/-- The ways in which an operation gives the machine a status. -/
inductive Turn (c : Console) : Operation → Status → Prop
  /-- It is halted. -/
  | halt : Turn c .halt .halted
  /-- It makes a step, and the step faults. -/
  | fault {f : Fault} (h : c.step.2 = .error (.fault f)) : Turn c (.step 1) .halted
  /-- It makes a step, and the step executes `FX0A`. -/
  | wait {r : Reg} (h : c.machine.Waits r) : Turn c (.step 1) (.waitingForKey r)
  /-- It makes a step that finds a newly pressed key. -/
  | press (h : c.machine.Pressed) : Turn c (.step 1) .running
  /-- It executes `FX0A` directly, for a register that exists. -/
  | execute {r : Reg} (h : r.toNat ≤ 15) : Turn c (.execute (.waitKey r)) (.waitingForKey r)

/-- If the machine waits for a key, it does so for a register that exists. -/
def WaitsWell (c : Console) : Prop := ∀ r, c.machine.status = .waitingForKey r → r.toNat ≤ 15

/-- A step that is not interrupted answers the status that it leaves. -/
theorem status_of_step {c d : Console} {s : Status} (h : c.step = (d, .ok s)) :
    d.machine.status = s := by
  have hm := c.machine_step
  rw [h] at hm
  rw [hm]
  exact status_of_result (result_of_step (congrArg Prod.snd h))

theorem step_one (c : Console) : (c.steps 1).1 = c.step.1 := by
  rw [steps]
  rcases c.step with ⟨d, _ | _⟩
  · rfl
  · rfl

theorem turn_step (c : Console) (hw : c.WaitsWell) :
    c.step.1.machine.status = c.machine.status ∨ Turn c (.step 1) c.step.1.machine.status := by
  rw [machine_step]
  cases hs : c.machine.status with
  | halted =>
    rw [Machine.step, hs]
    exact .inl hs
  | waitingForKey r =>
    rw [status_step_of_waiting hs (hw r hs)]
    split
    next hk => exact .inr (.press ⟨⟨r, hs⟩, hk⟩)
    next => exact .inl rfl
  | running =>
    rcases status_step_of_running hs with h | ⟨f, h⟩ | ⟨r, h, e⟩
    · exact .inl h
    · rw [status_step_of_fault _ f h]
      exact .inr (.fault ((step_fault_iff_machine c f).mpr h))
    · rw [e]
      exact .inr (.wait h)

theorem machine_executeDirect (c : Console) (ins : Instruction) :
    (c.executeDirect ins).1.machine = (c.machine.execute ins).1 := by
  unfold executeDirect
  rcases c.machine.execute ins with ⟨m, _ | _⟩
  · rfl
  · rfl

theorem turn_execute (c : Console) (ins : Instruction) :
    (c.executeDirect ins).1.machine.status = c.machine.status ∨
      Turn c (.execute ins) (c.executeDirect ins).1.machine.status := by
  rw [machine_executeDirect]
  rcases status_execute c.machine ins with h | ⟨r, hr, rfl, h⟩
  · exact .inl h
  · rw [h]
    exact .inr (.execute (Nat.le_of_lt_succ hr))

theorem status_loadProgram (c : Console) (program : List Byte) :
    (c.loadProgram program).1.machine.status = c.machine.status := by
  obtain ⟨memory, e⟩ := machine_loadProgram c program
  rw [e]

theorem status_setRegister (c : Console) (r : Reg) (b : Byte) :
    (c.setRegister r b).1.machine.status = c.machine.status := by
  obtain ⟨v, e⟩ := machine_setRegister c r b
  rw [e]

theorem status_setKey (c : Console) (key : Byte) (down : Bool) :
    (c.setKey key down).1.machine.status = c.machine.status := by
  obtain ⟨keypad, e⟩ := machine_setKey c key down
  rw [e]

theorem status_ticks (c : Console) (n : Nat) : (c.ticks n).machine.status = c.machine.status := by
  induction n generalizing c with
  | zero => rfl
  | succ n ih => exact ih c.tick

/-- **An operation leaves the status or takes its turn.** -/
theorem turn_perform (c : Console) (hw : c.WaitsWell) {o : Operation} (ho : o.Single) :
    (c.perform o).1.machine.status = c.machine.status ∨
      Turn c o (c.perform o).1.machine.status := by
  cases o with
  | step times =>
    obtain rfl := ho
    show (c.steps 1).1.machine.status = _ ∨ Turn c (.step 1) (c.steps 1).1.machine.status
    rw [step_one]
    exact turn_step c hw
  | execute ins => exact turn_execute c ins
  | runFrames frames cycles => exact ho.elim
  | halt => exact .inr .halt
  | loadProgram program => exact .inl (status_loadProgram c program)
  | setRegister r b => exact .inl (status_setRegister c r b)
  | tick times => exact .inl (status_ticks c times)
  | key key down => exact .inl (status_setKey c key down)
  | _ => exact .inl rfl

/-- **What takes its turn gives its status.** -/
theorem status_of_turn {c : Console} (hw : c.WaitsWell) {o : Operation} {s : Status}
    (h : Turn c o s) : (c.perform o).1.machine.status = s := by
  cases h with
  | halt => rfl
  | fault h =>
    show (c.steps 1).1.machine.status = _
    rw [step_one, machine_step]
    exact status_step_of_fault _ _ ((step_fault_iff_machine c _).mp h)
  | wait h =>
    show (c.steps 1).1.machine.status = _
    rw [step_one, machine_step, status_of_waits h]
  | press h =>
    obtain ⟨⟨r, hs⟩, hk⟩ := h
    show (c.steps 1).1.machine.status = _
    rw [step_one, machine_step, status_step_of_waiting hs (hw r hs), if_pos hk]
  | execute h =>
    show (c.executeDirect _).1.machine.status = _
    rw [machine_executeDirect]
    exact status_execute_waitKey _ (Nat.lt_succ_of_le h)

/-! ## 3. Schedules -/

/-- A turn never ends in a wait for a register that does not exist. -/
theorem waitsWell_of_turn {c d : Console} (hw : c.WaitsWell) {o : Operation}
    (h : d.machine.status = c.machine.status ∨ Turn c o d.machine.status) : d.WaitsWell := by
  intro r hr
  rw [hr] at h
  rcases h with h | h
  · exact hw r h.symm
  · cases h with
    | wait h =>
      have := h.register
      omega
    | execute h => exact h

theorem stable_waitsWell : Stable WaitsWell where
  step c hw := waitsWell_of_turn hw (turn_step c hw)
  tick _ hw := hw

theorem waitsWell_perform {c : Console} (hw : c.WaitsWell) (o : Operation) :
    (c.perform o).1.WaitsWell := by
  cases o with
  | step times => exact stable_waitsWell.steps times c hw
  | runFrames frames cycles => exact stable_waitsWell.runFrames _ frames c hw
  | _ => exact waitsWell_of_turn hw (turn_perform c hw trivial)

theorem stable_halted : Stable fun c => c.machine.status = .halted where
  step c h := by
    rw [step_of_halted c h]
    exact h
  tick _ h := h

theorem waitsWell_of_halted {c : Console} (h : c.machine.status = .halted) : c.WaitsWell := by
  intro r hr
  rw [h] at hr
  cases hr

theorem halted_of_turn {c d : Console} (h : c.machine.status = .halted) {o : Operation}
    (ho : ¬ o.StartsWait)
    (ht : d.machine.status = c.machine.status ∨ Turn c o d.machine.status) :
    d.machine.status = .halted := by
  rcases ht with e | e
  · exact e.trans h
  · generalize hd : d.machine.status = s at e ⊢
    cases e with
    | halt => rfl
    | fault _ => rfl
    | wait hw => cases h.symm.trans hw.running
    | press hp =>
      obtain ⟨⟨r, hr⟩, -⟩ := hp
      rw [h] at hr
      cases hr
    | execute hr => exact absurd ⟨_, hr, rfl⟩ ho

/-- Halting is undone by a direct execution alone. -/
theorem halted_perform {c : Console} (h : c.machine.status = .halted) {o : Operation}
    (ho : ¬ o.StartsWait) :
    (c.perform o).1.machine.status = .halted := by
  cases o with
  | step times => exact stable_halted.steps times c h
  | runFrames frames cycles => exact stable_halted.runFrames _ frames c h
  | _ => exact halted_of_turn h ho (turn_perform c (waitsWell_of_halted h) trivial)

/-- Frames of a halted machine end in their first step, before the timers tick. -/
theorem runFrames_of_halted {c : Console} (h : c.machine.status = .halted) {cycles frames : Nat}
    (hc : 1 ≤ cycles) (hf : 1 ≤ frames) : c.runFrames cycles frames = (c, .ok .halted) := by
  obtain ⟨n, rfl⟩ := Nat.exists_eq_add_of_le' hc
  obtain ⟨k, rfl⟩ := Nat.exists_eq_add_of_le' hf
  rw [runFrames, frameSteps, step_of_halted c h]

/-- Each single operation leaves the status or takes its turn, and what takes its turn gives its
    status. -/
def TakesTurns (c : Console) : Prop :=
  ∀ o : Operation, o.Single →
    ((c.perform o).1.machine.status = c.machine.status ∨
      Turn c o (c.perform o).1.machine.status) ∧
    ∀ s, Turn c o s → (c.perform o).1.machine.status = s

theorem takesTurns {c : Console} (hw : c.WaitsWell) : c.TakesTurns := fun _ ho =>
  ⟨turn_perform c hw ho, fun _ hs => status_of_turn hw hs⟩

/-- The machine is halted. Steps and frames change nothing at all, and nobody is told. -/
structure AtRest (c : Console) : Prop where
  halted : c.machine.status = .halted
  step : c.step = (c, .ok .halted)
  frames : ∀ cycles frames, 1 ≤ cycles → 1 ≤ frames → c.runFrames cycles frames = (c, .ok .halted)

/-- **The status changes in its turns only, and halting is final.** From a machine that waits at
    most for a register that exists, every schedule leads to such a machine. There each operation
    takes its turn or leaves the status, and so does each step inside a longer run. A halted
    machine is at rest after every schedule that starts no wait directly. -/
theorem status_of_schedule (c : Console) (os : List Operation) :
    (c.WaitsWell → (c.performAll os).1.WaitsWell ∧ (c.performAll os).1.TakesTurns ∧
      ∀ o : Operation, ∀ d ∈ (c.performAll os).1.starts o, d.TakesTurns) ∧
    (c.machine.status = .halted → (∀ o ∈ os, ¬ o.StartsWait) → (c.performAll os).1.AtRest) := by
  constructor
  · intro hw
    have h := performAll_keeps (P := WaitsWell) os (fun o _ d hd => waitsWell_perform hd o) c hw
    refine ⟨h, takesTurns h, fun o d hd => ?_⟩
    exact takesTurns (stable_waitsWell.starts o _ h d hd)
  · intro hh hos
    have h := performAll_keeps (P := fun c => c.machine.status = .halted) os
      (fun o ho d hd => halted_perform hd (hos o ho)) c hh
    exact ⟨h, step_of_halted _ h, fun _ _ hc hf => runFrames_of_halted h hc hf⟩

/-- A machine that waits for a key for VF. -/
def waiting : Console where
  machine := { status := .waitingForKey 0xF }

/-- Halted during the wait, it does not wake up when a key goes down. -/
theorem status_of_waiting : waiting.WaitsWell ∧
    (waiting.performAll [.key 3 true]).1.TakesTurns ∧
    (waiting.halt.performAll [.key 3 true, .step 2, .runFrames 5 (some 9)]).1.AtRest := by
  have hw : waiting.WaitsWell := by
    intro r hr
    obtain rfl := Status.waitingForKey.inj hr
    decide
  have hs : ∀ o ∈ [Operation.key 3 true, .step 2, .runFrames 5 (some 9)], ¬ o.StartsWait := by
    simp [Operation.StartsWait]
  exact ⟨hw, ((status_of_schedule waiting [.key 3 true]).1 hw).2.1,
    (status_of_schedule waiting.halt _).2 rfl hs⟩

end Console

end Chip8
