/-
  File:      Chip8/Proofs/Interference.lean
  Subject:   Ticks and keys interfere with a run only through the instructions that read them.

  * `Machine.ReadsDelay`, `Machine.ReadsKeys`: the words that read the delay timer or the keys;
    `exists_of_mem_devices` ties them to the devices that a step uses;
  * `Console.Erases`: a relation between consoles that some stimuli do not show in; then two runs
    that differ in those only make the same steps (`Erases.run`);
  * `erases_ticks`, `erases_keys`: so it is with ticks while nothing reads the delay timer, and
    with keys while nothing reads the keys;
  * `Console.runThreads`: the machine and the clock at work in any order;
  * `run_ignores_unread`: the three consequences together.
-/
import Chip8.Proofs.Agreement
import Chip8.Proofs.Spelling
import Chip8.Proofs.Stimuli

namespace Chip8

variable {R : Machine → Machine → Prop}

namespace Machine

open Table Instruction

/-! ## 1. The words that read -/

/-- The machine is about to execute `FX07`. -/
def ReadsDelay (m : Machine) : Prop := ∃ x < 16, m.Executes (0xF007 + 256 * x)

/-- The machine is about to execute `EX9E`, `EXA1` or `FX0A`. -/
def ReadsKeys (m : Machine) : Prop := ∃ x < 16,
  m.Executes (0xE09E + 256 * x) ∨ m.Executes (0xE0A1 + 256 * x) ∨ m.Executes (0xF00A + 256 * x)

theorem delay_mem_devices {ins : Instruction} (h : Device.delay ∈ ins.devices) :
    ∃ x, ins = .getDelayTimer x := by
  cases ins with
  | getDelayTimer x => exact ⟨x, rfl⟩
  | _ => simp [Instruction.devices] at h

theorem keys_mem_devices {ins : Instruction} (h : Device.keys ∈ ins.devices) :
    ∃ x, ins = .skipIfKey x ∨ ins = .skipIfNotKey x ∨ ins = .waitKey x := by
  cases ins with
  | skipIfKey x => exact ⟨x, .inl rfl⟩
  | skipIfNotKey x => exact ⟨x, .inr (.inl rfl)⟩
  | waitKey x => exact ⟨x, .inr (.inr rfl)⟩
  | _ => simp [Instruction.devices] at h

/-- A step uses the keys to wait, or else the devices of the instruction that a word stands for. -/
theorem exists_of_mem_devices {m : Machine} {d : Device} (h : d ∈ m.devices) :
    (∃ r, m.status = .waitingForKey r) ∨
      ∃ w, m.Executes w ∧ ∃ ins : Instruction, ins.Spelled w ∧ d ∈ ins.devices := by
  unfold devices at h
  cases hs : m.status with
  | halted =>
    rw [hs] at h
    cases h
  | waitingForKey r => exact .inl ⟨r, rfl⟩
  | running =>
    rw [hs] at h
    by_cases hpc : m.registers.pc.toNat ≤ 0xFFE
    · have hx : m.Executes (word m) := ⟨hs, hpc, rfl⟩
      obtain ⟨hf, hd⟩ := spelled_of_executes hx
      dsimp only at h
      rw [hf] at h
      exact .inr ⟨word m, hx, decode (.ofNat (word m)), hd, h⟩
    · dsimp only at h
      rw [fetch_of_lt m (by omega)] at h
      cases h

/-- A device other than the keys is used by an instruction only. -/
theorem spelled_of_mem_devices {m : Machine} {d : Device} (hd : d ≠ .keys) (h : d ∈ m.devices) :
    ∃ w, m.Executes w ∧ ∃ ins : Instruction, ins.Spelled w ∧ d ∈ ins.devices := by
  rcases exists_of_mem_devices h with ⟨r, hr⟩ | hw
  · unfold devices at h
    rw [hr] at h
    exact absurd (List.mem_singleton.mp h) hd
  · exact hw

theorem readsDelay_of_mem_devices {m : Machine} (h : Device.delay ∈ m.devices) :
    m.ReadsDelay := by
  obtain ⟨w, hx, ins, hw, hi⟩ := spelled_of_mem_devices (by decide) h
  obtain ⟨x, rfl⟩ := delay_mem_devices hi
  obtain ⟨hlt, rfl⟩ := hw
  exact ⟨x.toNat, hlt, hx⟩

theorem readsKeys_of_mem_devices {m : Machine} (hs : ∀ r, m.status ≠ .waitingForKey r)
    (h : Device.keys ∈ m.devices) : m.ReadsKeys := by
  rcases exists_of_mem_devices h with ⟨r, hr⟩ | ⟨w, hx, ins, hw, hi⟩
  · exact absurd hr (hs r)
  · obtain ⟨x, rfl | rfl | rfl⟩ := keys_mem_devices hi
    · obtain ⟨hlt, rfl⟩ := hw
      exact ⟨x.toNat, hlt, .inl hx⟩
    · obtain ⟨hlt, rfl⟩ := hw
      exact ⟨x.toNat, hlt, .inr (.inl hx)⟩
    · obtain ⟨hlt, rfl⟩ := hw
      exact ⟨x.toNat, hlt, .inr (.inr hx)⟩

end Machine

/-- A tick of the clock. -/
def Stimulus.isTick : Stimulus → Bool
  | tick => true
  | _ => false

/-- Something at the keys. -/
def Stimulus.isKeys : Stimulus → Bool
  | key _ _ | releaseAll => true
  | _ => false

namespace Console

open Machine

variable {c c' : Console} {s : Stimulus} {keep : Stimulus → Bool} {β : Type}

/-! ## 2. Runs that differ in what does not show -/

/-- The relation goes on to hold when one of two consoles gets a stimulus that is not kept, and
    when both get one that is. -/
structure Erases (R : Machine → Machine → Prop) (keep : Stimulus → Bool) : Prop where
  twins : Twins R
  step : keep .step = true
  left : ∀ {c c' : Console} {s}, keep s = false → c.Matches R c' → (c.after s).Matches R c'
  right : ∀ {c c' : Console} {s}, keep s = false → c.Matches R c' → c.Matches R (c'.after s)
  both : ∀ {c c' : Console} {s}, keep s = true → s ≠ .step → c.Matches R c' →
    (c.after s).Matches R (c'.after s)

/-- What the steps of a run answer, and what each leaves for a view. -/
def record (view : Console → β) (c : Console) (ss : List Stimulus) :
    List (Except Interruption Status × β) :=
  (c.atSteps ss).map fun d => (d.step.2, view d.step.1)

namespace Erases

/-- A run without any step, of stimuli that are not kept. -/
theorem run_erased (h : Erases R keep) (hm : c.Matches R c') {ss : List Stimulus}
    (hs : ∀ s ∈ ss, ¬ keep s = true) : c.Matches R (c'.run ss) ∧ c'.atSteps ss = [] := by
  induction ss generalizing c' with
  | nil => exact ⟨hm, rfl⟩
  | cons s ss ih =>
    rw [List.forall_mem_cons] at hs
    have hne : s ≠ .step := fun e => hs.1 (e ▸ h.step)
    rw [atSteps_cons_of_ne hne]
    exact ih (h.right (Bool.eq_false_iff.mpr hs.1) hm) hs.2

/-- **Two runs with the same kept stimuli make the same steps**, if all devices that the first
    run uses are shared. -/
theorem run (h : Erases R keep) {view : Console → β}
    (hv : ∀ {c c' : Console}, c.Matches R c' → view c = view c') (hm : c.Matches R c')
    {ss ss' : List Stimulus} (hk : ss.filter keep = ss'.filter keep)
    (hd : ∀ e ∈ c.atSteps ss, ∀ e', e.Matches R e' → ∀ d ∈ e.machine.devices, d.Shared R) :
    c.record view ss = c'.record view ss' ∧ (c.run ss).Matches R (c'.run ss') := by
  induction ss generalizing c c' ss' with
  | nil =>
    obtain ⟨hrun, hat⟩ := h.run_erased hm (List.filter_eq_nil_iff.mp hk.symm)
    rw [record, record, hat]
    exact ⟨rfl, hrun⟩
  | cons s ss ih =>
    by_cases hs : keep s = true
    · -- The other run reaches the same stimulus behind some that are not kept.
      rw [List.filter_cons_of_pos hs] at hk
      obtain ⟨before, behind, rfl, hbefore, -, hbehind⟩ := List.filter_eq_cons_iff.mp hk.symm
      obtain ⟨hrun, hat⟩ := h.run_erased hm hbefore
      rw [record, record, atSteps_append, hat, List.nil_append, run_append]
      by_cases he : s = .step
      · subst he
        obtain ⟨hr, hnext⟩ := step_of_matches h.twins hrun (hd c (.head _) _ hrun)
        rw [← after_step, ← after_step] at hnext
        obtain ⟨hrec, hend⟩ := ih hnext hbehind.symm fun e he => hd e (.tail _ he)
        refine ⟨?_, hend⟩
        have hview := hv hnext
        rw [after_step, after_step] at hview
        show (c.step.2, view c.step.1) :: record view _ _ =
          ((c'.run before).step.2, view (c'.run before).step.1) :: record view _ _
        rw [hr, hview, hrec]
      · rw [atSteps_cons_of_ne he] at hd
        rw [atSteps_cons_of_ne he, atSteps_cons_of_ne he]
        exact ih (h.both hs he hrun) hbehind.symm hd
    · have hne : s ≠ .step := fun e => hs (e ▸ h.step)
      rw [List.filter_cons_of_neg hs] at hk
      rw [atSteps_cons_of_ne hne] at hd
      rw [record, atSteps_cons_of_ne hne]
      exact ih (h.left (Bool.eq_false_iff.mpr hs) hm) hk hd

end Erases

/-! ## 3. Ticks -/

/-- The console with other timers. -/
def withTimers (c : Console) (timers : Timers) : Console :=
  c.modifyMachine ({ · with timers })

end Console

namespace Machine

/-- The machines differ in their timers at most. -/
abbrev SameButTimers : Machine → Machine → Prop := Rewritten fun timers m => { m with timers }

theorem twins_sameButTimers : Twins SameButTimers :=
  twins_rewritten (fun _ _ => ⟨rfl, rfl, rfl⟩) (fun _ _ _ => rfl) (fun _ _ _ => rfl) fun _ _ => rfl

/-- Of all devices only the delay timer, as it is read, shows the timers. -/
theorem shared_sameButTimers {d : Device} (hd : d ≠ .delay) : d.Shared SameButTimers := by
  cases d with
  | delay => exact absurd rfl hd
  | keys =>
    intro m m' h
    obtain ⟨t, rfl⟩ := h
    exact ⟨rfl, rfl, fun _ _ => ⟨t, rfl⟩⟩
  | timers =>
    intro m m' h b
    obtain ⟨t, rfl⟩ := h
    exact ⟨⟨_, rfl⟩, ⟨_, rfl⟩⟩
  | display =>
    intro m m' h
    obtain ⟨t, rfl⟩ := h
    exact ⟨⟨t, rfl⟩, fun _ => ⟨rfl, ⟨t, rfl⟩⟩⟩
  | random =>
    intro m m' h
    obtain ⟨t, rfl⟩ := h
    exact ⟨rfl, ⟨t, rfl⟩⟩
  | policy =>
    intro m m' h
    obtain ⟨t, rfl⟩ := h
    rfl

end Machine

namespace Console

open Machine

variable {c c' : Console}

theorem setKey_withTimers (c : Console) (t : Timers) (key : Byte) (down : Bool) :
    ((c.withTimers t).setKey key down).1 = (c.setKey key down).1.withTimers t :=
  congrArg Prod.fst (setKey_rewritten rfl (fun _ => rfl) key down)

/-- Ticks show in the timers alone. -/
theorem erases_ticks : Erases SameButTimers (!·.isTick) where
  twins := twins_sameButTimers
  step := rfl
  left := by
    intro c c' s hs h
    rw [matches_rewritten_iff] at h ⊢
    obtain ⟨t, rfl⟩ := h
    cases s with
    | tick => exact ⟨t, rfl⟩
    | _ => cases hs
  right := by
    intro c c' s hs h
    rw [matches_rewritten_iff] at h ⊢
    obtain ⟨t, rfl⟩ := h
    cases s with
    | tick => exact ⟨t.tick, rfl⟩
    | _ => cases hs
  both := by
    intro c c' s hs hne h
    rw [matches_rewritten_iff] at h ⊢
    obtain ⟨t, rfl⟩ := h
    cases s with
    | step => exact absurd rfl hne
    | tick => cases hs
    | key k down => exact ⟨t, setKey_withTimers c t k down⟩
    | releaseAll => exact ⟨t, rfl⟩

theorem shared_of_not_readsDelay {m : Machine} (h : ¬ m.ReadsDelay) :
    ∀ d ∈ m.devices, d.Shared SameButTimers := by
  intro d hd
  refine shared_sameButTimers fun e => h ?_
  exact readsDelay_of_mem_devices (e ▸ hd)

/-! ## 4. Keys -/

/-- The console with other keys. -/
def withKeys (c : Console) (keypad baseline : Keypad) : Console :=
  c.modifyMachine ({ · with keypad, baseline })

end Console

namespace Machine

/-- The machine does not wait for a key. -/
def Awake (m : Machine) : Prop := ∀ r, m.status ≠ .waitingForKey r

/-- The machines do not wait, and they differ in their keys at most. -/
def SameButKeys (m m' : Machine) : Prop :=
  m.Awake ∧
    Rewritten (fun (k : Keypad × Keypad) m => { m with keypad := k.1, baseline := k.2 }) m m'

/-- Machines that do not wait do not begin to when registers or memory change or they halt. -/
theorem twins_awake (hR : Twins R) : Twins fun m m' => m.Awake ∧ R m m' where
  registers h := hR.registers h.2
  memory h := hR.memory h.2
  status h := hR.status h.2
  withRegisters h registers := ⟨h.1, hR.withRegisters h.2 registers⟩
  withMemory h memory := ⟨h.1, hR.withMemory h.2 memory⟩
  halt h := ⟨fun _ e => Status.noConfusion e, hR.halt h.2⟩

theorem twins_sameButKeys : Twins SameButKeys :=
  twins_awake (twins_rewritten (fun _ _ => ⟨rfl, rfl, rfl⟩) (fun _ _ _ => rfl) (fun _ _ _ => rfl)
    fun _ _ => rfl)

/-- Of all devices only the keys show the keys. -/
theorem shared_sameButKeys {d : Device} (hd : d ≠ .keys) : d.Shared SameButKeys := by
  cases d with
  | keys => exact absurd rfl hd
  | timers =>
    intro m m' h b
    obtain ⟨hm, k, rfl⟩ := h
    exact ⟨⟨hm, k, rfl⟩, ⟨hm, k, rfl⟩⟩
  | display =>
    intro m m' h
    obtain ⟨hm, k, rfl⟩ := h
    exact ⟨⟨hm, k, rfl⟩, fun _ => ⟨rfl, ⟨hm, k, rfl⟩⟩⟩
  | random =>
    intro m m' h
    obtain ⟨hm, k, rfl⟩ := h
    exact ⟨rfl, ⟨hm, k, rfl⟩⟩
  | delay | policy =>
    intro m m' h
    obtain ⟨-, k, rfl⟩ := h
    rfl

end Machine

namespace Console

open Machine

variable {c c' : Console}

theorem matches_sameButKeys_iff : c.Matches SameButKeys c' ↔
    c.machine.Awake ∧ ∃ keypad baseline, c' = c.withKeys keypad baseline := by
  constructor
  · intro h
    obtain ⟨⟨hc, hm⟩, hrest⟩ := h
    obtain ⟨k, e⟩ := matches_rewritten_iff.mp ⟨hm, hrest⟩
    exact ⟨hc, k.1, k.2, e⟩
  · intro h
    obtain ⟨hc, k, b, rfl⟩ := h
    exact ⟨⟨hc, (k, b), rfl⟩, rfl⟩

/-- What happens at the keys changes the keypad at most. -/
theorem after_keys (c : Console) {s : Stimulus} (hs : s.isKeys = true) :
    ∃ keypad, c.after s = c.withKeys keypad c.machine.baseline := by
  cases s with
  | releaseAll => exact ⟨.released, rfl⟩
  | key k down =>
    show ∃ keypad, (c.setKey k down).1 = _
    rw [setKey]
    cases c.machine.keypad.setPressed k down with
    | ok keypad => exact ⟨keypad, rfl⟩
    | error _ => exact ⟨c.machine.keypad, rfl⟩
  | _ => cases hs

/-- What happens at the keys of a machine that does not wait shows in the keypad alone. -/
theorem erases_keys : Erases SameButKeys (!·.isKeys) where
  twins := twins_sameButKeys
  step := rfl
  left := by
    intro c c' s hs h
    rw [matches_sameButKeys_iff] at h ⊢
    obtain ⟨hc, k, b, rfl⟩ := h
    have hkeys : s.isKeys = true := by simpa using hs
    obtain ⟨keypad, e⟩ := c.after_keys hkeys
    rw [e]
    exact ⟨hc, k, b, rfl⟩
  right := by
    intro c c' s hs h
    rw [matches_sameButKeys_iff] at h ⊢
    obtain ⟨hc, k, b, rfl⟩ := h
    have hkeys : s.isKeys = true := by simpa using hs
    obtain ⟨keypad, e⟩ := (c.withKeys k b).after_keys hkeys
    rw [e]
    exact ⟨hc, keypad, b, rfl⟩
  both := by
    intro c c' s hs hne h
    rw [matches_sameButKeys_iff] at h ⊢
    obtain ⟨hc, k, b, rfl⟩ := h
    cases s with
    | step => exact absurd rfl hne
    | tick => exact ⟨hc, k, b, rfl⟩
    | key _ _ => cases hs
    | releaseAll => cases hs

theorem shared_of_not_readsKeys {m : Machine} (hm : m.Awake) (h : ¬ m.ReadsKeys) :
    ∀ d ∈ m.devices, d.Shared SameButKeys := by
  intro d hd
  refine shared_sameButKeys fun e => h ?_
  exact readsKeys_of_mem_devices hm (e ▸ hd)

/-! ## 5. The machine and the clock at work -/

/-- The machine runs on one thread and the clock on another. -/
inductive Thread where
  | machine
  | clock
  deriving DecidableEq

/-- Both threads take their turns in the given order, and then the machine is told to stop. If its
    thread ends before, the clock still takes the turns that it has left. -/
def runThreads (c : Console) : List Thread → Console × Except Interruption Unit
  | [] => (c.halt, .ok ())
  | .clock :: ts => c.tick.runThreads ts
  | .machine :: ts =>
      match c.step with
      | (c, .ok .halted) => (c.ticks (ts.count .clock), .ok ())
      | (c, .ok _) => c.runThreads ts
      | (c, .error e) => (c.ticks (ts.count .clock), .error e)

theorem ticks_withTimers (c : Console) (timers : Timers) (n : Nat) :
    ∃ timers', (c.withTimers timers).ticks n = c.withTimers timers' := by
  induction n generalizing timers with
  | zero => exact ⟨timers, rfl⟩
  | succ n ih => exact ih timers.tick

theorem step_withTimers (timers : Timers) (h : ¬ c.machine.ReadsDelay) : ∃ timers',
    (c.withTimers timers).step = (c.step.1.withTimers timers', c.step.2) :=
  step_rewritten twins_sameButTimers timers (shared_of_not_readsDelay h)

/-- **Whenever the clock takes its turns**, the machine ends as it does in a plain loop of steps. -/
theorem runThreads_withTimers (timers : Timers) {ts : List Thread}
    (h : ∀ d ∈ c.stepsStarts (ts.count .machine), ¬ d.machine.ReadsDelay) : ∃ timers',
    (c.withTimers timers).runThreads ts =
      ((c.runUntilStopped (ts.count .machine)).1.withTimers timers',
        (c.runUntilStopped (ts.count .machine)).2) := by
  induction ts generalizing c timers with
  | nil => exact ⟨timers, rfl⟩
  | cons t ts ih =>
    cases t with
    | clock => exact ih timers.tick h
    | machine =>
      rw [List.count_cons_self] at h ⊢
      rw [stepsStarts, List.forall_mem_cons] at h
      obtain ⟨hnow, hlater⟩ := h
      obtain ⟨t, e⟩ := step_withTimers timers hnow
      rw [runThreads, runUntilStopped, e]
      generalize c.step = p at hlater ⊢
      obtain ⟨d, f | s⟩ := p
      · obtain ⟨t', e'⟩ := d.ticks_withTimers t (ts.count .clock)
        refine ⟨t', ?_⟩
        dsimp only
        rw [e']
      · cases s with
        | halted =>
          obtain ⟨t', e'⟩ := d.ticks_withTimers t (ts.count .clock)
          refine ⟨t', ?_⟩
          dsimp only
          rw [e']
        | _ => exact ih t hlater

/-! ## 6. Together -/

/-- **What a run does not read does not interfere with it.** Two runs differ in their ticks only,
    and no step reads the delay timer: the steps answer the same and leave the same but for the
    timers. Or they differ in what happens at the keys only, the machine does not wait at first,
    and no step reads the keys: the steps answer the same and leave the same but for the keys. And
    so the machine, while the clock ticks on another thread, ends like a loop of steps, as long as
    none of these reads the delay timer. -/
theorem run_ignores_unread (c : Console) :
    (∀ ss ss' : List Stimulus, ss.filter (!·.isTick) = ss'.filter (!·.isTick) →
      (∀ d ∈ c.atSteps ss, ¬ d.machine.ReadsDelay) →
      c.record (·.withTimers {}) ss = c.record (·.withTimers {}) ss' ∧
      (c.run ss).withTimers {} = (c.run ss').withTimers {}) ∧
    (∀ ss ss' : List Stimulus, ss.filter (!·.isKeys) = ss'.filter (!·.isKeys) →
      c.machine.Awake → (∀ d ∈ c.atSteps ss, ¬ d.machine.ReadsKeys) →
      c.record (·.withKeys .released .released) ss =
        c.record (·.withKeys .released .released) ss' ∧
      (c.run ss).withKeys .released .released = (c.run ss').withKeys .released .released) ∧
    (∀ ts : List Thread, let n := ts.count .machine
      (∀ d ∈ c.stepsStarts n, ¬ d.machine.ReadsDelay) →
      (c.runThreads ts).2 = (c.runUntilStopped n).2 ∧
      (c.runThreads ts).1.withTimers {} = (c.runUntilStopped n).1.withTimers {}) := by
  refine ⟨fun ss ss' hk hd => ?_, fun ss ss' hk hc hd => ?_, fun ts => ?_⟩
  · have hview : ∀ {c c' : Console}, c.Matches SameButTimers c' →
        c.withTimers {} = c'.withTimers {} := by
      intro c c' h
      obtain ⟨t, rfl⟩ := matches_rewritten_iff.mp h
      rfl
    have hself : c.Matches SameButTimers c := matches_rewritten_iff.mpr ⟨c.machine.timers, rfl⟩
    obtain ⟨hrec, hend⟩ := erases_ticks.run hview hself hk
      fun e he _ _ => shared_of_not_readsDelay (hd e he)
    exact ⟨hrec, hview hend⟩
  · have hview : ∀ {c c' : Console}, c.Matches SameButKeys c' →
        c.withKeys .released .released = c'.withKeys .released .released := by
      intro c c' h
      obtain ⟨-, k, b, rfl⟩ := matches_sameButKeys_iff.mp h
      rfl
    have hself : c.Matches SameButKeys c :=
      matches_sameButKeys_iff.mpr ⟨hc, c.machine.keypad, c.machine.baseline, rfl⟩
    obtain ⟨hrec, hend⟩ := erases_keys.run hview hself hk
      fun e he _ hm => shared_of_not_readsKeys hm.machine.1 (hd e he)
    exact ⟨hrec, hview hend⟩
  · intro n hd
    have hself : c.withTimers c.machine.timers = c := rfl
    obtain ⟨t, e⟩ := runThreads_withTimers c.machine.timers hd
    rw [hself] at e
    rw [e]
    exact ⟨rfl, rfl⟩

end Console

namespace Machine

open Table

/-- A machine in front of `F015`, which sets the delay timer but does not read it. -/
def setting : Machine where
  memory := opening 0xF0 0x15

theorem word_setting : word setting = 0xF015 := by
  rw [word_of_opening (m := setting) rfl rfl]
  rfl

/-- Whatever its keys and timers, it reads neither. -/
theorem unread_setting (keypad : Keypad) (timers : Timers) :
    ¬ { setting with keypad, timers }.ReadsDelay ∧ ¬ { setting with keypad, timers }.ReadsKeys := by
  have hw : word { setting with keypad, timers } = 0xF015 := word_setting
  constructor
  · intro h
    obtain ⟨x, -, hx⟩ := h
    have e := hx.word
    omega
  · intro h
    obtain ⟨x, -, hx⟩ := h
    rcases hx with hx | hx | hx
    all_goals
      have e := hx.word
      omega

end Machine

namespace Console

open Machine

/-- A console in front of `F015`. -/
def setter : Console where
  machine := setting

/-- Its step is the same before and after ticks, with and without a key, and on two threads. -/
theorem setter_ignores_unread : setting.Awake ∧
    setter.record (·.withTimers {}) [.step, .tick] =
      setter.record (·.withTimers {}) [.tick, .tick, .step] ∧
    setter.record (·.withKeys .released .released) [.key 3 true, .step] =
      setter.record (·.withKeys .released .released) [.step, .releaseAll] ∧
    (setter.runThreads [.clock, .machine, .clock]).2 = (setter.runUntilStopped 1).2 := by
  have hawake : setting.Awake := by
    intro r h
    cases h
  obtain ⟨hticks, hkeys, hthreads⟩ := run_ignores_unread setter
  have hunread : ¬ setter.machine.ReadsDelay := (unread_setting .released {}).1
  have htick : ∀ d ∈ setter.atSteps [.step, .tick], ¬ d.machine.ReadsDelay :=
    List.forall_mem_singleton.mpr hunread
  have hkey : ∀ d ∈ setter.atSteps [.key 3 true, .step], ¬ d.machine.ReadsKeys := by
    obtain ⟨keypad, timers, e⟩ := setter.after_of_ne_step (s := .key 3 true) (by decide)
    refine List.forall_mem_singleton.mpr ?_
    rw [e]
    exact (unread_setting keypad timers).2
  have hloop : ∀ d ∈ setter.stepsStarts 1, ¬ d.machine.ReadsDelay := by
    rw [stepsStarts, List.forall_mem_cons]
    refine ⟨hunread, ?_⟩
    rcases setter.step with ⟨d, _ | _⟩
    · exact List.forall_mem_nil _
    · exact List.forall_mem_nil _
  have h1 := (hticks [.step, .tick] [.tick, .tick, .step] rfl htick).1
  have h2 := (hkeys [.key 3 true, .step] [.step, .releaseAll] rfl hawake hkey).1
  have h3 := (hthreads [.clock, .machine, .clock] hloop).1
  exact ⟨hawake, h1, h2, h3⟩

end Console

end Chip8
