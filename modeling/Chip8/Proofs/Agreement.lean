/-
  File:      Chip8/Proofs/Agreement.lean
  Subject:   Machines that agree on what a step uses make the same step.

  Two machines may differ in a device as long as no instruction uses it.

  * `Device`: what a machine has besides registers, memory and status;
  * `Twins R`: the relation `R` relates machines with the same registers, memory and status only,
    and goes on to relate them after a common change of these; so does `Rewritten`, the relation
    of a machine to what a change elsewhere makes of it;
  * `Device.Shared R`: related machines cannot be told apart by the use of a device;
  * `Instruction.devices`, `Machine.devices`: the devices that an instruction uses, or the next
    step;
  * `agree_effect`, `agree_step`: where these are shared, two related machines do the same and
    are still related; `Console.step_of_matches`, `Console.step_rewritten`: and so do two consoles;
  * `Console.run_rewritten`: whole runs of a console and of what a change elsewhere makes of it.
-/
import Chip8.Proofs.Frames
import Chip8.Proofs.Schedules
import Chip8.Proofs.Stimuli

namespace Chip8

/-! ## 1. Related machines -/

/-- What a machine has besides registers, memory and status. -/
inductive Device where
  /-- The keys that are down, now and when a wait began. -/
  | keys
  /-- The delay timer, as it is read. -/
  | delay
  /-- Both timers, as they are set. -/
  | timers
  | display
  | random
  | policy
  deriving DecidableEq, Repr

variable {α β : Type} {R : Machine → Machine → Prop}

/-- The relation keeps to machines with the same registers, memory and status, also when these
    change. -/
structure Twins (R : Machine → Machine → Prop) : Prop where
  registers : ∀ {m m'}, R m m' → m.registers = m'.registers
  memory : ∀ {m m'}, R m m' → m.memory = m'.memory
  status : ∀ {m m'}, R m m' → m.status = m'.status
  withRegisters : ∀ {m m'}, R m m' → ∀ registers, R { m with registers } { m' with registers }
  withMemory : ∀ {m m'}, R m m' → ∀ memory, R { m with memory } { m' with memory }
  halt : ∀ {m m'}, R m m' → R m.halt m'.halt

/-- A device of two related machines answers the same and leaves them related. -/
def Device.Shared (R : Machine → Machine → Prop) : Device → Prop
  | keys => ∀ {m m'}, R m m' → m.keypad = m'.keypad ∧ m.baseline = m'.baseline ∧
      ∀ status baseline, R { m with status, baseline } { m' with status, baseline }
  | delay => ∀ {m m'}, R m m' → m.timers.delay = m'.timers.delay
  | timers => ∀ {m m'}, R m m' → ∀ b,
      R { m with timers := { m.timers with delay := b } }
        { m' with timers := { m'.timers with delay := b } } ∧
      R { m with timers := { m.timers with sound := b } }
        { m' with timers := { m'.timers with sound := b } }
  | display => ∀ {m m'}, R m m' →
      R { m with display := m.display.clear } { m' with display := m'.display.clear } ∧
      ∀ cells, (m.display.drawCells cells).2 = (m'.display.drawCells cells).2 ∧
        R { m with display := (m.display.drawCells cells).1 }
          { m' with display := (m'.display.drawCells cells).1 }
  | random => ∀ {m m'}, R m m' → m.random.take.1 = m'.random.take.1 ∧
      R { m with random := m.random.take.2 } { m' with random := m'.random.take.2 }
  | policy => ∀ {m m'}, R m m' → m.policy = m'.policy

/-- The second machine is the first one, rewritten in one of several ways. -/
def Rewritten {ι : Type} (f : ι → Machine → Machine) (m m' : Machine) : Prop := ∃ x, m' = f x m

/-- What is rewritten lies outside registers, memory and status. -/
theorem twins_rewritten {ι : Type} {f : ι → Machine → Machine}
    (hf : ∀ x m, (f x m).registers = m.registers ∧ (f x m).memory = m.memory ∧
      (f x m).status = m.status)
    (hregisters : ∀ x m registers, f x { m with registers } = { f x m with registers })
    (hmemory : ∀ x m memory, f x { m with memory } = { f x m with memory })
    (hhalt : ∀ x m, f x m.halt = (f x m).halt) : Twins (Rewritten f) where
  registers := by
    intro m m' h
    obtain ⟨x, rfl⟩ := h
    exact (hf x m).1.symm
  memory := by
    intro m m' h
    obtain ⟨x, rfl⟩ := h
    exact (hf x m).2.1.symm
  status := by
    intro m m' h
    obtain ⟨x, rfl⟩ := h
    exact (hf x m).2.2.symm
  withRegisters := by
    intro m m' h registers
    obtain ⟨x, rfl⟩ := h
    exact ⟨x, (hregisters x m registers).symm⟩
  withMemory := by
    intro m m' h memory
    obtain ⟨x, rfl⟩ := h
    exact ⟨x, (hmemory x m memory).symm⟩
  halt := by
    intro m m' h
    obtain ⟨x, rfl⟩ := h
    exact ⟨x, (hhalt x m).symm⟩

namespace Effect

/-! ## 2. Effects on related machines -/

/-- Two effects end in the same way, and the machines are related. -/
inductive Agree (R : Machine → Machine → Prop) :
    EStateM.Result Cause Machine α → EStateM.Result Cause Machine α → Prop
  | ok {m m' : Machine} (a : α) (h : R m m') : Agree R (.ok a m) (.ok a m')
  | error {m m' : Machine} (c : Cause) (h : R m m') : Agree R (.error c m) (.error c m')

/-- On related machines the effect does the same. -/
def Respects (R : Machine → Machine → Prop) (e : Effect α) : Prop :=
  ∀ m m', R m m' → Agree R (e m) (e m')

theorem respects_pure (a : α) : Respects R (pure a : Effect α) := fun _ _ h => .ok a h

theorem respects_throw (c : Cause) : Respects R (throw c : Effect α) := fun _ _ h => .error c h

theorem respects_modify {g : Machine → Machine} (hg : ∀ m m', R m m' → R (g m) (g m')) :
    Respects R (modify g : Effect PUnit) := by
  intro m m' h
  rw [run_modify, run_modify]
  exact .ok _ (hg m m' h)

theorem respects_bind {e : Effect α} {g : α → Effect β} (he : Respects R e)
    (hg : ∀ a, Respects R (g a)) : Respects R (e >>= g) := by
  intro m m' h
  have hr := he m m' h
  rw [run_bind, run_bind]
  generalize e m = r at hr ⊢
  generalize e m' = r' at hr ⊢
  cases hr with
  | ok a h => exact hg a _ _ h
  | error c h => exact .error c h

/-- An effect may look at the machine if it sees the same in related ones. -/
theorem respects_get {g : Machine → Effect β} (hsame : ∀ m m', R m m' → g m = g m')
    (hg : ∀ m, Respects R (g m)) : Respects R (get >>= g) := by
  intro m m' h
  rw [run_bind, run_bind, run_get, run_get]
  dsimp only
  rw [hsame m m' h]
  exact hg m' m m' h

theorem respects_each {g : Nat → Effect Unit} (hg : ∀ k, Respects R (g k)) (n : Nat) :
    Respects R (each n g) := by
  induction n with
  | zero => exact respects_pure ()
  | succ n ih => exact respects_bind ih fun _ => hg n

theorem respects_readReg (hR : Twins R) (n : Reg) : Respects R (readReg n) := by
  intro m m' h
  unfold readReg
  rw [hR.registers h]
  cases m'.registers.get n with
  | ok b => exact .ok b h
  | error c => exact .error c h

theorem respects_writeReg (hR : Twins R) (n : Reg) (b : Byte) : Respects R (writeReg n b) := by
  intro m m' h
  unfold writeReg
  rw [hR.registers h]
  cases m'.registers.set n b with
  | ok registers => exact .ok () (hR.withRegisters h registers)
  | error c => exact .error c h

theorem respects_writeFlag (hR : Twins R) (flag : Bool) : Respects R (writeFlag flag) := by
  intro m m' h
  unfold writeFlag
  rw [hR.registers h]
  exact .ok () (hR.withRegisters h _)

theorem respects_writeFlagged (hR : Twins R) (n : Reg) (b : Byte) (flag : Bool) :
    Respects R (writeFlagged n b flag) :=
  respects_bind (respects_writeFlag hR flag) fun _ => respects_writeReg hR n b

theorem respects_readMem (hR : Twins R) (a : Nat) : Respects R (readMem a) := by
  intro m m' h
  unfold readMem
  rw [hR.memory h]
  cases m'.memory.read a with
  | ok b => exact .ok b h
  | error c => exact .error c h

theorem respects_readSlice (hR : Twins R) (a n : Nat) : Respects R (readSlice a n) := by
  intro m m' h
  unfold readSlice
  rw [hR.memory h]
  cases m'.memory.slice a n with
  | ok l => exact .ok l h
  | error c => exact .error c h

theorem respects_writeMem (hR : Twins R) (a : Nat) (b : Byte) : Respects R (writeMem a b) := by
  intro m m' h
  unfold writeMem
  rw [hR.memory h]
  cases m'.memory.write a b with
  | ok memory => exact .ok () (hR.withMemory h memory)
  | error c => exact .error c h

theorem respects_jumpTo (hR : Twins R) (a : Word) : Respects R (jumpTo a) := by
  intro m m' h
  unfold jumpTo
  rw [hR.registers h]
  exact .ok () (hR.withRegisters h _)

theorem respects_skipIf (hR : Twins R) (condition : Bool) : Respects R (skipIf condition) := by
  intro m m' h
  cases condition with
  | false => exact .ok () h
  | true =>
    unfold skipIf
    rw [if_pos rfl, if_pos rfl, hR.registers h]
    exact .ok () (hR.withRegisters h _)

theorem respects_setIndex (hR : Twins R) (a : Word) : Respects R (setIndex a) := by
  intro m m' h
  unfold setIndex
  rw [hR.registers h]
  exact .ok () (hR.withRegisters h _)

theorem respects_push (hR : Twins R) (a : Word) : Respects R (push a) := by
  intro m m' h
  unfold push
  rw [hR.registers h]
  cases m'.registers.push a with
  | ok registers => exact .ok () (hR.withRegisters h registers)
  | error c => exact .error c h

theorem respects_pop (hR : Twins R) : Respects R pop := by
  intro m m' h
  unfold pop
  rw [hR.registers h]
  cases m'.registers.pop with
  | ok p => exact .ok p.1 (hR.withRegisters h p.2)
  | error c => exact .error c h

theorem respects_takeRandom (hd : Device.random.Shared R) : Respects R takeRandom := by
  intro m m' h
  obtain ⟨hb, hm⟩ := hd h
  show Agree R (.ok m.random.take.1 _) (.ok m'.random.take.1 _)
  rw [hb]
  exact .ok _ hm

theorem respects_drawCells (hd : Device.display.Shared R) (cells : List Position) :
    Respects R (drawCells cells) := by
  intro m m' h
  obtain ⟨hb, hm⟩ := (hd h).2 cells
  show Agree R (.ok (m.display.drawCells cells).2 _) (.ok (m'.display.drawCells cells).2 _)
  rw [hb]
  exact .ok _ hm

end Effect

namespace Instruction

open Effect

/-! ## 3. Instructions on related machines -/

/-- The devices that an instruction uses. -/
def devices : Instruction → List Device
  | clearDisplay | draw .. => [.display]
  | rand .. => [.random]
  | skipIfKey _ | skipIfNotKey _ | waitKey _ => [.keys]
  | getDelayTimer _ => [.delay]
  | setDelayTimer _ | setSoundTimer _ => [.timers]
  | unknown _ => [.policy]
  | _ => []

theorem respects_read (hR : Twins R) {g : Byte → Effect Unit} (x : Reg)
    (hg : ∀ a, Respects R (g a)) : Respects R (readReg x >>= g) :=
  respects_bind (respects_readReg hR x) hg

theorem respects_read_both (hR : Twins R) {g : Byte → Byte → Effect Unit} (x y : Reg)
    (hg : ∀ a b, Respects R (g a b)) :
    Respects R (readReg x >>= fun a => readReg y >>= fun b => g a b) :=
  respects_read hR x fun a => respects_read hR y fun b => hg a b

/-- **An instruction whose devices are shared does the same to related machines.** -/
theorem agree_effect (hR : Twins R) (here : Word) (ins : Instruction)
    (hd : ∀ d ∈ ins.devices, d.Shared R) : Respects R (ins.effect here) := by
  cases ins with
  | clearDisplay =>
    have hs : Device.display.Shared R := hd _ (.head _)
    exact respects_modify fun m m' h => (hs h).1
  | returnSubroutine => exact respects_bind (respects_pop hR) fun _ => respects_jumpTo hR _
  | callSubroutine a => exact respects_bind (respects_push hR here) fun _ => respects_jumpTo hR a
  | jump a => exact respects_jumpTo hR a
  | jumpAdd a => exact respects_read hR 0 fun _ => respects_jumpTo hR _
  | skipIfEqualConst x k | skipIfNotEqualConst x k =>
    exact respects_read hR x fun _ => respects_skipIf hR _
  | skipIfEqual x y | skipIfNotEqual x y =>
    exact respects_read_both hR x y fun _ _ => respects_skipIf hR _
  | skipIfKey x | skipIfNotKey x =>
    have hs : Device.keys.Shared R := hd _ (.head _)
    refine respects_read hR x fun key => respects_get (fun m m' h => ?_) fun m => ?_
    · rw [(hs h).1]
    · exact respects_skipIf hR _
  | setConst x k => exact respects_writeReg hR x k
  | addConst x k => exact respects_read hR x fun _ => respects_writeReg hR x _
  | set x y => exact respects_read hR y fun _ => respects_writeReg hR x _
  | or x y | and x y | xor x y =>
    exact respects_read_both hR x y fun _ _ => respects_writeReg hR x _
  | add x y | sub x y | negSub x y =>
    exact respects_read_both hR x y fun _ _ => respects_writeFlagged hR x _ _
  | rightShift x | leftShift x => exact respects_read hR x fun _ => respects_writeFlagged hR x _ _
  | setI a => exact respects_setIndex hR a
  | rand x mask =>
    have hs : Device.random.Shared R := hd _ (.head _)
    exact respects_bind (respects_takeRandom hs) fun _ => respects_writeReg hR x _
  | draw x y rows =>
    have hs : Device.display.Shared R := hd _ (.head _)
    refine respects_read_both hR x y fun _ _ => respects_get (fun _ _ h => ?_) fun _ => ?_
    · rw [hR.registers h]
    refine respects_bind (respects_readSlice hR _ _) fun _ => ?_
    exact respects_bind (respects_drawCells hs _) fun _ => respects_writeFlag hR _
  | getDelayTimer x =>
    have hs : Device.delay.Shared R := hd _ (.head _)
    refine respects_get (fun m m' h => ?_) fun m => respects_writeReg hR x _
    rw [hs h]
  | waitKey x =>
    have hs : Device.keys.Shared R := hd _ (.head _)
    refine respects_read hR x fun _ => respects_modify fun m m' h => ?_
    obtain ⟨hk, -, hm⟩ := hs h
    have hw := hm (.waitingForKey x) m.keypad
    rw [hk] at hw ⊢
    exact hw
  | setDelayTimer x =>
    have hs : Device.timers.Shared R := hd _ (.head _)
    exact respects_read hR x fun b => respects_modify fun m m' h => (hs h b).1
  | setSoundTimer x =>
    have hs : Device.timers.Shared R := hd _ (.head _)
    exact respects_read hR x fun b => respects_modify fun m m' h => (hs h b).2
  | addToI x =>
    refine respects_read hR x fun b => respects_get (fun _ _ h => ?_) fun m => ?_
    · rw [hR.registers h]
    dsimp only
    cases m.registers.i.offset? b.toUInt16 with
    | some i => exact respects_setIndex hR i
    | none => exact respects_throw _
  | spriteAddr x => exact respects_read hR x fun _ => respects_setIndex hR _
  | decimal x =>
    refine respects_read hR x fun _ => respects_get (fun _ _ h => ?_) fun _ => ?_
    · rw [hR.registers h]
    exact respects_bind (respects_writeMem hR _ _) fun _ =>
      respects_bind (respects_writeMem hR _ _) fun _ => respects_writeMem hR _ _
  | storeRegisters x =>
    refine respects_get (fun _ _ h => ?_) fun _ => respects_each (fun _ => ?_) _
    · rw [hR.registers h]
    exact respects_read hR _ fun _ => respects_writeMem hR _ _
  | loadRegisters x =>
    refine respects_get (fun _ _ h => ?_) fun _ => respects_each (fun _ => ?_) _
    · rw [hR.registers h]
    exact respects_bind (respects_readMem hR _) fun _ => respects_writeReg hR _ _
  | unknown w =>
    have hs : Device.policy.Shared R := hd _ (.head _)
    refine respects_get (fun m m' h => ?_) fun m => ?_
    · rw [hs h]
    · cases m.policy with
      | permissive => exact respects_pure ()
      | strict => exact respects_throw _

end Instruction

namespace Machine

open Effect Instruction

variable {m m' : Machine}

/-! ## 4. Steps of related machines -/

theorem twins_advance (hR : Twins R) (h : R m m') : R m.advance m'.advance := by
  unfold advance
  rw [hR.registers h]
  exact hR.withRegisters h _

theorem agree_execute (hR : Twins R) (h : R m m') {ins : Instruction}
    (hd : ∀ d ∈ ins.devices, d.Shared R) :
    (m.execute ins).2 = (m'.execute ins).2 ∧ R (m.execute ins).1 (m'.execute ins).1 := by
  have he := agree_effect hR m.registers.pc ins hd m.advance m'.advance (twins_advance hR h)
  unfold execute
  rw [hR.registers h] at he ⊢
  generalize ins.effect m'.registers.pc m.advance = r at he ⊢
  generalize ins.effect m'.registers.pc m'.advance = r' at he ⊢
  cases he with
  | ok _ h => exact ⟨rfl, h⟩
  | error _ h => exact ⟨rfl, h⟩

/-- The devices that the next step uses. -/
def devices (m : Machine) : List Device :=
  match m.status with
  | .halted => []
  | .waitingForKey _ => [.keys]
  | .running =>
      match m.fetch with
      | .ok w => (decode w).devices
      | .error _ => []

theorem fetch_of_twins (hR : Twins R) (h : R m m') : m.fetch = m'.fetch := by
  unfold fetch
  rw [hR.registers h, hR.memory h]

theorem agree_cycle (hR : Twins R) (h : R m m')
    (hd : ∀ w, m.fetch = .ok w → ∀ d ∈ (decode w).devices, d.Shared R) :
    m.cycle.2 = m'.cycle.2 ∧ R m.cycle.1 m'.cycle.1 := by
  unfold cycle
  rw [← fetch_of_twins hR h, hR.registers h]
  cases hf : m.fetch with
  | error c => exact ⟨rfl, hR.halt h⟩
  | ok w =>
    obtain ⟨hr, hm⟩ := agree_execute hR h (hd w hf)
    dsimp only
    generalize m.execute (.decode w) = p at hr hm ⊢
    generalize m'.execute (.decode w) = p' at hr hm ⊢
    obtain ⟨n, r⟩ := p
    obtain ⟨n', r'⟩ := p'
    obtain rfl : r = r' := hr
    cases r with
    | error c => exact ⟨rfl, hR.halt hm⟩
    | ok _ =>
      refine ⟨?_, hm⟩
      dsimp only [eventOf]
      rw [hR.registers h, hR.registers hm, hR.status hm]

theorem agree_poll (hR : Twins R) (hd : Device.keys.Shared R) (h : R m m') (r : Reg) :
    (m.poll r).2 = (m'.poll r).2 ∧ R (m.poll r).1 (m'.poll r).1 := by
  obtain ⟨hk, hb, hm⟩ := hd h
  have hn : m.keypad.newlyPressed m.baseline = m'.keypad.newlyPressed m'.baseline := by rw [hk, hb]
  unfold poll
  rw [hn]
  rcases m'.keypad.newlyPressed m'.baseline with ⟨key, baseline⟩
  have hbase : R { m with baseline } { m' with baseline } := by
    have hs := hm m.status baseline
    rw [hR.status h] at hs ⊢
    exact hs
  cases key with
  | none => exact ⟨rfl, hbase⟩
  | some key =>
    dsimp only
    rw [hR.registers h]
    cases m'.registers.set r key with
    | ok registers => exact ⟨rfl, hR.withRegisters (hm .running baseline) registers⟩
    | error c => exact ⟨rfl, hR.halt (hR.registers h ▸ hbase)⟩

/-- **Two related machines make the same step** if the devices that it uses are shared. -/
theorem agree_step (hR : Twins R) (h : R m m') (hd : ∀ d ∈ m.devices, d.Shared R) :
    m.step.2 = m'.step.2 ∧ R m.step.1 m'.step.1 := by
  unfold devices at hd
  unfold step
  rw [← hR.status h]
  cases hs : m.status with
  | halted => exact ⟨rfl, h⟩
  | waitingForKey r =>
    rw [hs] at hd
    exact agree_poll hR (hd _ (.head _)) h r
  | running =>
    rw [hs] at hd
    refine agree_cycle hR h fun w hw => ?_
    dsimp only at hd
    rw [hw] at hd
    exact hd

end Machine

namespace Console

open Machine

variable {c c' : Console}

/-! ## 5. Steps of matching consoles -/

/-- The machines are related, and everything else is the same. -/
structure Matches (R : Machine → Machine → Prop) (c c' : Console) : Prop where
  machine : R c.machine c'.machine
  rest : c' = { c with machine := c'.machine }

theorem matches_rewritten_iff {ι : Type} {f : ι → Machine → Machine} :
    c.Matches (Rewritten f) c' ↔ ∃ x, c' = c.modifyMachine (f x) := by
  constructor
  · intro h
    obtain ⟨⟨x, hm⟩, hrest⟩ := h
    refine ⟨x, ?_⟩
    rw [hrest, hm]
    rfl
  · intro h
    obtain ⟨x, rfl⟩ := h
    exact ⟨⟨x, rfl⟩, rfl⟩

/-- Outside the machine a step does what its outcome says. -/
theorem step_eq_of_outcome (hrest : c' = { c with machine := c'.machine })
    (ho : c.machine.step.2 = c'.machine.step.2) :
    c'.step = ({ c.step.1 with machine := c'.machine.step.1 }, c.step.2) := by
  unfold step
  generalize hm : c'.machine.step = p' at ho ⊢
  generalize c.machine.step = p at ho ⊢
  obtain ⟨m, o⟩ := p
  obtain ⟨m', o'⟩ := p'
  obtain rfl : o = o' := ho
  rw [hrest]
  obtain ⟨_, pace, observer, journal, recorded⟩ := c
  cases o with
  | cycled event =>
    cases observer with
    | failing calls =>
      dsimp only [notify, report]
      cases (if calls = 1 then Except.error Interruption.observerFailed else Except.ok ()) with
      | error e => rfl
      | ok _ => rfl
    | _ => rfl
  | _ => rfl

/-- **Two matching consoles make the same step**, with the same report, if the devices that it
    uses are shared. -/
theorem step_of_matches (hR : Twins R) (h : Matches R c c')
    (hd : ∀ d ∈ c.machine.devices, d.Shared R) :
    c.step.2 = c'.step.2 ∧ Matches R c.step.1 c'.step.1 := by
  obtain ⟨ho, hm⟩ := agree_step hR h.machine hd
  have hs := step_eq_of_outcome h.rest ho
  refine ⟨by rw [hs], ?_, ?_⟩
  · rw [machine_step, machine_step]
    exact hm
  · rw [hs]

/-- A rewritten console makes the step that it makes as it is. -/
theorem step_rewritten {ι : Type} {f : ι → Machine → Machine} (hf : Twins (Rewritten f)) (x : ι)
    (hd : ∀ d ∈ c.machine.devices, d.Shared (Rewritten f)) :
    ∃ y, (c.modifyMachine (f x)).step = (c.step.1.modifyMachine (f y), c.step.2) := by
  have hm : c.Matches (Rewritten f) (c.modifyMachine (f x)) := matches_rewritten_iff.mpr ⟨x, rfl⟩
  obtain ⟨hr, hs⟩ := step_of_matches hf hm hd
  obtain ⟨y, e⟩ := matches_rewritten_iff.mp hs
  exact ⟨y, Prod.ext e hr.symm⟩

/-- A key goes down or up whatever is rewritten elsewhere. -/
theorem setKey_rewritten {f : Machine → Machine} (hk : (f c.machine).keypad = c.machine.keypad)
    (hw : ∀ keypad, { f c.machine with keypad } = f { c.machine with keypad }) (key : Byte)
    (down : Bool) : (c.modifyMachine f).setKey key down =
      ((c.setKey key down).1.modifyMachine f, (c.setKey key down).2) := by
  have hkeypad : (c.modifyMachine f).machine.keypad = c.machine.keypad := hk
  rw [setKey, setKey, hkeypad]
  cases c.machine.keypad.setPressed key down with
  | ok keypad =>
    show ({ c with machine := { f c.machine with keypad } }, _) = _
    rw [hw]
    rfl
  | error _ => rfl

/-- So it is with everything that happens between two steps. -/
theorem perform_rewritten {f : Machine → Machine}
    (hkeypad : ∀ m keypad, { f m with keypad } = f { m with keypad })
    (htimers : ∀ m timers, { f m with timers } = f { m with timers })
    {s : Stimulus} (hs : s ≠ .step) (c : Console) :
    (c.modifyMachine f).perform s.operation =
      ((c.perform s.operation).1.modifyMachine f, (c.perform s.operation).2) := by
  cases s with
  | step => exact absurd rfl hs
  | tick =>
    have ht := congrArg Machine.timers (htimers c.machine c.machine.timers)
    change c.machine.timers = (f c.machine).timers at ht
    show ({ c with machine := { f c.machine with timers := (f c.machine).timers.tick } },
      Reply.flag (f c.machine).timers.tick.isSounding) = _
    rw [← ht, htimers]
    rfl
  | releaseAll =>
    show ({ c with machine := { f c.machine with keypad := .released } }, Reply.done) = _
    rw [hkeypad]
    rfl
  | key k down =>
    have hk := congrArg Machine.keypad (hkeypad c.machine c.machine.keypad)
    exact setKey_rewritten hk.symm (hkeypad c.machine) k down

/-- **A rewritten console runs as it does as it is**, and is still rewritten in the same way, if
    all devices that the run uses are shared. -/
theorem run_rewritten {f : Machine → Machine} (hf : Twins (Rewritten fun _ : Unit => f))
    (hkeypad : ∀ m keypad, { f m with keypad } = f { m with keypad })
    (htimers : ∀ m timers, { f m with timers } = f { m with timers }) {ss : List Stimulus}
    (hd : ∀ e ∈ c.atSteps ss, ∀ d ∈ e.machine.devices, d.Shared (Rewritten fun _ : Unit => f)) :
    (c.modifyMachine f).run ss = (c.run ss).modifyMachine f ∧
      (c.modifyMachine f).answers ss = c.answers ss := by
  induction ss generalizing c with
  | nil => exact ⟨rfl, rfl⟩
  | cons s ss ih =>
    have hp : (c.modifyMachine f).perform s.operation =
        ((c.after s).modifyMachine f, (c.perform s.operation).2) := by
      by_cases hs : s = .step
      · subst hs
        obtain ⟨_, e⟩ := step_rewritten hf () (hd c (.head _))
        rw [perform_step, perform_step, after_step, e]
      · exact perform_rewritten hkeypad htimers hs c
    have hlater : ∀ e ∈ (c.after s).atSteps ss, ∀ d ∈ e.machine.devices,
        d.Shared (Rewritten fun _ : Unit => f) := by
      intro e he
      refine hd e ?_
      rw [← List.singleton_append, atSteps_append]
      exact List.mem_append_right _ he
    obtain ⟨hrun, hanswers⟩ := ih hlater
    rw [answers_cons, answers_cons, run, run, after, hp, hrun, hanswers]
    exact ⟨rfl, rfl⟩

end Console

end Chip8
