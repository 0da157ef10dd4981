/-
  File:      Chip8/Proofs/Frames.lean
  Subject:   What an instruction leaves alone, whether it finishes or not.

  * `Part`: the parts of a machine that instructions write; `Part.Ignored`: a view that a part
    does not show in;
  * `Effect.Keeps`: an effect leaves a view as it was, closed under sequences and loops;
  * `Instruction.writes`: the parts an instruction writes;
  * `keeps_effect`: it keeps every view in which they do not show;
  * `keepsRefused_of_not_piecemeal`: if it is refused, it keeps the whole machine, unless it does its
    work piece by piece;
  * `keepsRefused_effect`: a refused one always keeps the program counter and the call stack;
    `keepsRefused_general`: and the general registers, except for a load.

  The status shows one part, and only one instruction writes it (`status_execute`).
-/
import Chip8.Machine.Execute

namespace Chip8

/-! ## 1. Parts and views -/

/-- A part of a machine that some instruction writes. -/
inductive Part where
  | general
  | index
  | counter
  | stack
  | memory
  | waiting
  | random
  | display
  | timers
  deriving DecidableEq, Repr

variable {α β γ : Type}

/-- A view of machines in which a part does not show. -/
def Part.Ignored (f : Machine → γ) : Part → Prop
  | general => ∀ m v, f { m with registers := { m.registers with v } } = f m
  | index => ∀ m i, f { m with registers := { m.registers with i } } = f m
  | counter => ∀ m pc, f { m with registers := { m.registers with pc } } = f m
  | stack => ∀ m stack, f { m with registers := { m.registers with stack } } = f m
  | memory => ∀ m memory, f { m with memory } = f m
  | waiting => ∀ m status baseline, f { m with status, baseline } = f m
  | random => ∀ m random, f { m with random } = f m
  | display => ∀ m display, f { m with display } = f m
  | timers => ∀ m timers, f { m with timers } = f m

namespace Effect

/-! ## 2. Effects that keep a view -/

/-- The machine that an effect leaves, whether it finished or not. -/
def left : EStateM.Result Cause Machine α → Machine
  | .ok _ m => m
  | .error _ m => m

/-- Whether it finishes or not, the effect leaves a view of the machine as it was. -/
def Keeps (f : Machine → γ) (e : Effect α) : Prop := ∀ m, f (left (e m)) = f m

variable {f : Machine → γ}

theorem keeps_pure (a : α) : Keeps f (pure a : Effect α) := fun _ => rfl

theorem keeps_throw (c : Cause) : Keeps f (throw c : Effect α) := fun _ => rfl

theorem keeps_get : Keeps f (get : Effect Machine) := fun _ => rfl

theorem keeps_modify {g : Machine → Machine} (h : ∀ m, f (g m) = f m) :
    Keeps f (modify g : Effect PUnit) := h

theorem keeps_bind {e : Effect α} {g : α → Effect β} (he : Keeps f e)
    (hg : ∀ a, Keeps f (g a)) : Keeps f (e >>= g) := by
  intro m
  have h := he m
  rw [run_bind]
  cases hm : e m with
  | ok a m' =>
    rw [hm] at h
    exact (hg a m').trans h
  | error c m' =>
    rw [hm] at h
    exact h

theorem keeps_each {g : Nat → Effect Unit} (hg : ∀ k, Keeps f (g k)) (n : Nat) :
    Keeps f (each n g) := by
  induction n with
  | zero => exact keeps_pure ()
  | succ n ih => exact keeps_bind ih fun _ => hg n

theorem keeps_readReg (n : Reg) : Keeps f (readReg n) := by
  intro m
  unfold readReg
  split <;> rfl

theorem keeps_readMem (a : Nat) : Keeps f (readMem a) := by
  intro m
  unfold readMem
  split <;> rfl

theorem keeps_readSlice (a n : Nat) : Keeps f (readSlice a n) := by
  intro m
  unfold readSlice
  split <;> rfl

theorem keeps_writeReg (h : Part.general.Ignored f) (n : Reg) (b : Byte) :
    Keeps f (writeReg n b) := by
  intro m
  by_cases hn : n.toNat < registerCount
  · rw [writeReg_of_lt m b hn]
    exact h m _
  · rw [writeReg_of_le m b (Nat.le_of_not_lt hn)]
    rfl

theorem keeps_writeFlag (h : Part.general.Ignored f) (flag : Bool) :
    Keeps f (writeFlag flag) := fun m => h m _

theorem keeps_writeFlagged (h : Part.general.Ignored f) (n : Reg) (b : Byte) (flag : Bool) :
    Keeps f (writeFlagged n b flag) :=
  keeps_bind (keeps_writeFlag h flag) fun _ => keeps_writeReg h n b

theorem keeps_writeMem (h : Part.memory.Ignored f) (a : Nat) (b : Byte) :
    Keeps f (writeMem a b) := by
  intro m
  by_cases ha : a < memorySize
  · rw [writeMem_of_lt m b ha]
    exact h m _
  · rw [writeMem_of_le m b (Nat.le_of_not_lt ha)]
    rfl

theorem keeps_jumpTo (h : Part.counter.Ignored f) (a : Word) : Keeps f (jumpTo a) :=
  fun m => h m a

theorem keeps_skipIf (h : Part.counter.Ignored f) (condition : Bool) :
    Keeps f (skipIf condition) := by
  intro m
  cases condition with
  | false => rfl
  | true => exact h m _

theorem keeps_setIndex (h : Part.index.Ignored f) (a : Word) : Keeps f (setIndex a) :=
  fun m => h m a

theorem keeps_push (h : Part.stack.Ignored f) (a : Word) : Keeps f (push a) := by
  intro m
  rw [push, Registers.push]
  cases m.registers.stack.push a with
  | ok s => exact h m s
  | error c => rfl

theorem keeps_pop (h : Part.stack.Ignored f) : Keeps f pop := by
  intro m
  rw [pop, Registers.pop]
  cases m.registers.stack.pop with
  | ok p => exact h m p.2
  | error c => rfl

theorem keeps_takeRandom (h : Part.random.Ignored f) : Keeps f takeRandom := fun m => h m _

theorem keeps_drawCells (h : Part.display.Ignored f) (cells : List Position) :
    Keeps f (drawCells cells) := fun m => h m _

end Effect

namespace Instruction

open Effect

/-! ## 3. What an instruction writes -/

/-- The parts an instruction writes. -/
def writes : Instruction → List Part
  | clearDisplay => [.display]
  | returnSubroutine | callSubroutine _ => [.stack, .counter]
  | jump _ | jumpAdd _ | skipIfEqualConst .. | skipIfNotEqualConst .. | skipIfEqual ..
  | skipIfNotEqual .. | skipIfKey _ | skipIfNotKey _ => [.counter]
  | setConst .. | addConst .. | set .. | or .. | and .. | xor .. | add .. | sub .. | rightShift _
  | negSub .. | leftShift _ | getDelayTimer _ | loadRegisters _ => [.general]
  | setI _ | addToI _ | spriteAddr _ => [.index]
  | rand .. => [.random, .general]
  | draw .. => [.display, .general]
  | waitKey _ => [.waiting]
  | setDelayTimer _ | setSoundTimer _ => [.timers]
  | decimal _ | storeRegisters _ => [.memory]
  | unknown _ => []

variable {f : Machine → γ}

theorem keeps_read {g : Byte → Effect Unit} (x : Reg) (hg : ∀ a, Keeps f (g a)) :
    Keeps f (readReg x >>= g) := keeps_bind (keeps_readReg x) hg

theorem keeps_read_both {g : Byte → Byte → Effect Unit} (x y : Reg)
    (hg : ∀ a b, Keeps f (g a b)) :
    Keeps f (readReg x >>= fun a => readReg y >>= fun b => g a b) :=
  keeps_read x fun a => keeps_read y fun b => hg a b

/-- **An instruction keeps every view in which the parts it writes do not show**, whether it
    finishes or not. -/
theorem keeps_effect (here : Word) (ins : Instruction) (h : ∀ p ∈ ins.writes, p.Ignored f) :
    Keeps f (ins.effect here) := by
  cases ins with
  | clearDisplay => exact keeps_modify fun m => h .display (.head _) m _
  | returnSubroutine =>
    exact keeps_bind (keeps_pop (h _ (.head _))) fun _ => keeps_jumpTo (h _ (.tail _ (.head _))) _
  | callSubroutine a =>
    exact keeps_bind (keeps_push (h _ (.head _)) here) fun _ =>
      keeps_jumpTo (h _ (.tail _ (.head _))) a
  | jump a => exact keeps_jumpTo (h _ (.head _)) a
  | jumpAdd a => exact keeps_read 0 fun _ => keeps_jumpTo (h _ (.head _)) _
  | skipIfEqualConst x k | skipIfNotEqualConst x k =>
    exact keeps_read x fun _ => keeps_skipIf (h _ (.head _)) _
  | skipIfEqual x y | skipIfNotEqual x y =>
    exact keeps_read_both x y fun _ _ => keeps_skipIf (h _ (.head _)) _
  | skipIfKey x | skipIfNotKey x =>
    exact keeps_read x fun _ => keeps_bind keeps_get fun _ => keeps_skipIf (h _ (.head _)) _
  | setConst x k => exact keeps_writeReg (h _ (.head _)) x k
  | addConst x k => exact keeps_read x fun _ => keeps_writeReg (h _ (.head _)) x _
  | set x y => exact keeps_read y fun _ => keeps_writeReg (h _ (.head _)) x _
  | or x y | and x y | xor x y =>
    exact keeps_read_both x y fun _ _ => keeps_writeReg (h _ (.head _)) x _
  | add x y | sub x y | negSub x y =>
    exact keeps_read_both x y fun _ _ => keeps_writeFlagged (h _ (.head _)) x _ _
  | rightShift x | leftShift x =>
    exact keeps_read x fun _ => keeps_writeFlagged (h _ (.head _)) x _ _
  | setI a => exact keeps_setIndex (h _ (.head _)) a
  | rand x mask =>
    exact keeps_bind (keeps_takeRandom (h _ (.head _))) fun _ =>
      keeps_writeReg (h _ (.tail _ (.head _))) x _
  | draw x y rows =>
    refine keeps_read_both x y fun _ _ => keeps_bind keeps_get fun m => ?_
    refine keeps_bind (keeps_readSlice _ _) fun _ => ?_
    exact keeps_bind (keeps_drawCells (h _ (.head _)) _) fun hit =>
      keeps_writeFlag (h _ (.tail _ (.head _))) hit
  | getDelayTimer x => exact keeps_bind keeps_get fun _ => keeps_writeReg (h _ (.head _)) x _
  | waitKey x => exact keeps_read x fun _ => keeps_modify fun m => h .waiting (.head _) m _ _
  | setDelayTimer x | setSoundTimer x =>
    exact keeps_read x fun _ => keeps_modify fun m => h .timers (.head _) m _
  | addToI x =>
    refine keeps_read x fun b => keeps_bind keeps_get fun m => ?_
    dsimp only
    cases m.registers.i.offset? b.toUInt16 with
    | some i => exact keeps_setIndex (h _ (.head _)) i
    | none => exact keeps_throw _
  | spriteAddr x => exact keeps_read x fun _ => keeps_setIndex (h _ (.head _)) _
  | decimal x =>
    have hm : Part.memory.Ignored f := h _ (.head _)
    refine keeps_read x fun _ => keeps_bind keeps_get fun _ => ?_
    exact keeps_bind (keeps_writeMem hm _ _) fun _ =>
      keeps_bind (keeps_writeMem hm _ _) fun _ => keeps_writeMem hm _ _
  | storeRegisters x =>
    refine keeps_bind keeps_get fun _ => keeps_each (fun _ => ?_) _
    exact keeps_read _ fun _ => keeps_writeMem (h _ (.head _)) _ _
  | loadRegisters x =>
    refine keeps_bind keeps_get fun _ => keeps_each (fun _ => ?_) _
    exact keeps_bind (keeps_readMem _) fun _ => keeps_writeReg (h _ (.head _)) _ _
  | unknown w =>
    refine keeps_bind keeps_get fun m => ?_
    cases m.policy with
    | permissive => exact keeps_pure ()
    | strict => exact keeps_throw _

/-! ## 4. Refused instructions -/

/-- An effect that always finishes. -/
def Finishes (e : Effect α) : Prop := ∀ m, ∃ a m', e m = .ok a m'

/-- If the effect is refused, it leaves a view of the machine as it was. -/
def KeepsRefused (f : Machine → γ) (e : Effect α) : Prop :=
  ∀ m c m', e m = .error c m' → f m' = f m

theorem finishes_jumpTo (a : Word) : Finishes (jumpTo a) := fun _ => ⟨(), _, rfl⟩

theorem finishes_writeFlagged {n : Reg} (hn : n.toNat < registerCount) (b : Byte) (flag : Bool) :
    Finishes (writeFlagged n b flag) := by
  intro m
  rw [writeFlagged, run_bind]
  exact ⟨(), _, writeReg_of_lt _ b hn⟩

/-- What is left as a whole is left in every view. -/
theorem keepsRefused_of_id {e : Effect α} (he : KeepsRefused id e) : KeepsRefused f e :=
  fun m c m' h => congrArg f (he m c m' h)

theorem keepsRefused_of_keeps {e : Effect α} (he : Keeps f e) : KeepsRefused f e := by
  intro m c m' h
  have hk := he m
  rw [h] at hk
  exact hk

theorem keepsRefused_of_finishes {e : Effect α} (he : Finishes e) : KeepsRefused f e := by
  intro m c m' h
  obtain ⟨a, m'', e⟩ := he m
  rw [e] at h
  cases h

theorem keepsRefused_bind {e : Effect α} {g : α → Effect β} (he : Keeps f e)
    (hg : ∀ a, KeepsRefused f (g a)) : KeepsRefused f (e >>= g) := by
  intro m c m' h
  have hk := he m
  rw [run_bind] at h
  cases hm : e m with
  | ok a m'' =>
    rw [hm] at h hk
    exact (hg a m'' c m' h).trans hk
  | error _ _ =>
    rw [hm] at h hk
    cases h
    exact hk

/-- Here what can be refused may show in the view, but only where it is not refused. -/
theorem keepsRefused_bind_finishes {e : Effect α} {g : α → Effect β} (he : KeepsRefused f e)
    (hg : ∀ a, Finishes (g a)) : KeepsRefused f (e >>= g) := by
  intro m c m' h
  rw [run_bind] at h
  cases hm : e m with
  | ok a m'' =>
    obtain ⟨b, m₃, e⟩ := hg a m''
    rw [hm] at h
    cases e.symm.trans h
  | error _ _ =>
    rw [hm] at h
    cases h
    exact he m _ _ hm

theorem keepsRefused_read {g : Byte → Effect Unit} (x : Reg)
    (hg : ∀ a, KeepsRefused f (g a)) : KeepsRefused f (readReg x >>= g) :=
  keepsRefused_bind (keeps_readReg x) hg

/-- Behind a read the register is known to exist. -/
theorem keepsRefused_read_of_lt {g : Byte → Effect Unit} (x : Reg)
    (hg : x.toNat < registerCount → ∀ a, KeepsRefused f (g a)) :
    KeepsRefused f (readReg x >>= g) := by
  by_cases hx : x.toNat < registerCount
  · exact keepsRefused_read x (hg hx)
  · intro m c m' h
    rw [run_bind, readReg_of_le _ (Nat.le_of_not_lt hx)] at h
    cases h
    rfl

theorem keepsRefused_writeReg (n : Reg) (b : Byte) : KeepsRefused f (writeReg n b) := by
  intro m c m' h
  by_cases hn : n.toNat < registerCount
  · rw [writeReg_of_lt m b hn] at h
    cases h
  · rw [writeReg_of_le m b (Nat.le_of_not_lt hn)] at h
    cases h
    rfl

theorem keepsRefused_jumpTo (a : Word) : KeepsRefused f (jumpTo a) :=
  keepsRefused_of_finishes (finishes_jumpTo a)

theorem keepsRefused_skipIf (condition : Bool) : KeepsRefused f (skipIf condition) :=
  keepsRefused_of_finishes fun _ => ⟨(), _, rfl⟩

theorem keepsRefused_setIndex (a : Word) : KeepsRefused f (setIndex a) :=
  keepsRefused_of_finishes fun _ => ⟨(), _, rfl⟩

theorem keepsRefused_modify (g : Machine → Machine) :
    KeepsRefused f (modify g : Effect PUnit) := keepsRefused_of_finishes fun _ => ⟨⟨⟩, _, rfl⟩

theorem keepsRefused_push (a : Word) : KeepsRefused f (push a) := by
  intro m c m' h
  unfold push at h
  split at h
  · cases h
  · cases h
    rfl

theorem keepsRefused_pop : KeepsRefused f pop := by
  intro m c m' h
  unfold pop at h
  split at h
  · cases h
  · cases h
    rfl

/-- The instruction may have done a part of its work when it is refused. -/
def piecemeal : Instruction → Bool
  | rand .. | decimal _ | storeRegisters _ | loadRegisters _ => true
  | _ => false

/-- **A refused instruction leaves the machine as it was**, beyond the move past the instruction,
    unless it does its work piece by piece. -/
theorem keepsRefused_of_not_piecemeal (here : Word) {ins : Instruction}
    (h : ins.piecemeal = false) : KeepsRefused f (ins.effect here) := by
  refine keepsRefused_of_id ?_
  cases ins with
  | clearDisplay => exact keepsRefused_modify _
  | returnSubroutine => exact keepsRefused_bind_finishes keepsRefused_pop fun _ => finishes_jumpTo _
  | callSubroutine a =>
    exact keepsRefused_bind_finishes (keepsRefused_push here) fun _ => finishes_jumpTo a
  | jump a => exact keepsRefused_jumpTo a
  | jumpAdd a => exact keepsRefused_read 0 fun _ => keepsRefused_jumpTo _
  | skipIfEqualConst x k | skipIfNotEqualConst x k =>
    exact keepsRefused_read x fun _ => keepsRefused_skipIf _
  | skipIfEqual x y | skipIfNotEqual x y =>
    exact keepsRefused_read x fun _ => keepsRefused_read y fun _ => keepsRefused_skipIf _
  | skipIfKey x | skipIfNotKey x =>
    exact keepsRefused_read x fun _ => keepsRefused_bind keeps_get fun _ => keepsRefused_skipIf _
  | setConst x k => exact keepsRefused_writeReg x k
  | addConst x k => exact keepsRefused_read x fun _ => keepsRefused_writeReg x _
  | set x y => exact keepsRefused_read y fun _ => keepsRefused_writeReg x _
  | or x y | and x y | xor x y =>
    exact keepsRefused_read x fun _ => keepsRefused_read y fun _ => keepsRefused_writeReg x _
  -- The flag is written first, so the register behind it must be one that was read.
  | add x y | sub x y | negSub x y =>
    exact keepsRefused_read_of_lt x fun hx _ => keepsRefused_read y fun _ =>
      keepsRefused_of_finishes (finishes_writeFlagged hx _ _)
  | rightShift x | leftShift x =>
    exact keepsRefused_read_of_lt x fun hx _ =>
      keepsRefused_of_finishes (finishes_writeFlagged hx _ _)
  | setI a => exact keepsRefused_setIndex a
  -- Once the sprite was read, nothing is refused any more.
  | draw x y rows =>
    refine keepsRefused_read x fun _ => keepsRefused_read y fun _ => ?_
    refine keepsRefused_bind keeps_get fun _ => keepsRefused_bind (keeps_readSlice _ _) fun _ => ?_
    exact keepsRefused_of_finishes fun _ => ⟨(), _, rfl⟩
  | getDelayTimer x => exact keepsRefused_bind keeps_get fun _ => keepsRefused_writeReg x _
  | waitKey x | setDelayTimer x | setSoundTimer x =>
    exact keepsRefused_read x fun _ => keepsRefused_modify _
  | addToI x =>
    refine keepsRefused_read x fun b => keepsRefused_bind keeps_get fun m => ?_
    dsimp only
    cases m.registers.i.offset? b.toUInt16 with
    | some i => exact keepsRefused_setIndex i
    | none => exact keepsRefused_of_keeps (keeps_throw _)
  | spriteAddr x => exact keepsRefused_read x fun _ => keepsRefused_setIndex _
  | unknown w =>
    refine keepsRefused_bind keeps_get fun m => keepsRefused_of_keeps ?_
    cases m.policy with
    | permissive => exact keeps_pure ()
    | strict => exact keeps_throw _
  | rand x mask => cases h
  | decimal x | storeRegisters x | loadRegisters x => cases h

/-- Where the machine goes on, now and after each return. -/
def place (m : Machine) : Word × CallStack := (m.registers.pc, m.registers.stack)

theorem place_ignores {p : Part} (hc : p ≠ .counter) (hs : p ≠ .stack) : p.Ignored place := by
  cases p with
  | counter => exact absurd rfl hc
  | stack => exact absurd rfl hs
  | waiting => exact fun _ _ _ => rfl
  | _ => exact fun _ _ => rfl

/-- **A refused instruction moves neither the program counter nor the call stack**, beyond the
    move past the instruction. -/
theorem keepsRefused_effect (here : Word) (ins : Instruction) :
    KeepsRefused place (ins.effect here) := by
  cases ins with
  -- These write neither of the two.
  | rand x _ | decimal x | storeRegisters x | loadRegisters x =>
    refine keepsRefused_of_keeps (keeps_effect here _ fun p hp => place_ignores ?_ ?_)
    · intro e
      subst e
      simp [writes] at hp
    · intro e
      subst e
      simp [writes] at hp
  | _ => exact keepsRefused_of_not_piecemeal here rfl

theorem general_ignores {p : Part} (hp : p ≠ .general) :
    p.Ignored fun m => m.registers.v := by
  cases p with
  | general => exact absurd rfl hp
  | waiting => exact fun _ _ _ => rfl
  | _ => exact fun _ _ => rfl

/-- **A refused instruction leaves the general registers as they were**, unless it loads them. -/
theorem keepsRefused_general (here : Word) {ins : Instruction}
    (h : ∀ x, ins ≠ .loadRegisters x) :
    KeepsRefused (fun m => m.registers.v) (ins.effect here) := by
  cases ins with
  | loadRegisters x => exact absurd rfl (h x)
  | rand x mask =>
    exact keepsRefused_bind (keeps_takeRandom fun _ _ => rfl) fun _ => keepsRefused_writeReg x _
  | decimal x | storeRegisters x =>
    refine keepsRefused_of_keeps (keeps_effect here _ fun p hp => general_ignores ?_)
    intro e
    subst e
    simp [writes] at hp
  | _ => exact keepsRefused_of_not_piecemeal here rfl

end Instruction

namespace Machine

open Effect

/-! ## 5. The status -/

theorem execute_fst (m : Machine) (ins : Instruction) :
    (m.execute ins).1 = left (ins.effect m.registers.pc m.advance) := by
  unfold execute
  cases ins.effect m.registers.pc m.advance <;> rfl

/-- Only the wait for a key shows in the status. -/
theorem status_ignores {p : Part} (hp : p ≠ .waiting) : p.Ignored Machine.status := by
  cases p with
  | waiting => exact absurd rfl hp
  | _ => exact fun _ _ => rfl

theorem status_execute_waitKey (m : Machine) {r : Reg} (hr : r.toNat < registerCount) :
    (m.execute (.waitKey r)).1.status = .waitingForKey r := by
  rw [execute_fst, Instruction.effect, Instruction.waitEffect, run_bind, readReg_of_lt _ hr]
  rfl

/-- **Only the wait for a key changes the status**, and it needs a register that exists. -/
theorem status_execute (m : Machine) (ins : Instruction) :
    (m.execute ins).1.status = m.status ∨
      ∃ r : Reg, r.toNat < registerCount ∧ ins = .waitKey r ∧
        (m.execute ins).1.status = .waitingForKey r := by
  by_cases hw : Part.waiting ∈ ins.writes
  · cases ins with
    | waitKey r =>
      by_cases hr : r.toNat < registerCount
      · exact .inr ⟨r, hr, rfl, status_execute_waitKey m hr⟩
      · refine .inl ?_
        rw [execute_fst, Instruction.effect, Instruction.waitEffect, run_bind,
          readReg_of_le _ (Nat.le_of_not_lt hr)]
        rfl
    | _ => simp [Instruction.writes] at hw
  · rw [execute_fst]
    refine .inl (Instruction.keeps_effect (f := Machine.status) _ ins (fun p hp => ?_) m.advance)
    refine status_ignores ?_
    intro e
    subst e
    exact hw hp

end Machine

end Chip8
