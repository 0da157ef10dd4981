/-
  File:      Chip8/Proofs/Invariant.lean
  Subject:   What holds of a machine however it is used, and why its steps never slip.

  * `Instruction.Ranged`: the operands of a decoded word are within the ranges of their digits;
  * `Machine.Sound`: bounds for the program counter, for the call stack and for the register that
    waits for a key. The bound for the program counter needs the one for the saved calls, and a
    call is saved only where a word could be fetched;
  * `Sound.step`: a step keeps the bounds, whatever memory holds;
  * `Machine.Tame`: no sum of the next step wraps and no index leaves its array (`Sound.tame`);
  * `sound_of_schedule`: from a fresh machine on, both hold at every step of every schedule that
    neither sets the program counter nor executes instructions directly.
-/
import Chip8.Proofs.Frames
import Chip8.Proofs.ProgramImage
import Chip8.Proofs.Schedules
import Chip8.Proofs.Spelling

namespace Chip8

namespace Instruction

/-! ## 1. Operands of decoded words -/

/-- Addresses have twelve bits, row counts four, and every register that is named exists. -/
def Ranged : Instruction → Prop
  | clearDisplay | returnSubroutine | unknown _ => True
  | jump a | callSubroutine a | setI a | jumpAdd a => a.toNat < 4096
  | skipIfEqualConst x _ | skipIfNotEqualConst x _ | setConst x _ | addConst x _ | rand x _
  | rightShift x | leftShift x | skipIfKey x | skipIfNotKey x | getDelayTimer x | waitKey x
  | setDelayTimer x | setSoundTimer x | addToI x | spriteAddr x | decimal x | storeRegisters x
  | loadRegisters x => x.toNat < 16
  | skipIfEqual x y | skipIfNotEqual x y | set x y | or x y | and x y | xor x y | add x y
  | sub x y | negSub x y => x.toNat < 16 ∧ y.toNat < 16
  | draw x y rows => x.toNat < 16 ∧ y.toNat < 16 ∧ rows.toNat < 16

/-- Operands are written in the digits of a word. -/
theorem ranged_of_spelled {w : Nat} {ins : Instruction} (h : ins.Spelled w) : ins.Ranged := by
  cases ins with
  | clearDisplay | returnSubroutine | unknown _ => trivial
  | draw x y rows =>
    obtain ⟨hx, hy, hrows, -⟩ := h
    exact ⟨hx, hy, hrows⟩
  | skipIfEqual x y | skipIfNotEqual x y | set x y | or x y | and x y | xor x y | add x y
  | sub x y | negSub x y =>
    obtain ⟨hx, hy, -⟩ := h
    exact ⟨hx, hy⟩
  | _ => exact h.1

/-- **The operands of a decoded word are in range.** -/
theorem ranged_decode (w : Word) : (decode w).Ranged := ranged_of_spelled (spelled_decode w)

end Instruction

namespace Machine

open Table Instruction

/-! ## 2. The bounds -/

/-- The bounds that every reachable machine keeps. -/
structure Sound (m : Machine) : Prop where
  /-- The farthest target is that of a `BNNN`. -/
  pc : m.registers.pc.toNat ≤ 0x10FE
  depth : m.registers.stack.entries.length ≤ 16
  /-- A saved call stood at two cells of memory. -/
  calls : ∀ a ∈ m.registers.stack.entries, a.toNat ≤ 0xFFE
  waiting : ∀ r, m.status = .waitingForKey r → r.toNat ≤ 15

namespace Sound

variable {m m' : Machine}

/-- The bounds depend on the place and the status alone. -/
theorem same (h : m.Sound) (hp : place m' = place m) (hs : m'.status = m.status) : m'.Sound := by
  obtain ⟨hpc, hst⟩ := Prod.mk.inj hp
  refine ⟨?_, ?_, ?_, ?_⟩
  · rw [hpc]
    exact h.pc
  · rw [hst]
    exact h.depth
  · rw [hst]
    exact h.calls
  · rw [hs]
    exact h.waiting

theorem goTo (h : m.Sound) {a : Nat} (ha : a ≤ 0x10FE) : (goTo m a).Sound where
  pc := by
    show (UInt16.ofNat a).toNat ≤ _
    rw [UInt16.toNat_ofNat_of_lt' (by rw [UInt16.size]; omega)]
    exact ha
  depth := h.depth
  calls := h.calls
  waiting := h.waiting

theorem goOn (h : m.Sound) (hpc : m.registers.pc.toNat ≤ 0xFFE) : (goOn m).Sound :=
  h.goTo (by omega)

theorem skip (h : m.Sound) (hpc : m.registers.pc.toNat ≤ 0xFFE) (c : Prop) [Decidable c] :
    (skip m c).Sound := by
  refine h.goTo ?_
  split <;> omega

theorem halt (h : m.Sound) : m.halt.Sound where
  pc := h.pc
  depth := h.depth
  calls := h.calls
  waiting _ e := by cases e

theorem unlisted (h : m.Sound) (hpc : m.registers.pc.toNat ≤ 0xFFE) {w : Nat}
    (hn : unlisted m w = .ok m') : m'.Sound := by
  unfold Table.unlisted at hn
  split at hn
  · cases hn
    exact h.goOn hpc
  · cases hn

theorem returned (h : m.Sound) (hn : returned m = .ok m') : m'.Sound := by
  unfold Table.returned at hn
  split at hn
  · cases hn
  next a ha =>
    cases hn
    have hmem := List.mem_of_getLast? ha
    refine ⟨?_, ?_, fun b hb => h.calls b (List.dropLast_subset _ hb), h.waiting⟩
    · have := h.calls a hmem
      show (UInt16.ofNat (a.toNat + 2)).toNat ≤ _
      rw [UInt16.toNat_ofNat_of_lt' (by rw [UInt16.size]; omega)]
      omega
    · exact CallStack.length_le _

theorem called (h : m.Sound) (hpc : m.registers.pc.toNat ≤ 0xFFE) {a : Nat} (ha : a < 4096)
    (hn : called m a = .ok m') : m'.Sound := by
  unfold Table.called at hn
  split at hn
  · cases hn
    refine ⟨(h.goTo (by omega)).pc, CallStack.length_le _, fun b hb => ?_, h.waiting⟩
    rcases List.mem_append.mp hb with hb | hb
    · exact h.calls b hb
    · rw [List.mem_singleton.mp hb]
      exact hpc
  · cases hn

theorem putAll (h : m.Sound) (hpc : m.registers.pc.toNat ≤ 0xFFE) (f : Nat → Nat) :
    (putAll m f).Sound := by
  refine (h.goOn hpc).same ?_ ?_
  · simp only [place, Table.putAll]
  · simp only [Table.putAll]

theorem put (h : m.Sound) (hpc : m.registers.pc.toNat ≤ 0xFFE) (x value : Nat) :
    (put m x value).Sound := h.putAll hpc _

theorem withDisplay (h : m.Sound) (display : Display) : { m with display }.Sound :=
  ⟨h.pc, h.depth, h.calls, h.waiting⟩

theorem withRandom (h : m.Sound) (random : RandomSource) : { m with random }.Sound :=
  ⟨h.pc, h.depth, h.calls, h.waiting⟩

theorem putCells (h : m.Sound) (hpc : m.registers.pc.toNat ≤ 0xFFE) (f : Nat → Nat) :
    (putCells m f).Sound := by
  refine (h.goOn hpc).same ?_ ?_
  · simp only [place, Table.putCells]
  · simp only [Table.putCells]

theorem putIndex (h : m.Sound) (hpc : m.registers.pc.toNat ≤ 0xFFE) (a : Nat) :
    (putIndex m a).Sound := by
  refine (h.goOn hpc).same ?_ ?_
  · simp only [place, Table.putIndex]
  · simp only [Table.putIndex]

theorem arithmetic (h : m.Sound) (hpc : m.registers.pc.toNat ≤ 0xFFE) {w : Nat}
    (hn : arithmetic m w = .ok m') : m'.Sound := by
  rw [Table.arithmetic] at hn
  split at hn
  case h_10 => exact h.unlisted hpc hn
  all_goals
    obtain rfl := Except.ok.inj hn
    exact h.putAll hpc _

theorem misc (h : m.Sound) (hpc : m.registers.pc.toNat ≤ 0xFFE) {w : Nat}
    (hn : misc m w = .ok m') : m'.Sound := by
  rw [Table.misc] at hn
  split at hn
  case h_1 =>
    obtain rfl := Except.ok.inj hn
    exact h.putAll hpc _
  case h_2 =>
    obtain rfl := Except.ok.inj hn
    have hg := h.goOn hpc
    refine ⟨hg.pc, hg.depth, hg.calls, fun r hr => ?_⟩
    obtain rfl := Status.waitingForKey.inj hr
    rw [UInt8.toNat_ofNat']
    omega
  case h_3 | h_4 =>
    obtain rfl := Except.ok.inj hn
    exact (h.goOn hpc).same rfl rfl
  case h_5 =>
    split at hn
    · obtain rfl := Except.ok.inj hn
      exact h.putIndex hpc _
    · cases hn
  case h_6 =>
    obtain rfl := Except.ok.inj hn
    exact h.putIndex hpc _
  case h_7 | h_8 =>
    split at hn
    · obtain rfl := Except.ok.inj hn
      exact h.putCells hpc _
    · cases hn
  case h_9 =>
    split at hn
    · obtain rfl := Except.ok.inj hn
      exact h.putAll hpc _
    · cases hn
  case h_10 => exact h.unlisted hpc hn

theorem drawn (h : m.Sound) (hpc : m.registers.pc.toNat ≤ 0xFFE) {left top n : Nat}
    (hn : drawn m left top n = .ok m') : m'.Sound := by
  rw [Table.drawn] at hn
  split at hn
  · obtain rfl := Except.ok.inj hn
    exact (h.put hpc _ _).withDisplay _
  · cases hn

theorem cleared (h : m.Sound) (hpc : m.registers.pc.toNat ≤ 0xFFE) : (cleared m).Sound := by
  refine (h.goOn hpc).same ?_ ?_
  · simp only [place, Table.cleared]
  · simp only [Table.cleared]

/-- **A row of the table keeps the bounds**, whatever word it is for. -/
theorem next (h : m.Sound) (hpc : m.registers.pc.toNat ≤ 0xFFE) {w : Nat}
    (hn : next m w = .ok m') : m'.Sound := by
  rw [Table.next] at hn
  split at hn
  case h_1 =>
    split at hn
    · obtain rfl := Except.ok.inj hn
      exact h.cleared hpc
    · split at hn
      · exact h.returned hn
      · exact h.unlisted hpc hn
  case h_2 =>
    obtain rfl := Except.ok.inj hn
    exact h.goTo (by omega)
  case h_3 => exact h.called hpc (by omega) hn
  case h_4 | h_5 =>
    obtain rfl := Except.ok.inj hn
    exact h.skip hpc _
  case h_6 | h_10 =>
    split at hn
    · obtain rfl := Except.ok.inj hn
      exact h.skip hpc _
    · exact h.unlisted hpc hn
  case h_7 | h_8 =>
    obtain rfl := Except.ok.inj hn
    exact h.putAll hpc _
  case h_9 => exact h.arithmetic hpc hn
  case h_11 =>
    obtain rfl := Except.ok.inj hn
    exact h.putIndex hpc _
  case h_12 =>
    obtain rfl := Except.ok.inj hn
    have hv := v_lt m 0
    exact h.goTo (by omega)
  case h_13 =>
    obtain rfl := Except.ok.inj hn
    exact (h.put hpc _ _).withRandom _
  case h_14 => exact h.drawn hpc hn
  case h_15 =>
    split at hn
    · obtain rfl := Except.ok.inj hn
      exact h.skip hpc _
    · split at hn
      · obtain rfl := Except.ok.inj hn
        exact h.skip hpc _
      · exact h.unlisted hpc hn
  case h_16 => exact h.misc hpc hn

/-! ## 3. One step -/

theorem poll (h : m.Sound) (r : Reg) : (m.poll r).1.Sound := by
  obtain ⟨baseline, ⟨-, e⟩ | ⟨key, -, _, e⟩ | ⟨-, f, e⟩⟩ := m.poll_cases r
  · rw [e]
    exact h.same rfl rfl
  · rw [e]
    exact ⟨h.pc, h.depth, h.calls, fun _ e => by cases e⟩
  · rw [e]
    exact ⟨h.pc, h.depth, h.calls, fun _ e => by cases e⟩

/-- **A step keeps the bounds**, whatever memory holds. -/
theorem step (h : m.Sound) : m.step.1.Sound := by
  cases hs : m.status with
  | halted =>
    rw [Machine.step, hs]
    exact h
  | waitingForKey r =>
    rw [Machine.step, hs]
    exact h.poll r
  | running =>
    by_cases hpc : m.registers.pc.toNat ≤ 0xFFE
    · rcases step_of_running m hs hpc with ⟨m', hn, -, hm⟩ | ⟨c, m', -, he, hm⟩
      · rw [hm]
        exact h.next hpc hn
      · rw [hm]
        -- A refused instruction may have written registers and cells, but nothing bounded here.
        have hp := keepsRefused_effect m.registers.pc _ _ _ _ he
        rw [advance_eq] at hp
        have hg := h.goOn hpc
        obtain ⟨hpc', hst⟩ := Prod.mk.inj hp
        refine ⟨?_, ?_, ?_, fun _ e => by cases e⟩
        · show m'.registers.pc.toNat ≤ _
          rw [hpc']
          exact hg.pc
        · exact CallStack.length_le _
        · show ∀ a ∈ m'.registers.stack.entries, _
          rw [hst]
          exact hg.calls
    · rw [step_of_out m hs (by omega)]
      exact h.halt

end Sound

/-! ## 4. What a step does without a check -/

/-- Nothing slips in the step that the machine is about to make: no sum of 16 bits wraps, and no
    index that is used without a check leaves its array. -/
structure Tame (m : Machine) : Prop where
  /-- The program counter moves past the instruction, -/
  advance : m.advance.registers.pc.toNat = m.registers.pc.toNat + 2
  /-- past the next one as well, -/
  skip : m.advance.advance.registers.pc.toNat = m.registers.pc.toNat + 4
  /-- and past every call that can be returned to. -/
  ret : ∀ a ∈ m.registers.stack.entries, a.next.toNat = a.toNat + 2
  /-- The registers that the word names. -/
  operands : (decode (.ofNat (word m))).Ranged
  /-- The target of a `BNNN`. -/
  target : ∀ a b, decode (.ofNat (word m)) = .jumpAdd a → m.registers.get 0 = .ok b →
    (a + b.toUInt16).toNat = a.toNat + b.toNat
  /-- The address of a glyph. -/
  glyph : ∀ x b, decode (.ofNat (word m)) = .spriteAddr x → m.registers.get x = .ok b →
    (b.toUInt16 * glyphSize).toNat = b.toNat * glyphSize.toNat
  /-- The columns and rows of a sprite before they wrap around the screen. -/
  sprite : ∀ x y rows left top, decode (.ofNat (word m)) = .draw x y rows →
    m.registers.get x = .ok left → m.registers.get y = .ok top →
    (∀ c < 8, left.toNat + c < 65536) ∧ (∀ r < rows.toNat, top.toNat + r < 65536)
  /-- Its pixels. -/
  pixels : ∀ left top rows, ∀ p ∈ spriteCells left top rows,
    p.x.val < screenWidth ∧ p.y.val < screenHeight
  /-- Its cells in memory, once their range was checked. -/
  cells : ∀ n : Nat, Memory.checkRange m.registers.i.toNat n = .ok () →
    m.registers.i.toNat + n ≤ memorySize
  /-- The register of flags. -/
  flag : Registers.flagRegister.toNat < registerCount
  /-- The register that waits for a key. -/
  poll : ∀ r, m.status = .waitingForKey r → ∃ key, m.step.2 = .polled r key

theorem checkRange_ok {a n : Nat} (h : Memory.checkRange a n = .ok ()) : a + n ≤ memorySize := by
  unfold Memory.checkRange at h
  split at h
  · cases h
  · split at h
    next hle => exact hle
    · cases h

/-- **Within the bounds nothing slips.** -/
theorem Sound.tame {m : Machine} (h : m.Sound) : m.Tame where
  advance := by
    have := h.pc
    show m.registers.pc.next.toNat = _
    rw [Word.toNat_next]
    omega
  skip := by
    have := h.pc
    show m.registers.pc.next.next.toNat = _
    rw [Word.toNat_next, Word.toNat_next]
    omega
  ret a ha := by
    have := h.calls a ha
    rw [Word.toNat_next]
    omega
  operands := ranged_decode _
  target a b hd _ := by
    have ha := ranged_decode (.ofNat (word m))
    rw [hd] at ha
    have ha : a.toNat < 4096 := ha
    have hb := b.toNat_lt
    rw [UInt16.toNat_add, UInt8.toNat_toUInt16]
    omega
  glyph x b _ _ := by
    have hb := b.toNat_lt
    rw [UInt16.toNat_mul, UInt8.toNat_toUInt16, toNat_glyphSize]
    omega
  sprite x y rows left top hd _ _ := by
    have hr := ranged_decode (.ofNat (word m))
    rw [hd] at hr
    have hr : rows.toNat < 16 := hr.2.2
    have hl := left.toNat_lt
    have ht := top.toNat_lt
    exact ⟨fun c hc => by omega, fun r hr => by omega⟩
  pixels left top rows p _ := ⟨p.x.isLt, p.y.isLt⟩
  cells n hn := checkRange_ok hn
  flag := by decide
  poll r hr := by
    obtain ⟨key, hk⟩ := m.poll_polled (Nat.lt_succ_of_le (h.waiting r hr))
    rw [Machine.step, hr]
    exact ⟨key, hk⟩

end Machine

/-! ## 5. Schedules -/

/-- The operations that leave the program counter to the program. -/
def Operation.Guarded : Operation → Prop
  | .setPc _ | .execute _ => False
  | _ => True

namespace Console

theorem stable_sound : Stable fun c => c.machine.Sound where
  step c h := by
    rw [machine_step]
    exact h.step
  tick c h := ⟨h.pc, h.depth, h.calls, h.waiting⟩

theorem sound_loadProgram {c : Console} (h : c.machine.Sound) (program : List Byte) :
    (c.loadProgram program).1.machine.Sound := by
  obtain ⟨memory, e⟩ := machine_loadProgram c program
  rw [e]
  exact ⟨h.pc, h.depth, h.calls, h.waiting⟩

theorem sound_setRegister {c : Console} (h : c.machine.Sound) (r : Reg) (b : Byte) :
    (c.setRegister r b).1.machine.Sound := by
  obtain ⟨v, e⟩ := machine_setRegister c r b
  rw [e]
  exact ⟨h.pc, h.depth, h.calls, h.waiting⟩

theorem sound_setKey {c : Console} (h : c.machine.Sound) (key : Byte) (down : Bool) :
    (c.setKey key down).1.machine.Sound := by
  obtain ⟨keypad, e⟩ := machine_setKey c key down
  rw [e]
  exact ⟨h.pc, h.depth, h.calls, h.waiting⟩

/-- **Every operation but two keeps the bounds.** -/
theorem sound_perform {c : Console} (h : c.machine.Sound) {o : Operation} (ho : o.Guarded) :
    (c.perform o).1.machine.Sound := by
  cases o with
  | step times => exact stable_sound.steps times c h
  | execute ins => exact ho.elim
  | runFrames frames cycles => exact stable_sound.runFrames _ frames c h
  | loadProgram program => exact sound_loadProgram h program
  | setPc a => exact ho.elim
  | setRegister r b => exact sound_setRegister h r b
  | tick times => exact stable_sound.ticks times c h
  | key key down => exact sound_setKey h key down
  | halt => exact h.halt
  | cyclesPerFrame | getRegister r | setObserver o => exact h
  | _ => exact ⟨h.pc, h.depth, h.calls, h.waiting⟩

theorem sound_performAll {c : Console} (h : c.machine.Sound) {os : List Operation}
    (hos : ∀ o ∈ os, o.Guarded) : (c.performAll os).1.machine.Sound :=
  performAll_keeps (P := fun c => c.machine.Sound) os
    (fun o ho _ hc => sound_perform hc (hos o ho)) c h

/-- A new machine is within the bounds, whatever its memory holds. -/
theorem sound_new (memory : Memory) : ({ memory } : Machine).Sound where
  pc := by
    show programStart.toNat ≤ _
    decide
  depth := Nat.zero_le _
  calls := List.forall_mem_nil _
  waiting _ e := by cases e

/-- A program that fits is put into a new machine. -/
theorem withProgram_ok {program : List Byte} (h : program.length ≤ 0xE00) (pace : Pace) :
    ∃ start, withProgram program pace = .ok start ∧ start.machine.Sound := by
  obtain ⟨m, hload, hcarries⟩ := Machine.loadProgram_of_le {} h
  have hnew : Machine.withProgram program = .ok m := hload
  refine ⟨_, by rw [withProgram, hnew], ?_⟩
  show m.Sound
  rw [hcarries.frame]
  exact sound_new m.memory

/-- **However a machine is used, it stays within its bounds and no step of it slips**, as long as
    neither the program counter is set from outside nor an instruction is executed directly. -/
theorem sound_of_schedule {program : List Byte} (hlen : program.length ≤ 0xE00) (pace : Pace) :
    ∃ start, withProgram program pace = .ok start ∧
      ∀ os : List Operation, (∀ o ∈ os, o.Guarded) →
        (start.performAll os).1.machine.Sound ∧
        ∀ o : Operation, o.Guarded → ∀ d ∈ (start.performAll os).1.starts o,
          d.machine.Sound ∧ d.machine.Tame := by
  obtain ⟨start, hw, hs⟩ := withProgram_ok hlen pace
  refine ⟨start, hw, fun os hos => ?_⟩
  have h := sound_performAll hs hos
  refine ⟨h, fun o _ d hd => ?_⟩
  have hd := stable_sound.starts o _ h d hd
  exact ⟨hd, hd.tame⟩

/-- A program that jumps as far as it can, `BFFF` with 255 in V0, after two frames in which it
    leaves memory, and with a key pressed. -/
theorem sound_far_jump : [0x60, 0xFF, 0xBF, 0xFF].length ≤ 0xE00 ∧
    ∃ start, withProgram [0x60, 0xFF, 0xBF, 0xFF] {} = .ok start ∧
      (start.performAll [.runFrames 2 (some 2), .key 7 true]).1.machine.Sound ∧
      (start.performAll [.runFrames 2 (some 2), .key 7 true]).1.machine.Tame := by
  have hlen : ([0x60, 0xFF, 0xBF, 0xFF] : List Byte).length ≤ 0xE00 := by decide
  obtain ⟨start, hw, hs⟩ := sound_of_schedule hlen {}
  obtain ⟨h, ht⟩ := hs [.runFrames 2 (some 2), .key 7 true] (by simp [Operation.Guarded])
  exact ⟨hlen, start, hw, h, (ht (.step 1) trivial _ (.head _)).2⟩

end Console

end Chip8
