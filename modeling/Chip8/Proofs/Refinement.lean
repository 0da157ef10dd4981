/-
  File:      Chip8/Proofs/Refinement.lean
  Subject:   The machine follows the opcode table.

  The effect of a decoded word, access by access, ends exactly as the row of the word says:

  * sections 1 and 2: what one access does to a machine that the table has written
    (`writeReg_putAll`, `writeMem_putCells`, …), and what a loop of accesses does (`each_ok`,
    `each_error`);
  * sections 3 to 5: the rows, one lemma per form of instruction, and `load_refused`: what a
    refused load leaves;
  * `ending_effect_decode`: all words;
  * `step_of_running`, `step_of_next`, `step_eq_next`: a step, with the fetch in front.
-/
import Chip8.Machine.Step
import Chip8.Proofs.Table

namespace Chip8

namespace Table

open Effect Instruction

/-! ## 1. Accesses -/

/-- How an effect ended: with a machine or refused. What a refused effect had done by then is
    left out. -/
def ending : EStateM.Result Cause Machine Unit → Except Cause Machine
  | .ok () m => .ok m
  | .error c _ => .error c

theorem v_eq (m : Machine) {k : Nat} (h : k < registerCount) :
    v m k = m.registers.v[k].toNat := by
  rw [v, Vector.getElem?_eq_getElem h, Option.getD_some]

theorem v_lt (m : Machine) (k : Nat) : v m k < 256 := UInt8.toNat_lt _

theorem cell_eq (m : Machine) {a : Nat} (h : a < memorySize) :
    cell m a = m.memory.cells[a].toNat := by
  rw [cell, Vector.getElem?_eq_getElem h, Option.getD_some]

theorem next_eq (a : Word) : a.next = .ofNat (a.toNat + 2) := by
  rw [← UInt16.toNat_inj, Word.toNat_next, UInt16.toNat_ofNat']

theorem advance_eq (m : Machine) : m.advance = goOn m := by
  rw [Machine.advance, next_eq]
  rfl

/-- Two ways to fill the registers agree if they agree on the sixteen there are. -/
theorem putAll_congr (m : Machine) {f g : Nat → Nat} (h : ∀ k < registerCount, f k = g k) :
    putAll m f = putAll m g := by
  have e : (Vector.ofFn fun k : Fin registerCount => UInt8.ofNat (f k)) =
      .ofFn fun k : Fin registerCount => UInt8.ofNat (g k) := by
    congr 1
    funext k
    rw [h k k.isLt]
  rw [putAll, e]
  rfl

theorem putCells_congr (m : Machine) {f g : Nat → Nat} (h : ∀ a < memorySize, f a = g a) :
    putCells m f = putCells m g := by
  have e : (Vector.ofFn fun a : Fin memorySize => UInt8.ofNat (f a)) =
      .ofFn fun a : Fin memorySize => UInt8.ofNat (g a) := by
    congr 1
    funext a
    rw [h a a.isLt]
  rw [putCells, e, putCells]

theorem cell_lt (m : Machine) (a : Nat) : cell m a < 256 := UInt8.toNat_lt _

theorem cell_of_le (m : Machine) {a : Nat} (h : 4096 ≤ a) : cell m a = 0 := by
  rw [cell, Vector.getElem?_eq_none h]
  rfl

theorem toNat_v (m : Machine) (k : Nat) : (UInt8.ofNat (v m k)).toNat = v m k :=
  UInt8.toNat_ofNat_of_lt' (v_lt m k)

theorem toNat_cell (m : Machine) (a : Nat) : (UInt8.ofNat (cell m a)).toNat = cell m a :=
  UInt8.toNat_ofNat_of_lt' (cell_lt m a)

theorem v_putAll (m : Machine) {f : Nat → Nat} {k : Nat} (hk : k < registerCount)
    (hf : f k < 256) : v (putAll m f) k = f k := by
  have e : (putAll m f).registers.v[k] = .ofNat (f k) := by rw [putAll, Vector.getElem_ofFn]
  rw [v_eq _ hk, e]
  exact UInt8.toNat_ofNat_of_lt' hf

theorem cell_putCells (m : Machine) {f : Nat → Nat} {a : Nat} (ha : a < memorySize)
    (hf : f a < 256) : cell (putCells m f) a = f a := by
  have e : (putCells m f).memory.cells[a] = .ofNat (f a) := by
    rw [putCells, Vector.getElem_ofFn]
  rw [cell_eq _ ha, e]
  exact UInt8.toNat_ofNat_of_lt' hf

theorem memory_putAll (m : Machine) (f : Nat → Nat) : (putAll m f).memory = m.memory := by
  simp only [putAll, goOn, goTo]

theorem index_putAll (m : Machine) (f : Nat → Nat) :
    (putAll m f).registers.i = m.registers.i := by
  simp only [putAll, goOn, goTo]

theorem v_put (m : Machine) (x value : Nat) {k : Nat} (hk : k < registerCount)
    (hvalue : value < 256) : v (put m x value) k = if k = x then value else v m k := by
  refine v_putAll m hk ?_
  split
  · exact hvalue
  · exact v_lt m k

theorem memory_put (m : Machine) (x value : Nat) : (put m x value).memory = m.memory := by
  rw [put, memory_putAll]

theorem index_put (m : Machine) (x value : Nat) : (put m x value).registers.i = m.registers.i := by
  rw [put, index_putAll]

theorem putAll_v (m : Machine) : putAll m (v m) = goOn m := by
  have e : (Vector.ofFn fun k : Fin registerCount => UInt8.ofNat (v m k)) = m.registers.v := by
    refine Vector.ext fun k hk => ?_
    rw [Vector.getElem_ofFn, v_eq m hk, UInt8.ofNat_toNat]
  rw [putAll, e]
  rfl

theorem putCells_cell (m : Machine) : putCells m (cell m) = goOn m := by
  have e : (Vector.ofFn fun a : Fin memorySize => UInt8.ofNat (cell m a)) = m.memory.cells := by
    refine Vector.ext fun a ha => ?_
    rw [Vector.getElem_ofFn, cell_eq m ha, UInt8.ofNat_toNat]
  rw [putCells, e]
  rfl

/-- Setting one register afterwards is filling the registers otherwise. -/
theorem set_putAll (m : Machine) (f : Nat → Nat) {x : Nat} (b : Byte) (h : x < registerCount) :
    { putAll m f with registers :=
      { (putAll m f).registers with v := (putAll m f).registers.v.set x b } } =
    putAll m fun k => if k = x then b.toNat else f k := by
  have e : (putAll m f).registers.v.set x b =
      .ofFn fun k : Fin registerCount => UInt8.ofNat (if k = x then b.toNat else f k) := by
    refine Vector.ext fun k hk => ?_
    rw [Vector.getElem_set, Vector.getElem_ofFn]
    by_cases hx : x = k
    · rw [if_pos hx, if_pos hx.symm, UInt8.ofNat_toNat]
    · rw [if_neg hx, if_neg (Ne.symm hx), putAll, Vector.getElem_ofFn]
  rw [e]
  rfl

theorem writeReg_putAll (m : Machine) (f : Nat → Nat) {x : Reg} (b : Byte)
    (h : x.toNat < registerCount) :
    writeReg x b (putAll m f) =
      .ok () (putAll m fun k => if k = x.toNat then b.toNat else f k) := by
  rw [writeReg_of_lt _ _ h, set_putAll]

theorem writeFlag_putAll (m : Machine) (f : Nat → Nat) (flag : Bool) :
    writeFlag flag (putAll m f) =
      .ok () (putAll m fun k => if k = 0xF then flag.toNat else f k) := by
  have e : (if flag then 1 else 0 : Byte).toNat = flag.toNat := by cases flag <;> rfl
  rw [writeFlag, Registers.setFlag, set_putAll m f _ (by decide), e]

theorem writeMem_putCells (m : Machine) (f : Nat → Nat) {a : Nat} (b : Byte)
    (h : a < memorySize) :
    writeMem a b (putCells m f) =
      .ok () (putCells m fun j => if j = a then b.toNat else f j) := by
  have e : (putCells m f).memory.cells.set a b =
      .ofFn fun j : Fin memorySize => UInt8.ofNat (if j = a then b.toNat else f j) := by
    refine Vector.ext fun j hj => ?_
    rw [Vector.getElem_set, Vector.getElem_ofFn]
    by_cases ha : a = j
    · rw [if_pos ha, if_pos ha.symm, UInt8.ofNat_toNat]
    · rw [if_neg ha, if_neg (Ne.symm ha), putCells, Vector.getElem_ofFn]
  rw [writeMem_of_lt _ _ h, e]
  rfl

theorem readReg_goOn (m : Machine) {x : Reg} (h : x.toNat < registerCount) :
    readReg x (goOn m) = .ok (.ofNat (v m x.toNat)) (goOn m) := by
  rw [readReg_of_lt _ h, v_eq m h, UInt8.ofNat_toNat]
  rfl

theorem readReg_putCells (m : Machine) (f : Nat → Nat) {x : Reg} (h : x.toNat < registerCount) :
    readReg x (putCells m f) = .ok (.ofNat (v m x.toNat)) (putCells m f) := by
  rw [readReg_of_lt _ h, v_eq m h, UInt8.ofNat_toNat]
  rfl

theorem readMem_putAll (m : Machine) (f : Nat → Nat) {a : Nat} (h : a < memorySize) :
    readMem a (putAll m f) = .ok (.ofNat (cell m a)) (putAll m f) := by
  rw [readMem_of_lt _ h, cell_eq m h, UInt8.ofNat_toNat]
  rfl

theorem writeReg_goOn (m : Machine) {x : Reg} (b : Byte) (h : x.toNat < registerCount) :
    writeReg x b (goOn m) = .ok () (put m x.toNat b.toNat) := by
  rw [← putAll_v, writeReg_putAll m _ b h, put]

theorem writeFlagged_goOn (m : Machine) {x : Reg} (b : Byte) (flag : Bool)
    (h : x.toNat < registerCount) :
    writeFlagged x b flag (goOn m) = .ok () (putFlagged m x.toNat b.toNat flag.toNat) := by
  rw [writeFlagged, run_bind, ← putAll_v, writeFlag_putAll]
  exact writeReg_putAll m _ b h

theorem jumpTo_goOn (m : Machine) (a : Word) : jumpTo a (goOn m) = .ok () (goTo m a.toNat) := by
  rw [goTo, UInt16.ofNat_toNat]
  rfl

theorem skipIf_goOn (m : Machine) (c : Prop) [Decidable c] :
    skipIf (decide c) (goOn m) = .ok () (skip m c) := by
  rw [skipIf, skip]
  by_cases h : c
  · have e : (goOn m).registers.pc.next = .ofNat (m.registers.pc.toNat + 4) := by
      rw [← UInt16.toNat_inj, Word.toNat_next, UInt16.toNat_ofNat', goOn, goTo,
        UInt16.toNat_ofNat']
      omega
    rw [decide_eq_true h, if_pos rfl, if_pos h, e]
    rfl
  · rw [decide_eq_false h, if_neg Bool.false_ne_true, if_neg h]
    rfl

theorem setIndex_goOn (m : Machine) (a : Word) :
    setIndex a (goOn m) = .ok () (putIndex m a.toNat) := by
  rw [putIndex, UInt16.ofNat_toNat]
  rfl

/-! ## 2. Sequences and loops -/

theorem run_bind_ok {α β : Type} {e : Effect α} {a : α} {m m' : Machine} (h : e m = .ok a m')
    (f : α → Effect β) : (e >>= f) m = f a m' := by
  rw [run_bind, h]

theorem run_bind_error {α β : Type} {e : Effect α} {c : Cause} {m m' : Machine}
    (h : e m = .error c m') (f : α → Effect β) : (e >>= f) m = .error c m' := by
  rw [run_bind, h]

/-- A loop whose turns lead from each machine of a sequence to the next. -/
theorem each_ok {f : Nat → Effect Unit} (s : Nat → Machine) {n : Nat}
    (h : ∀ k < n, f k (s k) = .ok () (s (k + 1))) : each n f (s 0) = .ok () (s n) := by
  induction n with
  | zero => rfl
  | succ n ih =>
    rw [each_succ, run_bind_ok (ih fun k hk => h k (by omega))]
    exact h n (by omega)

/-- A loop ends with the first turn that is refused. -/
theorem each_error {f : Nat → Effect Unit} (s : Nat → Machine) {c : Cause} {n k : Nat}
    (h : ∀ j < k, f j (s j) = .ok () (s (j + 1))) (hk : k < n) (hc : f k (s k) = .error c (s k)) :
    each n f (s 0) = .error c (s k) := by
  induction n with
  | zero => omega
  | succ n ih =>
    rw [each_succ]
    rcases Nat.lt_succ_iff_lt_or_eq.mp hk with hlt | rfl
    · exact run_bind_error (ih hlt) _
    · rw [run_bind_ok (each_ok s h)]
      exact hc

theorem run_read (m : Machine) {x : Reg} (h : x.toNat < registerCount) (f : Byte → Effect Unit) :
    (readReg x >>= f) (goOn m) = f (.ofNat (v m x.toNat)) (goOn m) :=
  run_bind_ok (readReg_goOn m h) f

/-! ## 3. Arithmetic -/

theorem toNat_decide (c : Prop) [Decidable c] : (decide c).toNat = if c then 1 else 0 := by
  by_cases h : c
  · rw [decide_eq_true h, if_pos h]
    rfl
  · rw [decide_eq_false h, if_neg h]
    rfl

/-- A byte that holds one bit, read as a flag. -/
theorem toNat_beq_one {b : Byte} (h : b.toNat < 2) : (b == 1).toNat = b.toNat := by
  have e : (b == 1) = decide (b.toNat = 1) := by
    rw [beq_eq_decide]
    exact decide_eq_decide.mpr UInt8.toNat_inj.symm
  rw [e, toNat_decide]
  split <;> omega

theorem toNat_lowest (a : Byte) : (a &&& 1 == 1).toNat = a.toNat % 2 := by
  have e : (a &&& 1).toNat = a.toNat % 2 := by
    rw [UInt8.toNat_and]
    exact Nat.and_two_pow_sub_one_eq_mod a.toNat 1
  rw [toNat_beq_one (by omega), e]

theorem toNat_highest (a : Byte) : (a >>> 7 == 1).toNat = a.toNat / 128 := by
  have ha := a.toNat_lt
  have e : (a >>> 7).toNat = a.toNat / 128 := by
    rw [UInt8.toNat_shiftRight]
    exact Nat.shiftRight_eq_div_pow a.toNat 7
  rw [toNat_beq_one (by omega), e]

theorem toNat_shiftRight_one (a : Byte) : (a >>> 1).toNat = a.toNat / 2 := by
  rw [UInt8.toNat_shiftRight]
  exact Nat.shiftRight_eq_div_pow a.toNat 1

theorem toNat_shiftLeft_one (a : Byte) : (a <<< 1).toNat = a.toNat * 2 % 256 := by
  rw [UInt8.toNat_shiftLeft]
  show a.toNat <<< 1 % 256 = _
  rw [Nat.shiftLeft_eq]

theorem toNat_sub (a b : Byte) : (a - b).toNat = (a.toNat + 256 - b.toNat) % 256 := by
  have hb := b.toNat_lt
  rw [UInt8.toNat_sub]
  omega

/-- A word outside the table. -/
theorem ending_unknown (m : Machine) (here w : Word) :
    ending ((unknown w).effect here (goOn m)) = unlisted m w.toNat := by
  have hp : (goOn m).policy = m.policy := rfl
  rw [effect, unknownEffect, unlisted, run_bind_ok (run_get _)]
  rw [hp]
  cases m.policy with
  | permissive => rfl
  | strict =>
    rw [UInt16.ofNat_toNat]
    rfl

/-- **The `8XY_` family.** Operands are read first. The flag is written next and the result
    last, as in `putFlagged`. -/
theorem ending_arithmetic (m : Machine) (here w : Word) :
    ending ((decodeArithmetic w).effect here (goOn m)) = arithmetic m w.toNat := by
  have hx : w.x.toNat < registerCount := Word.x_lt w
  have hy : w.y.toNat < registerCount := Word.y_lt w
  simp only [decodeArithmetic, arithmetic]
  rw [← Word.toNat_n, ← Word.toNat_x, ← Word.toNat_y]
  generalize w.n.toNat = d
  split
  -- One row a digit: what the table asks for is named first, then computed.
  · show ending _ = .ok (put m w.x.toNat (v m w.y.toNat))
    rw [effect, run_read m hy, writeReg_goOn m _ hx, ending, toNat_v]
  · show ending _ = .ok (put m w.x.toNat (v m w.x.toNat ||| v m w.y.toNat))
    rw [effect, run_read m hx, run_read m hy, writeReg_goOn m _ hx, ending, UInt8.toNat_or,
      toNat_v, toNat_v]
  · show ending _ = .ok (put m w.x.toNat (v m w.x.toNat &&& v m w.y.toNat))
    rw [effect, run_read m hx, run_read m hy, writeReg_goOn m _ hx, ending, UInt8.toNat_and,
      toNat_v, toNat_v]
  · show ending _ = .ok (put m w.x.toNat (v m w.x.toNat ^^^ v m w.y.toNat))
    rw [effect, run_read m hx, run_read m hy, writeReg_goOn m _ hx, ending, UInt8.toNat_xor,
      toNat_v, toNat_v]
  · rw [effect, run_read m hx, run_read m hy, writeFlagged_goOn m _ _ hx, ending, UInt8.toNat_add,
      toNat_v, toNat_v, toNat_decide]
    rfl
  · rw [effect, run_read m hx, run_read m hy, writeFlagged_goOn m _ _ hx, ending, toNat_sub,
      toNat_decide]
    simp only [UInt8.le_iff_toNat_le, toNat_v]
  · show ending _ = .ok (putFlagged m w.x.toNat (v m w.x.toNat / 2) (v m w.x.toNat % 2))
    rw [effect, run_read m hx, writeFlagged_goOn m _ _ hx, ending, toNat_shiftRight_one,
      toNat_lowest, toNat_v]
  · rw [effect, run_read m hx, run_read m hy, writeFlagged_goOn m _ _ hx, ending, toNat_sub,
      toNat_decide]
    simp only [UInt8.le_iff_toNat_le, toNat_v]
  · show ending _ = .ok (putFlagged m w.x.toNat (v m w.x.toNat * 2 % 256) (v m w.x.toNat / 128))
    rw [effect, run_read m hx, writeFlagged_goOn m _ _ hx, ending, toNat_shiftLeft_one,
      toNat_highest, toNat_v]
  · simp only [ending_unknown, *]

/-! ## 4. Keys, memory and the screen -/

theorem isHeld_eq (m : Machine) (k : Nat) :
    m.keypad.isHeld (.ofNat (v m k)) = decide (Held m (v m k)) := by
  rw [Keypad.isHeld, toNat_v]
  by_cases h : Held m (v m k)
  · rw [decide_eq_true h, h, Option.getD_some]
  · rw [decide_eq_false h]
    cases e : m.keypad.down[v m k]? with
    | none => rw [Option.getD_none]
    | some b =>
      cases b with
      | true => exact absurd e h
      | false => rfl

/-- **The `EX__` family.** -/
theorem ending_key (m : Machine) (here w : Word) :
    ending ((decodeKey w).effect here (goOn m)) =
      if w.nn.toNat = 0x9E then .ok (skip m (Held m (v m w.x.toNat)))
      else if w.nn.toNat = 0xA1 then .ok (skip m (¬ Held m (v m w.x.toNat)))
      else unlisted m w.toNat := by
  have hx : w.x.toNat < registerCount := Word.x_lt w
  unfold decodeKey
  split
  next e =>
    rw [if_pos e, effect, run_read m hx, run_bind_ok (run_get _)]
    show ending (skipIf (m.keypad.isHeld (.ofNat (v m w.x.toNat))) (goOn m)) = _
    rw [isHeld_eq, skipIf_goOn, ending]
  next e =>
    rw [if_neg (by omega), if_pos e, effect, run_read m hx, run_bind_ok (run_get _)]
    show ending (skipIf (!m.keypad.isHeld (.ofNat (v m w.x.toNat))) (goOn m)) = _
    rw [isHeld_eq, ← decide_not, skipIf_goOn, ending]
  next h h' => rw [if_neg h, if_neg h', ending_unknown]

/-- A loop over consecutive cells is refused at the first one that does not exist. What it did
    with those before stays. -/
theorem each_refused {f : Nat → Effect Unit} (s : Nat → Machine) {a n : Nat}
    (h : ∀ k ≤ n, f k (s k) =
      if a + k < 4096 then .ok () (s (k + 1)) else .error (.outOfBounds (a + k)) (s k))
    (hn : 4095 < a + n) :
    each (n + 1) f (s 0) = .error (.outOfBounds (max a 4096)) (s (4096 - a)) := by
  -- Turn `4096 - a` is the first refused: the one at the end of memory, or at `a` beyond it.
  have e : a + (4096 - a) = max a 4096 := by omega
  have hc : f (4096 - a) (s (4096 - a)) = .error (.outOfBounds (max a 4096)) (s (4096 - a)) := by
    rw [h _ (by omega), if_neg (by omega), e]
  refine each_error s (fun j hj => ?_) (by omega) hc
  rw [h j (by omega), if_pos (by omega)]

/-- **A loop over consecutive cells finishes, or is refused at the end of memory.** -/
theorem ending_each {f : Nat → Effect Unit} (s : Nat → Machine) {a n : Nat}
    (h : ∀ k ≤ n, f k (s k) =
      if a + k < 4096 then .ok () (s (k + 1)) else .error (.outOfBounds (a + k)) (s k)) :
    ending (each (n + 1) f (s 0)) =
      if a + n ≤ 4095 then .ok (s (n + 1)) else .error (.outOfBounds (max a 4096)) := by
  by_cases hn : a + n ≤ 4095
  · rw [if_pos hn, each_ok s fun k hk => ?_, ending]
    rw [h k (by omega), if_pos (by omega)]
  · rw [if_neg hn, each_refused s h (by omega), ending]

/-- The machine with values in the first `k` cells from the index register on. -/
def filled (m : Machine) (values : Nat → Nat) (k : Nat) : Machine :=
  putCells m fun j =>
    if m.registers.i.toNat ≤ j ∧ j < m.registers.i.toNat + k then values (j - m.registers.i.toNat)
    else cell m j

theorem filled_zero (m : Machine) (values : Nat → Nat) : filled m values 0 = goOn m := by
  rw [← putCells_cell]
  refine putCells_congr m fun j _ => ?_
  rw [if_neg (by omega)]

/-- The next cell is written, if there is one. -/
theorem writeMem_filled (m : Machine) (values : Nat → Nat) (k : Nat) {b : Byte}
    (hb : b.toNat = values k) :
    writeMem (m.registers.i.toNat + k) b (filled m values k) =
      if m.registers.i.toNat + k < 4096 then .ok () (filled m values (k + 1))
      else .error (.outOfBounds (m.registers.i.toNat + k)) (filled m values k) := by
  by_cases h : m.registers.i.toNat + k < 4096
  · rw [if_pos h, filled, writeMem_putCells m _ _ h, hb, filled]
    refine congrArg (EStateM.Result.ok ()) (putCells_congr m fun j _ => ?_)
    by_cases hj : j = m.registers.i.toNat + k
    · rw [if_pos hj, if_pos (by omega), hj, Nat.add_sub_cancel_left]
    · rw [if_neg hj]
      exact if_congr (by omega) rfl rfl
  · rw [if_neg h, writeMem_of_le _ _ (Nat.le_of_not_lt h)]

/-- One turn of the loop of `FX55`. -/
def storeTurn (a k : Nat) : Effect Unit := do
  let b ← readReg (UInt8.ofNat k)
  writeMem (a + k) b

/-- The machine after `k` turns of it. -/
def stored (m : Machine) (k : Nat) : Machine :=
  putCells m fun j =>
    if m.registers.i.toNat ≤ j ∧ j < m.registers.i.toNat + k then v m (j - m.registers.i.toNat)
    else cell m j

theorem stored_eq (m : Machine) (k : Nat) : stored m k = filled m (v m) k := by
  rw [stored, filled]

theorem stored_zero (m : Machine) : stored m 0 = goOn m := by rw [stored_eq, filled_zero]

theorem storeTurn_stored (m : Machine) {k : Nat} (hk : k < 16) :
    storeTurn m.registers.i.toNat k (stored m k) =
      if m.registers.i.toNat + k < 4096 then .ok () (stored m (k + 1))
      else .error (.outOfBounds (m.registers.i.toNat + k)) (stored m k) := by
  have e : (UInt8.ofNat k).toNat = k := UInt8.toNat_ofNat_of_lt' (by rw [UInt8.size]; omega)
  have hr : readReg (UInt8.ofNat k) (stored m k) = .ok (.ofNat (v m k)) (stored m k) := by
    rw [stored, readReg_putCells m _ (by rw [e]; exact hk), e]
  rw [storeTurn, run_bind_ok hr, stored_eq, stored_eq, writeMem_filled m _ k (toNat_v m k)]

theorem store_goOn (m : Machine) (here : Word) (x : Reg) :
    (storeRegisters x).effect here (goOn m) =
      each (x.toNat + 1) (storeTurn m.registers.i.toNat) (stored m 0) := by
  rw [effect, storeEffect, run_bind_ok (run_get _), stored_zero]
  rfl

theorem ending_store (m : Machine) (here : Word) {x : Reg} (hx : x.toNat < 16) :
    ending ((storeRegisters x).effect here (goOn m)) =
      if m.registers.i.toNat + x.toNat ≤ 4095 then
        .ok (putCells m fun j =>
          if m.registers.i.toNat ≤ j ∧ j ≤ m.registers.i.toNat + x.toNat then
            v m (j - m.registers.i.toNat)
          else cell m j)
      else .error (.outOfBounds (max m.registers.i.toNat 4096)) := by
  have hrun := ending_each (stored m) (n := x.toNat) fun k hk =>
    storeTurn_stored m (Nat.lt_of_le_of_lt hk hx)
  rw [store_goOn, hrun]
  refine if_congr Iff.rfl (congrArg Except.ok (putCells_congr m fun j _ => ?_)) rfl
  exact if_congr (by omega) rfl rfl

/-- One turn of the loop of `FX65`. -/
def loadTurn (a k : Nat) : Effect Unit := do
  let b ← readMem (a + k)
  writeReg (UInt8.ofNat k) b

/-- The machine after `k` turns of it. -/
def loaded (m : Machine) (k : Nat) : Machine :=
  putAll m fun j => if j < k then cell m (m.registers.i.toNat + j) else v m j

theorem loaded_zero (m : Machine) : loaded m 0 = goOn m := by
  rw [← putAll_v]
  refine putAll_congr m fun j _ => ?_
  rw [if_neg (by omega)]

theorem v_loaded (m : Machine) (n : Nat) {k : Nat} (hk : k < registerCount) :
    v (loaded m n) k = if k < n then cell m (m.registers.i.toNat + k) else v m k := by
  refine v_putAll m hk ?_
  split
  · exact cell_lt m _
  · exact v_lt m k

theorem loadTurn_loaded (m : Machine) {k : Nat} (hk : k < 16) :
    loadTurn m.registers.i.toNat k (loaded m k) =
      if m.registers.i.toNat + k < 4096 then .ok () (loaded m (k + 1))
      else .error (.outOfBounds (m.registers.i.toNat + k)) (loaded m k) := by
  have e : (UInt8.ofNat k).toNat = k := UInt8.toNat_ofNat_of_lt' (by rw [UInt8.size]; omega)
  unfold loadTurn
  by_cases h : m.registers.i.toNat + k < 4096
  · rw [if_pos h, loaded, run_bind_ok (readMem_putAll m _ h),
      writeReg_putAll m _ _ (by rw [e]; exact hk), toNat_cell, e, loaded]
    refine congrArg (EStateM.Result.ok ()) (putAll_congr m fun j _ => ?_)
    by_cases hj : j = k
    · rw [if_pos hj, if_pos (by omega), hj]
    · rw [if_neg hj]
      exact if_congr (by omega) rfl rfl
  · rw [if_neg h, run_bind_error (readMem_of_le _ (Nat.le_of_not_lt h))]

theorem load_goOn (m : Machine) (here : Word) (x : Reg) :
    (loadRegisters x).effect here (goOn m) =
      each (x.toNat + 1) (loadTurn m.registers.i.toNat) (loaded m 0) := by
  rw [effect, loadEffect, run_bind_ok (run_get _), loaded_zero]
  rfl

theorem ending_load (m : Machine) (here : Word) {x : Reg} (hx : x.toNat < 16) :
    ending ((loadRegisters x).effect here (goOn m)) =
      if m.registers.i.toNat + x.toNat ≤ 4095 then
        .ok (putAll m fun k =>
          if k ≤ x.toNat then cell m (m.registers.i.toNat + k) else v m k)
      else .error (.outOfBounds (max m.registers.i.toNat 4096)) := by
  have hrun := ending_each (loaded m) (n := x.toNat) fun k hk =>
    loadTurn_loaded m (Nat.lt_of_le_of_lt hk hx)
  rw [load_goOn, hrun]
  refine if_congr Iff.rfl (congrArg Except.ok (putAll_congr m fun j _ => ?_)) rfl
  exact if_congr (by omega) rfl rfl

/-- A refused load has loaded the registers whose cells exist. -/
theorem load_refused (m : Machine) (here : Word) {x : Reg} (hx : x.toNat < 16)
    (h : 4095 < m.registers.i.toNat + x.toNat) :
    (loadRegisters x).effect here (goOn m) =
      .error (.outOfBounds (max m.registers.i.toNat 4096))
        (loaded m (4096 - m.registers.i.toNat)) := by
  rw [load_goOn]
  exact each_refused (loaded m) (fun k hk => loadTurn_loaded m (Nat.lt_of_le_of_lt hk hx)) h

/-- The decimal digits of a byte: the hundreds, the tens and the ones. -/
def digit (value : Nat) : Nat → Nat
  | 0 => value / 100
  | 1 => value / 10 % 10
  | _ => value % 10

theorem digit_lt {value : Nat} (h : value < 256) (k : Nat) : digit value k < 10 := by
  unfold digit
  split <;> omega

/-- One turn of `FX33`, if it is read as a loop. -/
def decimalTurn (b : Byte) (a k : Nat) : Effect Unit :=
  writeMem (a + k) (.ofNat (digit b.toNat k))

theorem each_decimalTurn (b : Byte) (a : Nat) :
    each 3 (decimalTurn b a) = (do
      writeMem a (b / 100)
      writeMem (a + 1) (b / 10 % 10)
      writeMem (a + 2) (b % 10)) := by
  have hb := b.toNat_lt
  have h0 : UInt8.ofNat (digit b.toNat 0) = b / 100 := by
    rw [← UInt8.toNat_inj, UInt8.toNat_ofNat', UInt8.toNat_div]
    show b.toNat / 100 % 256 = b.toNat / 100
    omega
  have h1 : UInt8.ofNat (digit b.toNat 1) = b / 10 % 10 := by
    rw [← UInt8.toNat_inj, UInt8.toNat_ofNat', UInt8.toNat_mod, UInt8.toNat_div]
    show b.toNat / 10 % 10 % 256 = b.toNat / 10 % 10
    omega
  have h2 : UInt8.ofNat (digit b.toNat 2) = b % 10 := by
    rw [← UInt8.toNat_inj, UInt8.toNat_ofNat', UInt8.toNat_mod]
    show b.toNat % 10 % 256 = b.toNat % 10
    omega
  rw [each_succ, each_succ, each_succ, each_zero, pure_bind, bind_assoc]
  simp only [decimalTurn, h0, h1, h2, Nat.add_zero]

theorem decimalTurn_filled (m : Machine) (x k : Nat) :
    decimalTurn (.ofNat (v m x)) m.registers.i.toNat k (filled m (digit (v m x)) k) =
      if m.registers.i.toNat + k < 4096 then .ok () (filled m (digit (v m x)) (k + 1))
      else .error (.outOfBounds (m.registers.i.toNat + k)) (filled m (digit (v m x)) k) := by
  have hd := digit_lt (v_lt m x) k
  have e : (UInt8.ofNat (digit (v m x) k)).toNat = digit (v m x) k :=
    UInt8.toNat_ofNat_of_lt' (by rw [UInt8.size]; omega)
  rw [decimalTurn, toNat_v, writeMem_filled m _ k e]

theorem decimal_goOn (m : Machine) (here : Word) {x : Reg} (hx : x.toNat < 16) :
    (decimal x).effect here (goOn m) =
      each 3 (decimalTurn (.ofNat (v m x.toNat)) m.registers.i.toNat)
        (filled m (digit (v m x.toNat)) 0) := by
  rw [effect, decimalEffect, run_read m hx, run_bind_ok (run_get _), each_decimalTurn, filled_zero]
  rfl

theorem ending_decimal (m : Machine) (here : Word) {x : Reg} (hx : x.toNat < 16) :
    ending ((decimal x).effect here (goOn m)) =
      if m.registers.i.toNat + 2 ≤ 4095 then
        .ok (putCells m fun j =>
          if j = m.registers.i.toNat then v m x.toNat / 100
          else if j = m.registers.i.toNat + 1 then v m x.toNat / 10 % 10
          else if j = m.registers.i.toNat + 2 then v m x.toNat % 10
          else cell m j)
      else .error (.outOfBounds (max m.registers.i.toNat 4096)) := by
  rw [decimal_goOn m here hx,
    ending_each _ (n := 2) fun k _ => decimalTurn_filled m x.toNat k]
  refine if_congr Iff.rfl (congrArg Except.ok (putCells_congr m fun j _ => ?_)) rfl
  generalize m.registers.i.toNat = i
  by_cases h0 : j = i
  · rw [if_pos (by omega), if_pos h0, h0, Nat.sub_self, digit]
  · by_cases h1 : j = i + 1
    · rw [if_pos (by omega), if_neg h0, if_pos h1, h1, Nat.add_sub_cancel_left, digit]
    · by_cases h2 : j = i + 2
      · rw [if_pos (by omega), if_neg h0, if_neg h1, if_pos h2, h2, Nat.add_sub_cancel_left]
        rfl
      · rw [if_neg (by omega), if_neg h0, if_neg h1, if_neg h2]

theorem ending_addToI (m : Machine) (here : Word) {x : Reg} (hx : x.toNat < 16) :
    ending ((addToI x).effect here (goOn m)) =
      if m.registers.i.toNat + v m x.toNat ≤ 65535 then
        .ok (putIndex m (m.registers.i.toNat + v m x.toNat))
      else .error (.outOfBounds (m.registers.i.toNat + v m x.toNat)) := by
  have e : (UInt8.ofNat (v m x.toNat)).toUInt16.toNat = v m x.toNat := by
    rw [UInt8.toNat_toUInt16, toNat_v]
  have hi : (goOn m).registers.i = m.registers.i := rfl
  rw [effect, addToIEffect, run_read m hx, run_bind_ok (run_get _)]
  rw [hi, Word.offset?, e, toNat_v]
  by_cases h : m.registers.i.toNat + v m x.toNat ≤ 65535
  · have hs : (m.registers.i + (UInt8.ofNat (v m x.toNat)).toUInt16).toNat =
        m.registers.i.toNat + v m x.toNat := by
      rw [UInt16.toNat_add, e]
      omega
    rw [if_pos (by omega), if_pos h]
    show ending (setIndex _ (goOn m)) = _
    rw [setIndex_goOn, hs, ending]
  · rw [if_neg (by omega), if_neg h]
    rfl

/-- Writing to the general registers of a machine that differs from the one behind the
    instruction outside its registers. -/
theorem writeReg_of_registers (m m' : Machine) (h : m'.registers = (goOn m).registers) {x : Reg}
    (b : Byte) (hx : x.toNat < registerCount) :
    writeReg x b m' = .ok () { m' with registers := (put m x.toNat b.toNat).registers } := by
  have e := congrArg Machine.registers (set_putAll m (v m) b hx)
  rw [putAll_v] at e
  rw [writeReg_of_lt _ _ hx, h, put, ← e]

theorem writeFlag_of_registers (m m' : Machine) (h : m'.registers = (goOn m).registers)
    (flag : Bool) :
    writeFlag flag m' = .ok () { m' with registers := (put m 0xF flag.toNat).registers } := by
  have eb : (if flag then 1 else 0 : Byte).toNat = flag.toNat := by cases flag <;> rfl
  have e := congrArg Machine.registers
    (set_putAll m (v m) (x := 15) (if flag then 1 else 0) (by decide))
  rw [putAll_v, eb] at e
  rw [writeFlag, Registers.setFlag, h, put, ← e]

/-- The bytes of a range of memory. -/
theorem getElem?_range (m : Machine) {a n r : Nat} {b : Byte} (h : a + n ≤ 4096) :
    (m.memory.cells.extract a (a + n)).toList[r]? = some b ↔
      r < n ∧ cell m (a + r) = b.toNat := by
  rw [Vector.getElem?_toList, Vector.getElem?_extract, cell]
  have e : min (a + n) 4096 - a = n := by omega
  rw [e]
  by_cases hr : r < n
  · have ha : a + r < 4096 := by omega
    rw [if_pos hr, Vector.getElem?_eq_getElem ha, Option.getD_some, UInt8.toNat_inj,
      Option.some_inj]
    exact (and_iff_right hr).symm
  · rw [if_neg hr]
    exact iff_of_false (fun h => by cases h) fun h => hr h.1

theorem eq_wrap_iff {p : Position} {x y : Nat} :
    p = .wrap x y ↔ p.x.val = x % 64 ∧ p.y.val = y % 32 := by
  cases p with
  | mk px py => simp only [Position.wrap, Position.mk.injEq, Fin.ext_iff, screenWidth, screenHeight]

/-- The pixels of a sprite in memory. -/
theorem mem_cells_iff (m : Machine) {left top n : Nat} (h : m.registers.i.toNat + n ≤ 4096)
    {p : Position} :
    p ∈ spriteCells left top (m.memory.cells.extract m.registers.i.toNat
        (m.registers.i.toNat + n)).toList ↔ Covers m left top n p := by
  rw [mem_spriteCells]
  constructor
  · intro h'
    obtain ⟨r, b, hr, c, hc, hb, hp⟩ := h'
    obtain ⟨hrn, e⟩ := (getElem?_range m h).mp hr
    exact ⟨r, hrn, c, hc, by rw [Bit, e, hb], eq_wrap_iff.mp hp⟩
  · intro h'
    obtain ⟨r, hrn, c, hc, hb, hp⟩ := h'
    refine ⟨r, .ofNat (cell m (m.registers.i.toNat + r)), ?_, c, hc, ?_, eq_wrap_iff.mpr hp⟩
    · rw [getElem?_range m h, toNat_cell]
      exact ⟨hrn, rfl⟩
    · rw [toNat_cell]
      exact hb

theorem hits_iff (m : Machine) {left top n : Nat} :
    Hits m left top n ↔ ∃ p, Covers m left top n p ∧ m.display.lit p = true := by
  constructor
  · intro h
    obtain ⟨r, hr, c, hc, hb, hl⟩ := h
    exact ⟨_, ⟨r, hr, c, hc, hb, rfl, rfl⟩, hl⟩
  · intro h
    obtain ⟨p, ⟨r, hr, c, hc, hb, hp⟩, hl⟩ := h
    rw [eq_wrap_iff.mpr hp] at hl
    exact ⟨r, hr, c, hc, hb, hl⟩

theorem readSlice_of_le (m : Machine) {a n : Nat} (h : a + n ≤ 4096) :
    readSlice a n m = .ok (m.memory.cells.extract a (a + n)).toList m := by
  have hn : ¬ (4096 ≤ a ∧ 0 < n) := by omega
  rw [readSlice, Memory.slice, Memory.checkRange, if_neg hn, if_pos h]

theorem readSlice_of_lt (m : Machine) {a n : Nat} (h : 4096 < a + n) :
    readSlice a n m = .error (.outOfBounds (if 4096 ≤ a ∧ 0 < n then a else 4096)) m := by
  rw [readSlice, Memory.slice, Memory.checkRange]
  by_cases hn : 4096 ≤ a ∧ 0 < n
  · rw [if_pos hn, if_pos hn]
  · rw [if_neg hn, if_neg hn, if_neg (Nat.not_le_of_lt h)]

/-- A sprite in memory is drawn pixel by pixel, and VF gets the flag. -/
theorem draw_goOn (m : Machine) (here : Word) {x y rows : Byte} (hx : x.toNat < 16)
    (hy : y.toNat < 16) (h : m.registers.i.toNat + rows.toNat ≤ 4096) :
    let drawing := m.display.drawCells (spriteCells (v m x.toNat) (v m y.toNat)
      (m.memory.cells.extract m.registers.i.toNat (m.registers.i.toNat + rows.toNat)).toList)
    (draw x y rows).effect here (goOn m) =
      .ok () { put m 0xF drawing.2.toNat with display := drawing.1 } := by
  intro drawing
  have hd : drawCells (spriteCells (v m x.toNat) (v m y.toNat) (m.memory.cells.extract
      m.registers.i.toNat (m.registers.i.toNat + rows.toNat)).toList) (goOn m) =
      .ok drawing.2 { goOn m with display := drawing.1 } := rfl
  have hw := writeFlag_of_registers m { goOn m with display := drawing.1 } rfl drawing.2
  rw [effect, drawEffect, run_read m hx, run_read m hy, run_bind_ok (run_get _), toNat_v, toNat_v]
  refine (run_bind_ok (readSlice_of_le (goOn m) h) _).trans ?_
  exact (run_bind_ok hd writeFlag).trans hw

/-- A sprite whose pixels are all different is drawn at once. -/
theorem drawCells_eq_invert (m : Machine) {left top n : Nat} {cells : List Position}
    (hn : cells.Nodup) (h : ∀ p, p ∈ cells ↔ Covers m left top n p) :
    m.display.drawCells cells =
      (m.display.invert fun p => decide (Covers m left top n p), decide (Hits m left top n)) := by
  refine Prod.ext ?_ (Bool.eq_iff_iff.mpr ?_)
  · rw [Display.drawCells_of_nodup _ hn]
    exact congrArg m.display.invert (funext fun p => decide_eq_decide.mpr (h p))
  · rw [Display.hit_drawCells_of_nodup _ hn, decide_eq_true_iff, hits_iff]
    exact exists_congr fun p => and_congr_left' (h p)

/-- **`DXYN`**: the covered pixels are inverted at once. -/
theorem ending_draw (m : Machine) (here : Word) {x y rows : Byte} (hx : x.toNat < 16)
    (hy : y.toNat < 16) (hn : rows.toNat < 16) :
    ending ((draw x y rows).effect here (goOn m)) =
      drawn m (v m x.toNat) (v m y.toNat) rows.toNat := by
  rw [drawn]
  by_cases h : m.registers.i.toNat + rows.toNat ≤ 4096
  · have hlen : (m.memory.cells.extract m.registers.i.toNat
        (m.registers.i.toNat + rows.toNat)).toList.length ≤ screenHeight := by
      rw [Vector.length_toList]
      show _ ≤ 32
      omega
    rw [draw_goOn m here hx hy h, if_pos h, ending,
      drawCells_eq_invert m (nodup_spriteCells _ _ hlen) fun p => mem_cells_iff m h, toNat_decide]
  · rw [if_neg h, effect, drawEffect, run_read m hx, run_read m hy, run_bind_ok (run_get _)]
    exact congrArg ending (run_bind_error (readSlice_of_lt _ (Nat.lt_of_not_le h)) _)

/-! ## 5. All words -/

/-- **The `FX__` family.** -/
theorem ending_misc (m : Machine) (here w : Word) :
    ending ((decodeMisc w).effect here (goOn m)) = misc m w.toNat := by
  have hx : w.x.toNat < registerCount := Word.x_lt w
  simp only [decodeMisc, misc]
  rw [← Word.toNat_nn, ← Word.toNat_x]
  generalize w.nn.toNat = d
  split
  · rw [effect, run_bind_ok (run_get _), writeReg_goOn m _ hx]
    rfl
  · rw [effect, waitEffect, run_read m hx, UInt8.ofNat_toNat]
    rfl
  · rw [effect, run_read m hx]
    rfl
  · rw [effect, run_read m hx]
    rfl
  · exact ending_addToI m here hx
  · have hv := v_lt m w.x.toNat
    have e : ((UInt8.ofNat (v m w.x.toNat)).toUInt16 * glyphSize).toNat = v m w.x.toNat * 5 := by
      rw [UInt16.toNat_mul, UInt8.toNat_toUInt16, toNat_v, toNat_glyphSize]
      omega
    rw [effect, run_read m hx, setIndex_goOn, e]
    rfl
  · exact ending_decimal m here hx
  · exact ending_store m here hx
  · exact ending_load m here hx
  · simp only [ending_unknown, *]

theorem ending_call (m : Machine) (a : Word) :
    ending ((callSubroutine a).effect m.registers.pc (goOn m)) = called m a.toNat := by
  have hs : (goOn m).registers.stack = m.registers.stack := rfl
  rw [effect, called]
  by_cases h : m.registers.stack.entries.length < 16
  · have hp : push m.registers.pc (goOn m) = .ok () { goOn m with registers :=
        { (goOn m).registers with stack := ⟨m.registers.stack.entries ++ [m.registers.pc], by
          rw [List.length_append, List.length_singleton]; exact h⟩ } } := by
      simp only [push, Registers.push, CallStack.push, hs, dif_pos h]
    rw [run_bind_ok hp, dif_pos h, UInt16.ofNat_toNat]
    rfl
  · have hp : push m.registers.pc (goOn m) = .error .stackOverflow (goOn m) := by
      simp only [push, Registers.push, CallStack.push, hs, dif_neg h]
    rw [run_bind_error hp, dif_neg h]
    rfl

theorem ending_return (m : Machine) (here : Word) :
    ending (returnSubroutine.effect here (goOn m)) = returned m := by
  have hs : (goOn m).registers.stack = m.registers.stack := rfl
  rw [effect, returned]
  cases h : m.registers.stack.entries.getLast? with
  | none =>
    have hp : pop (goOn m) = .error .stackUnderflow (goOn m) := by
      simp only [pop, Registers.pop, CallStack.pop, hs, h]
    rw [run_bind_error hp]
    rfl
  | some a =>
    have hp : pop (goOn m) = .ok a { goOn m with registers :=
        { (goOn m).registers with stack := ⟨m.registers.stack.entries.dropLast, by
          have := m.registers.stack.length_le; rw [List.length_dropLast]; omega⟩ } } := by
      simp only [pop, Registers.pop, CallStack.pop, hs, h]
    rw [run_bind_ok hp]
    show Except.ok { m with registers := { m.registers with pc := a.next, stack := _ } } = _
    rw [next_eq]

theorem ending_clear (m : Machine) (here : Word) :
    ending (clearDisplay.effect here (goOn m)) = .ok (cleared m) := by
  have e : Screen.blank = .ofFn fun _ => false :=
    Screen.ext_lit fun p => by rw [Screen.lit_blank, Screen.lit_ofFn]
  rw [effect, run_modify, ending, Display.clear, e]
  rfl

theorem ending_rand (m : Machine) (here : Word) {x : Reg} (mask : Byte) (hx : x.toNat < 16) :
    ending ((rand x mask).effect here (goOn m)) =
      .ok { put m x.toNat ((m.random.word m.random.taken).toNat % 256 &&& mask.toNat) with
        random := { m.random with taken := m.random.taken + 1 } } := by
  have ht : takeRandom (goOn m) = .ok (m.random.word m.random.taken).toUInt8
      { goOn m with random := { m.random with taken := m.random.taken + 1 } } := rfl
  have hw := writeReg_of_registers m
    { goOn m with random := { m.random with taken := m.random.taken + 1 } } rfl
    ((m.random.word m.random.taken).toUInt8 &&& mask) hx
  rw [effect, run_bind_ok ht]
  refine (congrArg ending hw).trans ?_
  rw [UInt8.toNat_and, UInt32.toNat_toUInt8]
  rfl

theorem ending_jumpAdd (m : Machine) (here a : Word) :
    ending ((jumpAdd a).effect here (goOn m)) = .ok (goTo m (a.toNat + v m 0)) := by
  have e : UInt16.ofNat (a + (UInt8.ofNat (v m 0)).toUInt16).toNat = .ofNat (a.toNat + v m 0) := by
    rw [UInt16.ofNat_toNat, ← UInt16.toNat_inj, UInt16.toNat_add, UInt16.toNat_ofNat',
      UInt8.toNat_toUInt16, toNat_v]
  rw [effect, run_read m (x := 0) (by decide), jumpTo_goOn, ending, goTo]
  show _ = Except.ok (goTo m (a.toNat + v m 0))
  rw [goTo, ← e]
  rfl

theorem beq_v (m : Machine) (k : Nat) (b : Byte) :
    (UInt8.ofNat (v m k) == b) = decide (v m k = b.toNat) := by
  rw [beq_eq_decide]
  refine decide_eq_decide.mpr ?_
  rw [← UInt8.toNat_inj, toNat_v]

theorem bne_v (m : Machine) (k : Nat) (b : Byte) :
    (UInt8.ofNat (v m k) != b) = decide (v m k ≠ b.toNat) := by
  rw [bne, beq_v, decide_not]

/-- The words that begin with the digit 0. -/
theorem ending_zero (m : Machine) (here w : Word) :
    ending (Instruction.effect here
        (if w = 0x00E0 then clearDisplay else if w = 0x00EE then returnSubroutine else unknown w)
        (goOn m)) =
      if w.toNat = 0x00E0 then .ok (cleared m) else if w.toNat = 0x00EE then returned m
      else unlisted m w.toNat := by
  have hc : w.toNat = 0x00E0 ↔ w = 0x00E0 := UInt16.toNat_inj (b := 0x00E0)
  have hr : w.toNat = 0x00EE ↔ w = 0x00EE := UInt16.toNat_inj (b := 0x00EE)
  simp only [hc, hr]
  by_cases h : w = 0x00E0
  · rw [if_pos h, if_pos h]
    exact ending_clear m here
  · rw [if_neg h, if_neg h]
    by_cases h' : w = 0x00EE
    · rw [if_pos h', if_pos h']
      exact ending_return m here
    · rw [if_neg h', if_neg h']
      exact ending_unknown m here w

/-- A row whose last digit must be 0. -/
theorem ending_of_n (m : Machine) (here w : Word) {ins : Instruction} {m' : Machine}
    (h : ending (ins.effect here (goOn m)) = .ok m') :
    ending ((if w.n = 0 then ins else unknown w).effect here (goOn m)) =
      if w.n.toNat = 0 then .ok m' else unlisted m w.toNat := by
  have e : w.n.toNat = 0 ↔ w.n = 0 := UInt8.toNat_inj (b := 0)
  simp only [e]
  by_cases hn : w.n = 0
  · rw [if_pos hn, if_pos hn, h]
  · rw [if_neg hn, if_neg hn]
    exact ending_unknown m here w

/-- **Every word does what its row says.** -/
theorem ending_effect_decode (m : Machine) (w : Word) :
    ending ((decode w).effect m.registers.pc m.advance) = next m w.toNat := by
  have hx : w.x.toNat < registerCount := Word.x_lt w
  have hy : w.y.toNat < registerCount := Word.y_lt w
  have hn : w.n.toNat < 16 := by rw [Word.toNat_n]; omega
  have hw := w.toNat_lt
  have hk : w.toNat / 4096 < 16 := by omega
  rw [advance_eq]
  simp only [decode, next]
  rw [← Word.toNat_x, ← Word.toNat_y, ← Word.toNat_nn, ← Word.toNat_nnn, ← Word.toNat_n,
    ← Word.toNat_kind]
  rw [← Word.toNat_kind] at hk
  generalize w.kind.toNat = d at hk
  split
  · exact ending_zero m _ w
  · rw [effect, jumpTo_goOn, ending]
    rfl
  · exact ending_call m w.nnn
  · rw [effect, run_read m hx, beq_v, skipIf_goOn]
    rfl
  · rw [effect, run_read m hx, bne_v, skipIf_goOn]
    rfl
  · refine ending_of_n m _ w ?_
    rw [effect, run_read m hx, run_read m hy, beq_v, skipIf_goOn, ending, toNat_v]
  · rw [effect, writeReg_goOn m _ hx]
    rfl
  · rw [effect, run_read m hx, writeReg_goOn m _ hx, UInt8.toNat_add, toNat_v]
    rfl
  · exact ending_arithmetic m _ w
  · refine ending_of_n m _ w ?_
    rw [effect, run_read m hx, run_read m hy, bne_v, skipIf_goOn, ending, toNat_v]
  · rw [effect, setIndex_goOn]
    rfl
  · exact ending_jumpAdd m _ w.nnn
  · exact ending_rand m _ w.nn hx
  · exact ending_draw m _ hx hy hn
  · exact ending_key m _ w
  · exact ending_misc m _ w
  · simp only [imp_false] at *
    omega

/-! ## 6. One step -/

theorem word_lt (m : Machine) : word m < 65536 := by
  have h : cell m m.registers.pc.toNat < 256 := UInt8.toNat_lt _
  have h' : cell m (m.registers.pc.toNat + 1) < 256 := UInt8.toNat_lt _
  unfold word
  omega

theorem fetch_of_le (m : Machine) (h : m.registers.pc.toNat ≤ 0xFFE) :
    m.fetch = .ok (.ofNat (word m)) := by
  have h0 : m.registers.pc.toNat < 4096 := by omega
  have h1 : m.registers.pc.toNat + 1 < 4096 := by omega
  rw [Machine.fetch, Memory.read_of_lt h0, Memory.read_of_lt h1]
  refine congrArg Except.ok (UInt16.toNat_inj.mp ?_)
  rw [Word.toNat_ofBytes, UInt16.toNat_ofNat_of_lt' (word_lt m), word, cell_eq m h0, cell_eq m h1]

theorem fetch_of_lt (m : Machine) (h : 0xFFE < m.registers.pc.toNat) :
    m.fetch = .error (.outOfBounds (max m.registers.pc.toNat 0x1000)) := by
  rw [Machine.fetch]
  by_cases h0 : m.registers.pc.toNat < 4096
  · have h1 : 4096 ≤ m.registers.pc.toNat + 1 := by omega
    have e : max m.registers.pc.toNat 0x1000 = m.registers.pc.toNat + 1 := by omega
    rw [Memory.read_of_lt h0, Memory.read_of_le h1, e]
  · have e : max m.registers.pc.toNat 0x1000 = m.registers.pc.toNat := by omega
    rw [Memory.read_of_le (Nat.le_of_not_lt h0), e]

/-- **One step of a running machine**, whose program counter points to a word: the machine of
    the row and an event, or a stop for the reason of the row. -/
theorem step_of_running (m : Machine) (hs : m.status = .running)
    (hpc : m.registers.pc.toNat ≤ 0xFFE) :
    (∃ m', next m (word m) = .ok m' ∧
      (decode (.ofNat (word m))).effect m.registers.pc m.advance = .ok () m' ∧
      m.step = (m', .cycled (m.eventOf m' (.ofNat (word m)) (decode (.ofNat (word m)))))) ∨
    (∃ c, ∃ m' : Machine, next m (word m) = .error c ∧
      (decode (.ofNat (word m))).effect m.registers.pc m.advance = .error c m' ∧
      m.step = m'.stopAt m.registers.pc (.ofNat (word m)) c) := by
  have he := ending_effect_decode m (.ofNat (word m))
  rw [UInt16.toNat_ofNat_of_lt' (word_lt m)] at he
  rw [Machine.step, hs]
  show (∃ m', _ ∧ _ ∧ m.cycle = _) ∨ (∃ c m', _ ∧ _ ∧ m.cycle = _)
  rw [Machine.cycle, fetch_of_le m hpc, ← he]
  simp only [Machine.execute]
  cases (decode (.ofNat (word m))).effect m.registers.pc m.advance with
  | ok _ m' => exact .inl ⟨m', rfl, rfl, rfl⟩
  | error c m' => exact .inr ⟨c, m', rfl, rfl, rfl⟩

/-- Where the row of the word gives a machine, the step leaves it. -/
theorem step_of_next {m m' : Machine} (hs : m.status = .running)
    (hpc : m.registers.pc.toNat ≤ 0xFFE) (hn : next m (word m) = .ok m') :
    m.step.1 = m' ∧ m.step.2.result = .ok m'.status := by
  rcases step_of_running m hs hpc with ⟨m'', h, -, e⟩ | ⟨c, m'', h, -, -⟩
  · rw [hn] at h
    obtain rfl := Except.ok.inj h
    rw [e]
    exact ⟨rfl, rfl⟩
  · rw [hn] at h
    cases h

/-- **The machine follows the table.** A running machine whose program counter points to a word
    makes a step without a fault exactly if the row of the word gives a next machine, and that
    machine is what the step leaves. -/
theorem step_eq_next (m : Machine) (hs : m.status = .running)
    (hpc : m.registers.pc.toNat ≤ 0xFFE) :
    (∀ s, m.step.2.result = .ok s → next m (word m) = .ok m.step.1 ∧ s = m.step.1.status) ∧
    (∀ m', next m (word m) = .ok m' → m.step.1 = m' ∧ m.step.2.result = .ok m'.status) := by
  rcases step_of_running m hs hpc with ⟨m', hn, -, h⟩ | ⟨c, m', hn, -, h⟩
  · rw [h, hn]
    refine ⟨fun s e => ⟨rfl, ?_⟩, fun m'' e => ?_⟩
    · exact (Except.ok.inj e).symm
    · cases e
      exact ⟨rfl, rfl⟩
  · rw [h, hn]
    refine ⟨fun s e => ?_, fun m'' e => ?_⟩
    · cases e
    · cases e

/-- Memory with one word at the start of the program. -/
def opening (high low : Byte) : Memory :=
  ⟨((Vector.replicate memorySize 0).set 0x200 high).set 0x201 low⟩

theorem word_of_opening {m : Machine} {high low : Byte} (hm : m.memory = opening high low)
    (hp : m.registers.pc = programStart) : word m = 256 * high.toNat + low.toNat := by
  have h : cell m 0x200 = high.toNat := by simp [cell, hm, opening]
  have h' : cell m 0x201 = low.toNat := by simp [cell, hm, opening]
  have e : m.registers.pc.toNat = 0x200 := by
    rw [hp]
    rfl
  rw [word, e, h, h']

/-- A machine in front of `8FF4`, the sum of VF and VF, with 200 in every register. -/
def doubling : Machine where
  registers := { v := .replicate registerCount 200 }
  memory := opening 0x8F 0xF4

theorem word_doubling : word doubling = 0x8FF4 := by
  rw [word_of_opening (m := doubling) rfl rfl]
  rfl

/-- Where the sum goes to VF itself, the sum stays and the carry is lost. -/
theorem step_doubling : doubling.status = .running ∧ doubling.registers.pc.toNat ≤ 0xFFE ∧
    doubling.step.2.result = .ok .running ∧
    next doubling 0x8FF4 = .ok doubling.step.1 ∧ v doubling.step.1 0xF = 144 := by
  have hn : next doubling (word doubling) = .ok (putFlagged doubling 0xF 144 1) := by
    rw [word_doubling]
    rfl
  have hstep := step_eq_next doubling rfl (by decide)
  obtain ⟨e, hr⟩ := hstep.2 _ hn
  obtain ⟨ht, -⟩ := hstep.1 _ hr
  rw [word_doubling] at ht
  refine ⟨rfl, by decide, hr, ht, ?_⟩
  rw [e]
  rfl

end Table

end Chip8
