/-
  File:      Chip8/Proofs/Overlay.lean
  Subject:   Drawing acts on the screen by exclusive or.

  Each draw inverts pixels, and inverting is commutative and its own inverse. So what a list of draws
  leaves on the screen depends only on how often each pixel is inverted.

  * `Display.screen_drawCells_of_parity`: two lists of pixels that count every pixel equally often,
    modulo two, leave the same screen;
  * `Drawing`: one draw, with the registers that it finds; `Drawing.operands`: what it reads;
  * `Machine.drawAll`: a list of draws; `drawAll_eq`: it draws the pixels of all of them;
  * `draw_twice`: the same draw twice;
  * `drawAll_xor`: what this comes to.
-/
import Chip8.Proofs.Drawing
import Chip8.Proofs.MemoryMap

namespace Chip8

/-! ## 1. Lists of pixels -/

namespace Display

theorem drawCells_append (d : Display) (ps qs : List Position) :
    (d.drawCells (ps ++ qs)).1 = ((d.drawCells ps).1.drawCells qs).1 := by
  induction ps generalizing d with
  | nil => rfl
  | cons p ps ih => exact ih (d.toggle p).1

/-- **Only the parity counts**: how often a pixel is inverted, modulo two. -/
theorem screen_drawCells_of_parity (d : Display) {ps qs : List Position}
    (h : ∀ p, ps.count p % 2 = qs.count p % 2) :
    (d.drawCells ps).1.screen = (d.drawCells qs).1.screen := by
  refine Screen.ext_lit fun p => ?_
  show (d.drawCells ps).1.lit p = (d.drawCells qs).1.lit p
  rw [lit_drawCells, lit_drawCells, h]

end Display

/-! ## 2. Draws -/

/-- One draw: the registers as it finds them, and its operands. -/
structure Drawing where
  registers : Registers
  x : Reg
  y : Reg
  rows : Byte

namespace Drawing

/-- What it reads before it draws: where its top left corner is, and the rows of its sprite. -/
def operands (d : Drawing) (memory : Memory) : Except Cause (Byte × Byte × List Byte) := do
  let left ← d.registers.get d.x
  let top ← d.registers.get d.y
  let sprite ← memory.slice d.registers.i.toNat d.rows.toNat
  return (left, top, sprite)

/-- The pixels that it inverts, in their order. One that is refused inverts none. -/
def cells (d : Drawing) (memory : Memory) : List Position :=
  match d.operands memory with
  | .ok (left, top, sprite) => spriteCells left.toNat top.toNat sprite
  | .error _ => []

end Drawing

namespace Machine

open Effect Instruction Table

/-- Draws with the given registers. -/
def draw (m : Machine) (d : Drawing) : Machine × Except Cause Unit :=
  { m with registers := d.registers }.execute (.draw d.x d.y d.rows)

/-- Draws one after the other: the machine at last, and how each of them ended. -/
def drawAll (m : Machine) (ds : List Drawing) : Machine × List (Except Cause Unit) :=
  runAll draw m ds

/-- Once the operands are read, nothing is refused any more. -/
theorem drawEffect_eq (m : Machine) (x y : Reg) (rows : Byte) :
    drawEffect x y rows m =
      match (Drawing.mk m.registers x y rows).operands m.memory with
      | .ok (left, top, sprite) =>
          let drawing := m.display.drawCells (spriteCells left.toNat top.toNat sprite)
          .ok () { m with display := drawing.1, registers := m.registers.setFlag drawing.2 }
      | .error c => .error c m := by
  unfold drawEffect Drawing.operands
  cases hx : m.registers.get x with
  | error c =>
    have hleft : readReg x m = .error c m := by rw [readReg, hx]
    exact run_bind_error hleft _
  | ok left =>
    have hleft : readReg x m = .ok left m := by rw [readReg, hx]
    rw [run_bind_ok hleft]
    cases hy : m.registers.get y with
    | error c =>
      have htop : readReg y m = .error c m := by rw [readReg, hy]
      exact run_bind_error htop _
    | ok top =>
      have htop : readReg y m = .ok top m := by rw [readReg, hy]
      rw [run_bind_ok htop, run_bind_ok (run_get m)]
      cases hs : m.memory.slice m.registers.i.toNat rows.toNat with
      | error c =>
        have hsprite : readSlice m.registers.i.toNat rows.toNat m = .error c m := by
          rw [readSlice, hs]
        exact run_bind_error hsprite _
      | ok sprite =>
        have hsprite : readSlice m.registers.i.toNat rows.toNat m = .ok sprite m := by
          rw [readSlice, hs]
        rw [run_bind_ok hsprite]
        rfl

/-- A draw inverts its pixels and leaves memory alone. Whether it is refused depends on its operands
    only. -/
theorem draw_eq (m : Machine) (d : Drawing) :
    (m.draw d).1.display = (m.display.drawCells (d.cells m.memory)).1 ∧
    (m.draw d).1.memory = m.memory ∧
    (m.draw d).2 = (d.operands m.memory).map fun _ => () := by
  have heffect := drawEffect_eq { m with registers := d.registers }.advance d.x d.y d.rows
  have hoperands : (Drawing.mk { m with registers := d.registers }.advance.registers d.x d.y
      d.rows).operands { m with registers := d.registers }.advance.memory =
      d.operands m.memory := rfl
  rw [hoperands] at heffect
  rw [draw, execute, effect, heffect, Drawing.cells]
  cases d.operands m.memory with
  | error c => exact ⟨rfl, rfl, rfl⟩
  | ok operands => exact ⟨rfl, rfl, rfl⟩

/-- **A list of draws inverts the pixels of all of them**, and each ends as it would alone. -/
theorem drawAll_eq (m : Machine) (ds : List Drawing) :
    (m.drawAll ds).1.display = (m.display.drawCells (ds.flatMap (·.cells m.memory))).1 ∧
    (m.drawAll ds).2 = ds.map fun d => (d.operands m.memory).map fun _ => () := by
  induction ds generalizing m with
  | nil => exact ⟨rfl, rfl⟩
  | cons d ds ih =>
    obtain ⟨hdisplay, hmemory, hresult⟩ := m.draw_eq d
    obtain ⟨hdisplays, hresults⟩ := ih (m.draw d).1
    rw [hmemory] at hdisplays hresults
    rw [hdisplay] at hdisplays
    refine ⟨?_, congrArg₂ List.cons hresult hresults⟩
    rw [List.flatMap_cons, Display.drawCells_append]
    exact hdisplays

theorem screen_drawAll_of_parity (m : Machine) {ds es : List Drawing}
    (h : ∀ p, (ds.flatMap (·.cells m.memory)).count p % 2 =
      (es.flatMap (·.cells m.memory)).count p % 2) :
    (m.drawAll ds).1.display.screen = (m.drawAll es).1.display.screen := by
  rw [(m.drawAll_eq ds).1, (m.drawAll_eq es).1]
  exact Display.screen_drawCells_of_parity _ h

/-- The order does not matter. -/
theorem drawAll_perm (m : Machine) {ds es : List Drawing} (h : ds.Perm es) :
    (m.drawAll ds).1.display.screen = (m.drawAll es).1.display.screen ∧
    (m.drawAll ds).2.Perm (m.drawAll es).2 := by
  refine ⟨m.screen_drawAll_of_parity fun p => ?_, ?_⟩
  · rw [(h.flatMap_right _).count_eq]
  · rw [(m.drawAll_eq ds).2, (m.drawAll_eq es).2]
    exact h.map _

/-- Two draws with the same operands cancel, wherever they stand. -/
theorem drawAll_cancel (m : Machine) (as bs cs : List Drawing) {d e : Drawing}
    (h : d.operands m.memory = e.operands m.memory) :
    (m.drawAll (as ++ d :: bs ++ e :: cs)).1.display.screen =
      (m.drawAll (as ++ bs ++ cs)).1.display.screen := by
  have hcells : d.cells m.memory = e.cells m.memory := by rw [Drawing.cells, Drawing.cells, h]
  refine m.screen_drawAll_of_parity fun p => ?_
  simp only [List.flatMap_append, List.flatMap_cons, List.count_append, hcells]
  omega

end Machine

/-! ## 3. The same draw twice -/

theorem Drawing.bounds_of_operands {d : Drawing} {memory : Memory} {o : Byte × Byte × List Byte}
    (h : d.operands memory = .ok o) :
    d.x.toNat < 16 ∧ d.y.toNat < 16 ∧ d.registers.i.toNat + d.rows.toNat ≤ 4096 := by
  unfold operands at h
  cases hx : d.registers.get d.x with
  | error c =>
    rw [hx] at h
    cases h
  | ok left =>
    rw [hx] at h
    cases hy : d.registers.get d.y with
    | error c =>
      rw [hy] at h
      cases h
    | ok top =>
      rw [hy] at h
      refine ⟨?_, ?_, ?_⟩
      · refine Nat.lt_of_not_le fun hle => ?_
        rw [Registers.get_of_le _ hle] at hx
        cases hx
      · refine Nat.lt_of_not_le fun hle => ?_
        rw [Registers.get_of_le _ hle] at hy
        cases hy
      · refine missing?_eq_none_iff.mp ?_
        rw [Memory.slice, Memory.checkRange_eq] at h
        cases hm : missing? d.registers.i.toNat d.rows.toNat with
        | none => rfl
        | some k =>
          rw [hm] at h
          cases h

namespace Table

variable {x y : Reg} {rows : Byte}

/-- What a sprite covers depends on memory and on where the index register points. -/
theorem covers_congr {m m' : Machine} (hmemory : m'.memory = m.memory)
    (hindex : m'.registers.i = m.registers.i) (left top n : Nat) (p : Position) :
    Covers m' left top n p ↔ Covers m left top n p := by
  simp only [Covers, Bit, cell, hmemory, hindex]

/-- A draw inverts the covered pixels, tells in VF whether one of them was lit, and changes nothing
    that the same draw reads, unless its coordinates are in VF. -/
theorem execute_draw_of_le (m : Machine) (hx : x.toNat < 16) (hy : y.toNat < 16)
    (hn : rows.toNat ≤ 32) (hi : m.registers.i.toNat + rows.toNat ≤ 4096) :
    ∃ m', m.execute (.draw x y rows) = (m', .ok ()) ∧
      (∀ p, m'.display.lit p =
        (m.display.lit p ^^ decide (Covers m (v m x.toNat) (v m y.toNat) rows.toNat p))) ∧
      (v m' 0xF = 1 ↔ ∃ p, Covers m (v m x.toNat) (v m y.toNat) rows.toNat p ∧
        m.display.lit p = true) ∧
      m'.memory = m.memory ∧ m'.registers.i = m.registers.i ∧ ∀ k < 15, v m' k = v m k := by
  have hdrawn := drawn_drawCells m (v m x.toNat) (v m y.toNat) rows.toNat
  have hexecute := execute_drawCells m hx hy hi
  dsimp only at hexecute
  generalize m.display.drawCells _ = drawing at hdrawn hexecute
  obtain ⟨display, hit⟩ := drawing
  have hhit : hit.toNat < 256 := Nat.lt_of_le_of_lt hit.toNat_le (by decide)
  refine ⟨_, hexecute, hdrawn.lit_of_le hn, ?_, memory_put m 0xF hit.toNat,
    index_put m 0xF hit.toNat, fun k hk => ?_⟩
  · show v (put m 0xF hit.toNat) 0xF = 1 ↔ _
    rw [v_put m _ _ (by decide) hhit, if_pos rfl, Bool.toNat_eq_one]
    exact hdrawn.hit_iff_of_le hn
  · show v (put m 0xF hit.toNat) k = _
    rw [v_put m _ _ (Nat.lt_of_lt_of_le hk (by decide)) hhit, if_neg (Nat.ne_of_lt hk)]

/-- **Drawn again, a sprite is erased.** From coordinates that are not in VF the second draw finds
    the same coordinates and the same sprite. The pixels that it finds lit are those that were not
    lit before. -/
theorem draw_twice (m : Machine) (hx : x.toNat < 15) (hy : y.toNat < 15) (hn : rows.toNat ≤ 32)
    (hi : m.registers.i.toNat + rows.toNat ≤ 4096) :
    let once := m.execute (.draw x y rows)
    let twice := once.1.execute (.draw x y rows)
    twice.2 = .ok () ∧ twice.1.display.screen = m.display.screen ∧
    (v once.1 0xF = 1 ↔ ∃ p, Covers m (v m x.toNat) (v m y.toNat) rows.toNat p ∧
      m.display.lit p = true) ∧
    (v twice.1 0xF = 1 ↔ ∃ p, Covers m (v m x.toNat) (v m y.toNat) rows.toNat p ∧
      m.display.lit p = false) := by
  obtain ⟨m₁, h₁, hlit₁, hflag₁, hmemory, hindex, hv⟩ :=
    execute_draw_of_le m (x := x) (y := y) (by omega) (by omega) hn hi
  obtain ⟨m₂, h₂, hlit₂, hflag₂, -⟩ :=
    execute_draw_of_le m₁ (x := x) (y := y) (by omega) (by omega) hn (hindex.symm ▸ hi)
  rw [hv _ hx, hv _ hy] at hlit₂ hflag₂
  simp only [covers_congr hmemory hindex] at hlit₂ hflag₂
  intro once twice
  have honce : once = (m₁, .ok ()) := h₁
  have htwice : twice = (m₂, .ok ()) :=
    (congrArg (fun r => r.1.execute (.draw x y rows)) honce).trans h₂
  rw [htwice, honce]
  refine ⟨rfl, Screen.ext_lit fun p => ?_, hflag₁, hflag₂.trans (exists_congr fun p => ?_)⟩
  · show m₂.display.lit p = m.display.lit p
    rw [hlit₂, hlit₁, Bool.xor_assoc, Bool.xor_self, Bool.xor_false]
  · refine and_congr_right fun hcovers => ?_
    rw [hlit₁, decide_eq_true hcovers, Bool.xor_true, Bool.not_eq_true']

end Table

namespace Machine

open Table

/-- **Drawing acts on the screen by exclusive or**, with an afterglow and without. A list of draws
    inverts each pixel as often as they cover it. So it leaves the same screen in every order, in
    which the same draws are refused, and two draws of one sprite at one place cancel wherever they
    stand. A sprite not taller than the screen that is drawn twice in a row leaves the whole screen
    as it was, if its coordinates are not in VF. VF tells then of the first draw whether a covered
    pixel was lit, and of the second whether one was not. -/
theorem drawAll_xor (m : Machine) :
    (∀ ds p, (m.drawAll ds).1.display.lit p =
      (m.display.lit p ^^ decide ((ds.flatMap (·.cells m.memory)).count p % 2 = 1))) ∧
    (∀ ds es : List Drawing, ds.Perm es →
      (m.drawAll ds).1.display.screen = (m.drawAll es).1.display.screen ∧
      (m.drawAll ds).2.Perm (m.drawAll es).2) ∧
    (∀ as bs cs d e, d.operands m.memory = e.operands m.memory →
      (m.drawAll (as ++ d :: bs ++ e :: cs)).1.display.screen =
        (m.drawAll (as ++ bs ++ cs)).1.display.screen) ∧
    ∀ (x y : Reg) (rows : Byte), x ≠ 0xF → y ≠ 0xF → rows.toNat ≤ 32 →
      (m.execute (.draw x y rows)).2 = .ok () →
      let once := m.execute (.draw x y rows)
      let twice := once.1.execute (.draw x y rows)
      twice.2 = .ok () ∧ twice.1.display.screen = m.display.screen ∧
      (v once.1 0xF = 1 ↔ ∃ p, Covers m (v m x.toNat) (v m y.toNat) rows.toNat p ∧
        m.display.lit p = true) ∧
      (v twice.1 0xF = 1 ↔ ∃ p, Covers m (v m x.toNat) (v m y.toNat) rows.toNat p ∧
        m.display.lit p = false) := by
  refine ⟨fun ds p => ?_, fun _ _ h => m.drawAll_perm h, fun as bs cs _ _ h =>
    m.drawAll_cancel as bs cs h, fun x y rows hx hy hn hok => ?_⟩
  · rw [(m.drawAll_eq ds).1, Display.lit_drawCells]
  · have hresult := (m.draw_eq ⟨m.registers, x, y, rows⟩).2.2
    have hdraw : m.draw ⟨m.registers, x, y, rows⟩ = m.execute (.draw x y rows) := rfl
    rw [hdraw, hok] at hresult
    cases ho : (Drawing.mk m.registers x y rows).operands m.memory with
    | error c =>
      rw [ho] at hresult
      cases hresult
    | ok operands =>
      obtain ⟨hx16, hy16, hi⟩ := Drawing.bounds_of_operands ho
      have hx15 : x.toNat ≠ 15 := fun e => hx (UInt8.toNat_inj.mp e)
      have hy15 : y.toNat ≠ 15 := fun e => hy (UInt8.toNat_inj.mp e)
      exact draw_twice m (Nat.lt_of_le_of_ne (Nat.le_of_lt_succ hx16) hx15)
        (Nat.lt_of_le_of_ne (Nat.le_of_lt_succ hy16) hy15) hn hi

/-- A machine that points to the glyph of 0 and to a place near the lower right corner of its screen,
    where one pixel is lit. -/
def scribbling : Machine where
  registers := { v := ((Vector.replicate registerCount 0).set 0 62).set 1 30 }
  display := ((Display.fading 3).toggle (.wrap 62 30)).1

/-- The glyph of 0 at that place. -/
def zero : Drawing := ⟨scribbling.registers, 0, 1, 5⟩

/-- The same from other registers. -/
def otherZero : Drawing := ⟨{ v := (Vector.replicate registerCount 62).set 7 30 }, 4, 7, 5⟩

/-- The glyph of 8 over it. -/
def eight : Drawing := ⟨{ v := .replicate registerCount 61, i := 40 }, 2, 3, 5⟩

/-- The glyphs of 0 cancel around that of 8, and over the edges of the screen. -/
theorem drawAll_xor_scribbling :
    [zero, eight, otherZero].Perm [eight, zero, otherZero] ∧
    (scribbling.drawAll [zero, eight, otherZero]).1.display.screen =
      (scribbling.drawAll [eight, zero, otherZero]).1.display.screen ∧
    zero.operands scribbling.memory = otherZero.operands scribbling.memory ∧
    (scribbling.drawAll [zero, eight, otherZero]).1.display.screen =
      (scribbling.drawAll [eight]).1.display.screen ∧
    (scribbling.execute (.draw 0 1 5)).2 = .ok () ∧
    v (scribbling.execute (.draw 0 1 5)).1 0xF = 1 ∧
    v ((scribbling.execute (.draw 0 1 5)).1.execute (.draw 0 1 5)).1 0xF = 1 := by
  obtain ⟨-, hperm, hcancel, htwice⟩ := drawAll_xor scribbling
  have hp : [zero, eight, otherZero].Perm [eight, zero, otherZero] := .swap ..
  have ho : zero.operands scribbling.memory = otherZero.operands scribbling.memory := by
    decide +kernel
  have hok : (scribbling.execute (.draw 0 1 5)).2 = .ok () := by decide +kernel
  obtain ⟨-, -, honce, hagain⟩ := htwice 0 1 5 (by decide) (by decide) (by decide) hok
  have hleft : v scribbling (0 : Byte).toNat = 62 := by decide +kernel
  have htop : v scribbling (1 : Byte).toNat = 30 := by decide +kernel
  rw [hleft, htop] at honce hagain
  have hlit : Covers scribbling 62 30 5 (.wrap 62 30) ∧
      scribbling.display.lit (.wrap 62 30) = true := by decide +kernel
  have hunlit : Covers scribbling 62 30 5 (.wrap 63 30) ∧
      scribbling.display.lit (.wrap 63 30) = false := by decide +kernel
  have hscreen := hcancel [] [eight] [] _ _ ho
  rw [List.nil_append, List.nil_append, List.append_nil, List.cons_append, List.singleton_append]
    at hscreen
  exact ⟨hp, (hperm _ _ hp).1, ho, hscreen, hok, honce.mpr ⟨_, hlit⟩, hagain.mpr ⟨_, hunlit⟩⟩

end Machine

end Chip8
