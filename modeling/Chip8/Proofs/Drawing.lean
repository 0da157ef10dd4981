/-
  File:      Chip8/Proofs/Drawing.lean
  Subject:   What drawing does to each pixel, for sprites of any height.

  A sprite of more rows than the screen has comes back to pixels that it has inverted before. So
  the order of its bits matters, and a pixel is inverted as often as bits fall on it.

  * `Display.GoesOff`: a pixel is lit when its turn comes; `hit_drawCells_iff`,
    `glow_drawCells`: what that tells;
  * `Table.spriteBits`: the bits of a sprite in the order in which they are drawn, and the cells
    as their pixels (`spriteCells_eq`);
  * `Table.bitsOn`: the bits that fall on a pixel; `Table.Erases`: one of them finds it lit;
  * `card_bitsOn_le_one`: not more than one does, unless the sprite is taller than the screen;
  * `Drawn`: what drawing a sprite makes of the display and of VF; `execute_draw`: the whole
    instruction.
-/
import Mathlib.Data.Finset.Card
import Mathlib.Data.Finset.Prod
import Chip8.Proofs.Fading
import Chip8.Proofs.Spelling

namespace Chip8

/-! ## 1. Pixels that are lit when their turn comes -/

namespace Display

variable {p : Position}

/-- Of the pixels that are inverted one after the other, this one is lit at one of its turns. -/
def GoesOff (d : Display) (cells : List Position) (p : Position) : Prop :=
  ∃ before after, cells = before ++ p :: after ∧ (d.drawCells before).1.lit p = true

theorem goesOff_cons (d : Display) (q : Position) (qs : List Position) (p : Position) :
    d.GoesOff (q :: qs) p ↔ p = q ∧ d.lit q = true ∨ (d.toggle q).1.GoesOff qs p := by
  constructor
  · intro h
    obtain ⟨before, after, hcells, hlit⟩ := h
    cases before with
    | nil =>
      cases hcells
      exact .inl ⟨rfl, hlit⟩
    | cons _ before =>
      cases hcells
      exact .inr ⟨before, after, rfl, hlit⟩
  · intro h
    rcases h with ⟨rfl, hlit⟩ | ⟨before, after, rfl, hlit⟩
    · exact ⟨[], qs, rfl, hlit⟩
    · exact ⟨q :: before, after, rfl, hlit⟩

/-- **A hit is told exactly if some pixel is lit when its turn comes.** -/
theorem hit_drawCells_iff (d : Display) (cells : List Position) :
    (d.drawCells cells).2 = true ↔ ∃ p, d.GoesOff cells p := by
  induction cells generalizing d with
  | nil =>
    refine iff_of_false Bool.false_ne_true fun h => ?_
    obtain ⟨p, before, after, hcells, -⟩ := h
    simp at hcells
  | cons q qs ih =>
    show (d.lit q || ((d.toggle q).1.drawCells qs).2) = true ↔ _
    rw [Bool.or_eq_true, ih]
    simp only [goesOff_cons, exists_or, exists_eq_left]

theorem fade_drawCells (d : Display) (cells : List Position) :
    (d.drawCells cells).1.fade = d.fade := by
  induction cells generalizing d with
  | nil => rfl
  | cons q qs ih => exact (ih _).trans (fade_setPixel ..)

theorem isSome_drawCells (d : Display) (cells : List Position) :
    (d.drawCells cells).1.afterglow.isSome = d.afterglow.isSome := by
  induction cells generalizing d with
  | nil => rfl
  | cons q qs ih =>
    have htoggle := congrArg Option.isSome (d.afterglow_toggle q)
    exact (ih _).trans (htoggle.trans Option.isSome_map)

/-- **A pixel starts to glow exactly if it is lit when its turn comes.** -/
theorem glow_drawCells (d : Display) (cells : List Position) (p : Position) :
    (d.GoesOff cells p → (d.drawCells cells).1.glow p = d.fade) ∧
      (¬ d.GoesOff cells p → (d.drawCells cells).1.glow p = d.glow p) := by
  induction cells generalizing d with
  | nil =>
    refine ⟨fun h => ?_, fun _ => rfl⟩
    obtain ⟨before, after, hcells, -⟩ := h
    simp at hcells
  | cons q qs ih =>
    obtain ⟨hgoes, hstays⟩ := ih (d.toggle q).1
    have hfade : (d.toggle q).1.fade = d.fade := fade_setPixel ..
    have hglow := d.glow_toggle p q
    rw [goesOff_cons]
    by_cases h : (d.toggle q).1.GoesOff qs p
    · exact ⟨fun _ => (hgoes h).trans hfade, fun hn => absurd (.inr h) hn⟩
    · refine ⟨fun hq => ?_, fun hn => ?_⟩
      · rw [if_pos (hq.resolve_right h)] at hglow
        exact (hstays h).trans hglow
      · rw [if_neg fun hq => hn (.inl hq)] at hglow
        exact (hstays h).trans hglow

end Display

namespace Table

open Effect Instruction

/-! ## 2. The bits of a sprite -/

variable {m : Machine} {left top n : Nat} {p : Position}

/-- The pixel on which a bit falls. -/
def pixelOf (left top : Nat) (b : Nat × Nat) : Position := .wrap (left + b.2) (top + b.1)

/-- The bits of the sprite of `n` rows by row and column, in the order in which they are drawn. -/
def spriteBits (m : Machine) (n : Nat) : List (Nat × Nat) :=
  (List.range n).flatMap fun r => ((List.range 8).filter fun c => Bit m r c).map fun c => (r, c)

/-- The first bit stands in a row above the second, or in the same row further left. -/
abbrev Precedes (a b : Nat × Nat) : Prop := a.1 < b.1 ∨ a.1 = b.1 ∧ a.2 < b.2

theorem mem_spriteBits {b : Nat × Nat} :
    b ∈ spriteBits m n ↔ b.1 < n ∧ b.2 < 8 ∧ Bit m b.1 b.2 := by
  simp only [spriteBits, List.mem_flatMap, List.mem_map, List.mem_filter, List.mem_range,
    decide_eq_true_eq]
  constructor
  · intro h
    obtain ⟨r, hr, c, hc, rfl⟩ := h
    exact ⟨hr, hc⟩
  · intro h
    exact ⟨b.1, h.1, b.2, h.2, rfl⟩

/-- They are drawn row by row, from the left. -/
theorem pairwise_spriteBits (m : Machine) (n : Nat) : (spriteBits m n).Pairwise Precedes := by
  rw [spriteBits, List.pairwise_flatMap]
  refine ⟨fun r _ => ?_, List.pairwise_lt_range.imp fun {r r'} hr a ha b hb => ?_⟩
  · rw [List.pairwise_map]
    exact (List.pairwise_lt_range.filter _).imp fun hc => .inr ⟨rfl, hc⟩
  · obtain ⟨c, -, rfl⟩ := List.mem_map.mp ha
    obtain ⟨c', -, rfl⟩ := List.mem_map.mp hb
    exact .inl hr

theorem nodup_spriteBits (m : Machine) (n : Nat) : (spriteBits m n).Nodup :=
  (pairwise_spriteBits m n).imp fun {a b} h e => by
    subst e
    omega

/-- The cells of a sprite in memory are the pixels of its bits, in the same order. -/
theorem spriteCells_eq (m : Machine) (left top : Nat) (h : m.registers.i.toNat + n ≤ 4096) :
    spriteCells left top (m.memory.cells.extract m.registers.i.toNat
      (m.registers.i.toNat + n)).toList = (spriteBits m n).map (pixelOf left top) := by
  generalize hrows : (m.memory.cells.extract m.registers.i.toNat
    (m.registers.i.toNat + n)).toList = rows
  have hlen : rows.length = n := by
    rw [← hrows, Vector.length_toList, memorySize]
    omega
  have hrange : List.range n = rows.zipIdx.map Prod.snd := by
    rw [List.zipIdx_map_snd, hlen, List.range_eq_range']
  rw [spriteCells, spriteBits, hrange, List.flatMap_map, List.map_flatMap]
  refine List.flatMap_congr fun br hbr => ?_
  obtain ⟨b, r⟩ := br
  have hr : rows[r]? = some b := List.mem_zipIdx_iff_getElem?.mp hbr
  rw [← hrows, getElem?_range m h] at hr
  have hcolumns : spriteColumns b = (List.range 8).filter fun c => Bit m r c := by
    rw [spriteColumns]
    simp only [Bit, hr.2, Bool.decide_eq_true]
  show (spriteColumns b).map (fun c => Position.wrap (left + c) (top + r)) = _
  rw [hcolumns, List.map_map]
  rfl

/-- The bits of the sprite of `n` rows that fall on a pixel. -/
def bitsOn (m : Machine) (left top n : Nat) (p : Position) : Finset (Nat × Nat) :=
  (Finset.range n ×ˢ Finset.range 8).filter fun b =>
    Bit m b.1 b.2 ∧ p.x.val = (left + b.2) % 64 ∧ p.y.val = (top + b.1) % 32

theorem mem_bitsOn {b : Nat × Nat} :
    b ∈ bitsOn m left top n p ↔ b ∈ spriteBits m n ∧ p = pixelOf left top b := by
  rw [bitsOn, Finset.mem_filter, Finset.mem_product, Finset.mem_range, Finset.mem_range,
    mem_spriteBits, pixelOf, eq_wrap_iff, and_assoc, and_assoc, and_assoc]

theorem covers_iff : Covers m left top n p ↔ (bitsOn m left top n p).Nonempty := by
  simp only [Finset.Nonempty, mem_bitsOn, mem_spriteBits, pixelOf, eq_wrap_iff]
  constructor
  · intro h
    obtain ⟨r, hr, c, hc, hbit, hp⟩ := h
    exact ⟨(r, c), ⟨hr, hc, hbit⟩, hp⟩
  · intro h
    obtain ⟨b, ⟨hr, hc, hbit⟩, hp⟩ := h
    exact ⟨b.1, hr, b.2, hc, hbit, hp⟩

/-- Among bits without repetition, as many fall on a pixel as there are different ones. -/
theorem count_pixels {bits : List (Nat × Nat)} (hn : bits.Nodup) (left top : Nat)
    (p : Position) : (bits.map (pixelOf left top)).count p =
      (bits.toFinset.filter fun b => p = pixelOf left top b).card := by
  rw [List.count, List.countP_map, List.countP_eq_length_filter,
    ← List.toFinset_card_of_nodup (hn.filter _), List.toFinset_filter]
  congr 1
  ext b
  rw [Finset.mem_filter, Finset.mem_filter, Function.comp_apply, beq_iff_eq,
    eq_comm (a := pixelOf left top b)]

theorem count_cells (m : Machine) (left top n : Nat) (p : Position) :
    ((spriteBits m n).map (pixelOf left top)).count p = (bitsOn m left top n p).card := by
  rw [count_pixels (nodup_spriteBits m n)]
  congr 1
  ext b
  rw [Finset.mem_filter, List.mem_toFinset, mem_bitsOn]

/-- Bit `b` of the sprite finds the pixel lit. By then the bits before it have inverted the pixel,
    once each. -/
def FindsLit (m : Machine) (left top n : Nat) (b : Nat × Nat) (p : Position) : Prop :=
  (m.display.lit p ^^
    decide (((bitsOn m left top n p).filter fun a => Precedes a b).card % 2 = 1)) = true

/-- Some bit on the pixel finds it lit, and so it goes off. -/
def Erases (m : Machine) (left top n : Nat) (p : Position) : Prop :=
  ∃ b ∈ bitsOn m left top n p, FindsLit m left top n b p

/-- Where the bits of the sprite are cut at one of them, the pixel is as lit as that bit finds it. -/
theorem lit_before_iff {before after : List (Nat × Nat)} {b : Nat × Nat}
    (h : spriteBits m n = before ++ b :: after) (p : Position) :
    (m.display.drawCells (before.map (pixelOf left top))).1.lit p = true ↔
      FindsLit m left top n b p := by
  have hpairs := pairwise_spriteBits m n
  have hnodup := nodup_spriteBits m n
  rw [h] at hpairs hnodup
  obtain ⟨-, htail, hcross⟩ := List.pairwise_append.mp hpairs
  have hbefore : ∀ a, a ∈ before ↔ a ∈ spriteBits m n ∧ Precedes a b := by
    intro a
    rw [h, List.mem_append]
    refine ⟨fun ha => ⟨.inl ha, hcross a ha b List.mem_cons_self⟩, fun ha => ?_⟩
    obtain ⟨ha | ha, hab⟩ := ha
    · exact ha
    · rcases List.mem_cons.mp ha with rfl | ha
      · omega
      · have hba := List.rel_of_pairwise_cons htail ha
        omega
  have hset : before.toFinset.filter (fun a => p = pixelOf left top a) =
      (bitsOn m left top n p).filter fun a => Precedes a b := by
    ext a
    rw [Finset.mem_filter, List.mem_toFinset, hbefore, Finset.mem_filter, mem_bitsOn,
      and_right_comm]
  rw [Display.lit_drawCells, count_pixels (List.nodup_append.mp hnodup).1, hset]
  rfl

/-- **A pixel of the sprite goes off exactly if one of its bits finds it lit.** -/
theorem goesOff_iff : m.display.GoesOff ((spriteBits m n).map (pixelOf left top)) p ↔
    Erases m left top n p := by
  constructor
  · intro h
    obtain ⟨before', after', hcells, hlit⟩ := h
    obtain ⟨before, rest, hbits, rfl, hrest⟩ := List.map_eq_append_iff.mp hcells
    obtain ⟨b, after, rfl, hb, rfl⟩ := List.map_eq_cons_iff.mp hrest
    have hmem : b ∈ spriteBits m n := by
      rw [hbits]
      exact List.mem_append_right _ List.mem_cons_self
    exact ⟨b, mem_bitsOn.mpr ⟨hmem, hb.symm⟩, (lit_before_iff hbits p).mp hlit⟩
  · intro h
    obtain ⟨b, hb, hlit⟩ := h
    obtain ⟨hmem, hp⟩ := mem_bitsOn.mp hb
    obtain ⟨before, after, hbits⟩ := List.append_of_mem hmem
    refine ⟨before.map (pixelOf left top), after.map (pixelOf left top), ?_,
      (lit_before_iff hbits p).mpr hlit⟩
    rw [hbits, List.map_append, List.map_cons, hp]

/-! ## 3. Sprites not taller than the screen -/

/-- Not more than one of their bits falls on a pixel. -/
theorem card_bitsOn_le_one (m : Machine) (left top : Nat) (hn : n ≤ 32) (p : Position) :
    (bitsOn m left top n p).card ≤ 1 := by
  refine Finset.card_le_one.mpr fun a ha b hb => ?_
  simp only [bitsOn, Finset.mem_filter, Finset.mem_product, Finset.mem_range] at ha hb
  exact Prod.ext (by omega) (by omega)

/-- So it finds the pixel as it was before. -/
theorem erases_iff_of_le (hn : n ≤ 32) :
    Erases m left top n p ↔ Covers m left top n p ∧ m.display.lit p = true := by
  have hone := Finset.card_le_one.mp (card_bitsOn_le_one m left top hn p)
  have hfinds : ∀ b ∈ bitsOn m left top n p,
      (FindsLit m left top n b p ↔ m.display.lit p = true) := by
    intro b hb
    have hnone : (bitsOn m left top n p).filter (fun a => Precedes a b) = ∅ := by
      refine Finset.filter_eq_empty_iff.mpr fun a ha => ?_
      rw [hone a ha b hb]
      omega
    rw [FindsLit, hnone, Finset.card_empty]
    simp
  rw [covers_iff]
  constructor
  · intro h
    obtain ⟨b, hb, hlit⟩ := h
    exact ⟨⟨b, hb⟩, (hfinds b hb).mp hlit⟩
  · intro h
    obtain ⟨⟨b, hb⟩, hlit⟩ := h
    exact ⟨b, hb, (hfinds b hb).mpr hlit⟩

/-! ## 4. The instruction -/

/-- A sprite was drawn on the display of `m`, and `hit` told whether a lit pixel went off. -/
structure Drawn (m : Machine) (left top n : Nat) (hit : Bool) (display : Display) : Prop where
  hit_iff : hit = true ↔ ∃ p, Erases m left top n p
  /-- A pixel is inverted as often as bits fall on it. -/
  lit : ∀ p, display.lit p = (m.display.lit p ^^ decide ((bitsOn m left top n p).card % 2 = 1))
  /-- A display without afterglow stays without, and one with it keeps its length. -/
  isSome_afterglow : display.afterglow.isSome = m.display.afterglow.isSome
  fade : display.fade = m.display.fade
  glow_of_erases : ∀ p, Erases m left top n p → display.glow p = m.display.fade
  glow_of_not_erases : ∀ p, ¬ Erases m left top n p → display.glow p = m.display.glow p

theorem drawn_drawCells (m : Machine) (left top n : Nat) :
    Drawn m left top n (m.display.drawCells ((spriteBits m n).map (pixelOf left top))).2
      (m.display.drawCells ((spriteBits m n).map (pixelOf left top))).1 where
  hit_iff := (Display.hit_drawCells_iff ..).trans (exists_congr fun _ => goesOff_iff)
  lit p := by rw [Display.lit_drawCells, count_cells]
  isSome_afterglow := Display.isSome_drawCells ..
  fade := Display.fade_drawCells ..
  glow_of_erases p h := (Display.glow_drawCells ..).1 (goesOff_iff.mpr h)
  glow_of_not_erases p h := (Display.glow_drawCells ..).2 fun hg => h (goesOff_iff.mp hg)

namespace Drawn

variable {hit : Bool} {display : Display}

/-- A sprite not taller than the screen inverts the pixels that it covers. -/
theorem lit_of_le (h : Drawn m left top n hit display) (hn : n ≤ 32) (p : Position) :
    display.lit p = (m.display.lit p ^^ decide (Covers m left top n p)) := by
  have hone := card_bitsOn_le_one m left top hn p
  have hcovers : (bitsOn m left top n p).card % 2 = 1 ↔ Covers m left top n p := by
    rw [covers_iff, ← Finset.card_pos]
    omega
  rw [h.lit, decide_eq_decide.mpr hcovers]

/-- It hits if it covers a lit pixel. -/
theorem hit_iff_of_le (h : Drawn m left top n hit display) (hn : n ≤ 32) :
    hit = true ↔ ∃ p, Covers m left top n p ∧ m.display.lit p = true :=
  h.hit_iff.trans (exists_congr fun _ => erases_iff_of_le hn)

end Drawn

/-- The instruction draws the bits of the sprite one after the other. -/
theorem execute_drawCells (m : Machine) {x y rows : Byte} (hx : x.toNat < 16)
    (hy : y.toNat < 16) (hi : m.registers.i.toNat + rows.toNat ≤ 4096) :
    let drawing := m.display.drawCells
      ((spriteBits m rows.toNat).map (pixelOf (v m x.toNat) (v m y.toNat)))
    m.execute (.draw x y rows) =
      ({ put m 0xF drawing.2.toNat with display := drawing.1 }, .ok ()) := by
  rw [Machine.execute, advance_eq, draw_goOn m _ hx hy hi, spriteCells_eq m _ _ hi]

/-- **A sprite is drawn exactly, pixel by pixel.** A pixel is inverted as often as bits of the
    sprite fall on it, and VF tells whether one of them finds its pixel lit, in the order from the
    top and from the left. Besides, the program counter goes on and the pixels that go off start to
    glow. On a pixel falls not more than one bit of a sprite not taller than the screen, as all are
    that a word can ask for: the covered pixels are inverted, and VF tells whether one of them was
    lit. -/
theorem execute_draw (m : Machine) {x y rows : Byte} (hx : x.toNat < 16) (hy : y.toNat < 16)
    (hi : m.registers.i.toNat + rows.toNat ≤ 4096) :
    let left := v m x.toNat
    let top := v m y.toNat
    let n := rows.toNat
    ∃ (hit : Bool) (display : Display),
      m.execute (.draw x y rows) = ({ put m 0xF hit.toNat with display }, .ok ()) ∧
      Drawn m left top n hit display ∧
      (n ≤ 32 →
        (∀ p, (bitsOn m left top n p).card ≤ 1 ∧
          display.lit p = (m.display.lit p ^^ decide (Covers m left top n p))) ∧
        (hit = true ↔ ∃ p, Covers m left top n p ∧ m.display.lit p = true)) ∧
      (∀ w, decode w = .draw x y rows → n ≤ 15) := by
  intro left top n
  have hdrawn := drawn_drawCells m left top n
  refine ⟨_, _, execute_drawCells m hx hy hi, hdrawn, fun hn => ⟨fun p => ?_, ?_⟩, fun w hw => ?_⟩
  · exact ⟨card_bitsOn_le_one m left top hn p, hdrawn.lit_of_le hn p⟩
  · exact hdrawn.hit_iff_of_le hn
  · have hs := spelled_decode w
    rw [hw] at hs
    obtain ⟨-, -, hrows, -⟩ := hs
    omega

/-- A machine with the number 255 in all registers, and with a bit in the first column of every
    row that it can draw. -/
def striper : Machine :=
  { registers := { v := .replicate registerCount 255 }
    memory := ⟨.replicate memorySize 0x80⟩ }

/-- It draws 33 rows on the last column of a blank screen, from the lowest row on. The last of them
    comes back to the lowest row and switches off what the first has drawn there. Both coordinates
    are read from VF before that becomes the flag. -/
theorem execute_draw_striper :
    striper.registers.i.toNat + (33 : Byte).toNat ≤ 4096 ∧
    ∃ display : Display,
      striper.execute (.draw 0xF 0xF 33) = ({ put striper 0xF 1 with display }, .ok ()) ∧
      display.lit (.wrap 63 31) = false ∧ display.lit (.wrap 63 30) = true := by
  have hi : striper.registers.i.toNat + (33 : Byte).toNat ≤ 4096 := by decide
  obtain ⟨hit, display, hexecute, hdrawn, -⟩ :=
    @execute_draw striper 0xF 0xF 33 (by decide) (by decide) hi
  have hhit : hit = true := by
    refine hdrawn.hit_iff.mpr ⟨.wrap 63 31, (32, 0), ?_, ?_⟩
    · decide +kernel
    · show (_ ^^ decide _) = true
      decide +kernel
  subst hhit
  refine ⟨hi, display, hexecute, ?_, ?_⟩
  · rw [hdrawn.lit]
    decide +kernel
  · rw [hdrawn.lit]
    decide +kernel

end Table

end Chip8
