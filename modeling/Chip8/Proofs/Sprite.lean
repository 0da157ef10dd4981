/-
  File:      Chip8/Proofs/Sprite.lean
  Subject:   What drawing a sprite does, pixel by pixel.

  A sprite is drawn by inverting one covered pixel after the other. Here the whole drawing is
  read as one change of the screen:

  * `mem_spriteCells`: the covered pixels are those under a bit of the sprite;
  * `nodup_spriteCells`: a sprite not taller than the screen covers no pixel twice;
  * `lit_drawCells`: a pixel is inverted as often as it is covered;
  * `drawCells_of_nodup`: without repetition the covered pixels are inverted at once
    (`Display.invert`), and a lit pixel is hit exactly if one of them was lit before.
-/
import Mathlib.Data.List.Nodup
import Chip8.Display

namespace Chip8

/-! ## 1. Screens and afterglows, pixel by pixel -/

namespace Position

theorem wrap_index (p : Position) : Position.wrap p.index (p.index / screenWidth) = p := by
  obtain ⟨x, y⟩ := p
  have hx := x.isLt
  have hy := y.isLt
  simp only [wrap, index, Position.mk.injEq, Fin.ext_iff, screenWidth, screenHeight] at *
  omega

theorem index_wrap (k : Fin (screenWidth * screenHeight)) :
    (Position.wrap k (k / screenWidth)).index = k := by
  have hk := k.isLt
  simp only [wrap, index, Fin.ext_iff, screenWidth, screenHeight] at *
  omega

end Position

namespace Screen

theorem lit_ofFn (f : Position → Bool) (p : Position) : (ofFn f).lit p = f p := by
  simp only [ofFn, lit, Fin.getElem_fin, Vector.getElem_ofFn]
  rw [Position.wrap_index]

/-- A screen is determined by which pixels are lit. -/
theorem ext_lit {s t : Screen} (h : ∀ p, s.lit p = t.lit p) : s = t := by
  cases s with
  | mk a =>
    cases t with
    | mk b =>
      congr 1
      refine Vector.ext fun k hk => ?_
      have hp := h (Position.wrap k (k / screenWidth))
      simp only [lit, Position.index_wrap ⟨k, hk⟩] at hp
      exact hp

end Screen

namespace Afterglow

theorem glow_eq (g : Afterglow) (p : Position) :
    g.glow p = getElem g.left (p.index : Nat) p.index.isLt := rfl

theorem glow_start (g : Afterglow) (p q : Position) :
    (g.start p).glow q = if q = p then g.fade else g.glow q := by
  simp only [glow_eq, start, Vector.getElem_setIfInBounds]
  by_cases h : q = p
  · simp [h]
  · have : (p.index : Nat) ≠ q.index := fun e => h (Position.index_inj.mp (Fin.ext e)).symm
    simp [h, this]

/-- An afterglow is determined by its length and the glow of every pixel. -/
theorem ext_glow {g h : Afterglow} (hf : g.fade = h.fade) (hg : ∀ p, g.glow p = h.glow p) :
    g = h := by
  cases g with
  | mk f a =>
    cases h with
    | mk f' b =>
      simp only at hf
      subst hf
      congr 1
      refine Vector.ext fun k hk => ?_
      have hp := hg (Position.wrap k (k / screenWidth))
      simp only [glow_eq, Position.index_wrap ⟨k, hk⟩] at hp
      exact hp

/-- The glow of all pixels of a set starts anew at once. -/
def restart (g : Afterglow) (f : Position → Bool) : Afterglow :=
  { g with left := .ofFn fun k => if f (.wrap k (k / screenWidth)) then g.fade else g.left[k] }

theorem fade_restart (g : Afterglow) (f : Position → Bool) : (g.restart f).fade = g.fade := by
  rw [restart]

theorem fade_start (g : Afterglow) (p : Position) : (g.start p).fade = g.fade := by
  rw [start]

theorem glow_restart (g : Afterglow) (f : Position → Bool) (p : Position) :
    (g.restart f).glow p = if f p then g.fade else g.glow p := by
  simp only [glow_eq, restart, Vector.getElem_ofFn, Fin.getElem_fin]
  rw [Position.wrap_index]

/-- Restarting two sets of pixels, one after the other, restarts all of them. -/
theorem restart_restart (g : Afterglow) (f f' : Position → Bool) :
    (g.restart f).restart f' = g.restart fun p => f p || f' p := by
  refine ext_glow ?_ fun p => ?_
  · rw [fade_restart, fade_restart, fade_restart]
  · rw [glow_restart, glow_restart, glow_restart, fade_restart]
    cases f p <;> cases f' p <;> rfl

end Afterglow

namespace Display

theorem ext_lit {d e : Display} (hl : ∀ p, d.lit p = e.lit p) (hg : d.afterglow = e.afterglow) :
    d = e := by
  cases d with
  | mk s g =>
    cases e with
    | mk t g' =>
      simp only at hg
      subst hg
      rw [Screen.ext_lit (s := s) (t := t) hl]

/-- The display with all pixels of a set inverted at once. Those that go off start to glow. -/
def invert (d : Display) (f : Position → Bool) : Display :=
  { screen := .ofFn fun p => d.lit p ^^ f p
    afterglow := d.afterglow.map (·.restart fun p => d.lit p && f p) }

theorem lit_invert (d : Display) (f : Position → Bool) (p : Position) :
    (d.invert f).lit p = (d.lit p ^^ f p) := by
  show (Screen.ofFn fun p => d.lit p ^^ f p).lit p = _
  rw [Screen.lit_ofFn]

end Display

/-! ## 2. The covered pixels -/

theorem mem_spriteColumns {b : Byte} {c : Nat} :
    c ∈ spriteColumns b ↔ c < 8 ∧ b.toNat.testBit (7 - c) = true := by
  simp only [spriteColumns, List.mem_filter, List.mem_range]

/-- **The covered pixels are those under a bit of the sprite.** -/
theorem mem_spriteCells {x y : Nat} {rows : List Byte} {p : Position} :
    p ∈ spriteCells x y rows ↔ ∃ r b, rows[r]? = some b ∧
      ∃ c < 8, b.toNat.testBit (7 - c) = true ∧ p = .wrap (x + c) (y + r) := by
  simp only [spriteCells, List.mem_flatMap, List.mem_map, mem_spriteColumns]
  constructor
  · intro h
    obtain ⟨⟨b, r⟩, hr, c, ⟨hc, hb⟩, rfl⟩ := h
    exact ⟨r, b, List.mem_zipIdx_iff_getElem?.mp hr, c, hc, hb, rfl⟩
  · intro h
    obtain ⟨r, b, hr, c, hc, hb, rfl⟩ := h
    exact ⟨(b, r), List.mem_zipIdx_iff_getElem?.mpr hr, c, ⟨hc, hb⟩, rfl⟩

/-- Two columns of a row lie on different pixels. -/
theorem wrap_column_inj {x y c c' : Nat} (hc : c < 8) (hc' : c' < 8)
    (h : Position.wrap (x + c) y = .wrap (x + c') y) : c = c' := by
  simp only [Position.wrap, Position.mk.injEq, Fin.mk.injEq, and_true, screenWidth] at h
  omega

/-- Two rows less than a screen apart have no pixel in common. -/
theorem wrap_row_inj {x x' y r r' : Nat} (hr : r < screenHeight) (hr' : r' < screenHeight)
    (h : Position.wrap x (y + r) = .wrap x' (y + r')) : r = r' := by
  simp only [Position.wrap, Position.mk.injEq, Fin.mk.injEq, screenHeight] at h hr hr'
  omega

/-- **A sprite not taller than the screen covers no pixel twice.** -/
theorem nodup_spriteCells (x y : Nat) {rows : List Byte} (h : rows.length ≤ screenHeight) :
    (spriteCells x y rows).Nodup := by
  rw [spriteCells, List.nodup_flatMap]
  refine ⟨fun br _ => ?_, ?_⟩
  · refine List.Nodup.map_on (fun c hc c' hc' e => ?_) (List.nodup_range.filter _)
    exact wrap_column_inj (mem_spriteColumns.mp hc).1 (mem_spriteColumns.mp hc').1 e
  · have hn : (rows.zipIdx.map Prod.snd).Nodup := by
      rw [List.zipIdx_map_snd]
      exact List.nodup_range'
    refine (List.pairwise_map.mp hn).imp_of_mem fun {a b} ha hb hne => ?_
    have hra := List.snd_lt_of_mem_zipIdx ha
    have hrb := List.snd_lt_of_mem_zipIdx hb
    refine List.disjoint_left.mpr fun p hp hp' => ?_
    obtain ⟨c, -, rfl⟩ := List.mem_map.mp hp
    obtain ⟨c', -, e⟩ := List.mem_map.mp hp'
    exact hne (wrap_row_inj (by omega) (by omega) e).symm

/-! ## 3. Drawing -/

namespace Display

/-- **A pixel is inverted as often as it is covered.** -/
theorem lit_drawCells (d : Display) (cells : List Position) (p : Position) :
    (d.drawCells cells).1.lit p = (d.lit p ^^ decide (cells.count p % 2 = 1)) := by
  induction cells generalizing d with
  | nil => simp [drawCells]
  | cons q qs ih =>
    simp only [drawCells]
    rw [ih, lit_toggle, List.count_cons]
    by_cases h : p = q
    · subst h
      rw [if_pos rfl, if_pos (beq_self_eq_true p)]
      rcases Nat.mod_two_eq_zero_or_one (qs.count p) with e | e
      · have e' : (qs.count p + 1) % 2 = 1 := by omega
        simp [e, e']
      · have e' : (qs.count p + 1) % 2 = 0 := by omega
        simp [e, e']
    · have hb : (q == p) = false := by simpa using fun e : q = p => h e.symm
      rw [if_neg h, hb]
      simp

/-- A pixel that occurs once is inverted if it occurs. -/
theorem lit_drawCells_of_nodup (d : Display) {cells : List Position} (hn : cells.Nodup)
    (p : Position) : (d.drawCells cells).1.lit p = (d.lit p ^^ decide (p ∈ cells)) := by
  rw [lit_drawCells, hn.count]
  by_cases h : p ∈ cells <;> simp [h]

/-- **A lit pixel is hit exactly if one of them was lit before**, when none repeats. -/
theorem hit_drawCells_of_nodup (d : Display) {cells : List Position} (hn : cells.Nodup) :
    (d.drawCells cells).2 = true ↔ ∃ p ∈ cells, d.lit p = true := by
  induction cells generalizing d with
  | nil => simp [drawCells]
  | cons q qs ih =>
    obtain ⟨hq, hqs⟩ := List.nodup_cons.mp hn
    have hrest : ∀ p ∈ qs, (d.toggle q).1.lit p = d.lit p := by
      intro p hp
      rw [lit_toggle, if_neg]
      rintro rfl
      exact hq hp
    simp only [drawCells, Bool.or_eq_true, List.mem_cons, exists_eq_or_imp]
    rw [ih _ hqs]
    refine or_congr Iff.rfl (exists_congr fun p => and_congr_right fun hp => ?_)
    rw [hrest p hp]

/-- One toggled pixel starts to glow if it was lit. -/
theorem afterglow_toggle (d : Display) (q : Position) :
    (d.toggle q).1.afterglow =
      d.afterglow.map (·.restart fun p => d.lit p && decide (p = q)) := by
  cases hd : d.afterglow with
  | none => simp [toggle, setPixel, hd]
  | some g =>
    rw [Option.map_some]
    by_cases hl : d.lit q = true
    · have e : (d.toggle q).1.afterglow = some (g.start q) := by simp [toggle, setPixel, hd, hl]
      rw [e]
      refine congrArg some (Afterglow.ext_glow ?_ fun p => ?_)
      · rw [Afterglow.fade_start, Afterglow.fade_restart]
      rw [Afterglow.glow_restart, Afterglow.glow_start]
      by_cases hp : p = q
      · simp [hp, hl]
      · simp [hp]
    · have e : (d.toggle q).1.afterglow = some g := by simp [toggle, setPixel, hd, hl]
      rw [e]
      refine congrArg some (Afterglow.ext_glow ?_ fun p => ?_)
      · rw [Afterglow.fade_restart]
      rw [Afterglow.glow_restart]
      by_cases hp : p = q
      · simp [hp, hl]
      · simp [hp]

/-- The covered pixels that were lit start to glow, when none repeats. -/
theorem afterglow_drawCells_of_nodup (d : Display) {cells : List Position} (hn : cells.Nodup) :
    (d.drawCells cells).1.afterglow =
      d.afterglow.map (·.restart fun p => d.lit p && decide (p ∈ cells)) := by
  induction cells generalizing d with
  | nil =>
    have e : (fun g : Afterglow => g.restart fun p => d.lit p && decide (p ∈ [])) = id := by
      funext g
      refine Afterglow.ext_glow ?_ fun p => ?_
      · rw [Afterglow.fade_restart, id]
      · rw [Afterglow.glow_restart]
        simp
    rw [drawCells, e, Option.map_id, id]
  | cons q qs ih =>
    obtain ⟨hq, hqs⟩ := List.nodup_cons.mp hn
    simp only [drawCells]
    rw [ih _ hqs, afterglow_toggle, Option.map_map]
    have e : (fun p => d.lit p && decide (p = q) || (d.toggle q).1.lit p && decide (p ∈ qs)) =
        fun p => d.lit p && decide (p ∈ q :: qs) := by
      funext p
      rw [lit_toggle]
      by_cases hp : p = q
      · subst hp
        simp [hq]
      · simp [hp]
    refine congrArg (d.afterglow.map ·) (funext fun g => ?_)
    rw [Function.comp_apply, Afterglow.restart_restart, e]

/-- **Pixels of which none repeats are inverted at once.** -/
theorem drawCells_of_nodup (d : Display) {cells : List Position} (hn : cells.Nodup) :
    (d.drawCells cells).1 = d.invert fun p => decide (p ∈ cells) := by
  refine ext_lit (fun p => ?_) (afterglow_drawCells_of_nodup d hn)
  rw [lit_drawCells_of_nodup d hn, lit_invert]

end Display

end Chip8
