/-
  File:      Chip8/Proofs/Fading.lean
  Subject:   For how long a pixel glows after it was switched off.

  * `Display.run`: a history of a display; `framesIn`: the frames presented in it;
  * `Display.glow`, `Display.fade`: how long a pixel still glows, and how long one glows at most;
    `glow_of_switchesOff`, `glow_of_not_switchesOff`, `glow_clear`: what a use does to the glow;
  * `LastOff`: where in a history a pixel was switched off last, with no clear behind;
  * `lt_glow_run_iff`: the glow counts the frames since then;
  * `SameAt`: displays that agree on one pixel go on to do so, whatever happens to the others;
  * `visible_run`: all of it together.
-/
import Mathlib.Data.List.Induction
import Chip8.Proofs.Sprite

namespace Chip8

namespace Display

variable {d e : Display} {p : Position}

/-! ## 1. Histories -/

/-- The display after a history. -/
def run (d : Display) (cs : List Command) : Display := cs.foldl (fun d c => (d.perform c).1) d

theorem run_concat (d : Display) (cs : List Command) (c : Command) :
    d.run (cs ++ [c]) = ((d.run cs).perform c).1 := by
  rw [run, List.foldl_concat]
  rfl

/-- The frames that a use presents. -/
def Command.frameCount : Command → Nat
  | frames n => n
  | _ => 0

/-- The pixel that a use writes, if it is a single one. -/
def Command.target? : Command → Option Position
  | setPixel x y _ | toggle x y => some (position x y)
  | _ => none

/-- The frames presented in a history. -/
def framesIn (cs : List Command) : Nat := cs.foldl (fun n c => n + c.frameCount) 0

theorem framesIn_concat (cs : List Command) (c : Command) :
    framesIn (cs ++ [c]) = framesIn cs + c.frameCount := by
  rw [framesIn, List.foldl_concat, framesIn]

/-! ## 2. Glow -/

/-- The frames for which a pixel still glows. -/
def glow (d : Display) (p : Position) : Nat := d.afterglow.elim 0 fun g => (g.glow p).toNat

/-- The frames for which a pixel glows that was just switched off. -/
def fade (d : Display) : Nat := d.afterglow.elim 0 fun g => g.fade.toNat

theorem visible_iff : d.visible p = true ↔ d.lit p = true ∨ 0 < d.glow p := by
  rw [visible, Bool.or_eq_true, glow]
  refine or_congr Iff.rfl ?_
  cases d.afterglow with
  | none => simp
  | some g =>
    have hzero : g.glow p = 0 ↔ (g.glow p).toNat = 0 := UInt32.toNat_inj.symm
    simp [hzero, Nat.pos_iff_ne_zero]

theorem glow_setPixel (d : Display) (p q : Position) (on : Bool) :
    (d.setPixel q on).glow p =
      if p = q ∧ d.lit q = true ∧ on = false then d.fade else d.glow p := by
  unfold glow fade setPixel
  dsimp only
  by_cases hoff : d.lit q = true ∧ on = false
  · have hb : (d.lit q && !on) = true := by simp [hoff]
    rw [if_pos hb]
    cases d.afterglow with
    | none => exact (ite_self 0).symm
    | some g =>
      show ((g.start q).glow p).toNat = if _ then g.fade.toNat else (g.glow p).toNat
      rw [Afterglow.glow_start]
      by_cases hp : p = q
      · rw [if_pos hp, if_pos ⟨hp, hoff⟩]
      · rw [if_neg hp, if_neg fun h => hp h.1]
  · have hb : ¬ (d.lit q && !on) = true := by simpa using hoff
    rw [if_neg hb, if_neg fun h => hoff h.2]

theorem glow_toggle (d : Display) (p q : Position) :
    (d.toggle q).1.glow p = if p = q ∧ d.lit q = true then d.fade else d.glow p := by
  rw [toggle, glow_setPixel]
  refine if_congr (and_congr_right fun _ => and_iff_left_of_imp fun h => ?_) rfl rfl
  rw [h]
  rfl

theorem glow_frame (d : Display) (p : Position) : d.frame.glow p = d.glow p - 1 := by
  unfold glow frame
  cases d.afterglow with
  | none => rfl
  | some g =>
    show (g.frame.glow p).toNat = (g.glow p).toNat - 1
    rw [Afterglow.glow_eq, Afterglow.frame, Vector.getElem_map, ← Afterglow.glow_eq]
    by_cases h : g.glow p = 0
    · rw [if_pos h, h]
      rfl
    · have hpos : (g.glow p).toNat ≠ 0 := fun e => h (UInt32.toNat_inj.mp e)
      have hle : (1 : UInt32) ≤ g.glow p := by
        rw [UInt32.le_iff_toNat_le]
        exact Nat.pos_of_ne_zero hpos
      rw [if_neg h, UInt32.toNat_sub_of_le _ _ hle]
      rfl

theorem glow_frames (d : Display) (p : Position) (n : Nat) :
    (d.frames n).glow p = d.glow p - n := by
  induction n generalizing d with
  | zero => rfl
  | succ n ih =>
    rw [frames, ih, glow_frame]
    omega

theorem lit_frames (d : Display) (p : Position) (n : Nat) : (d.frames n).lit p = d.lit p := by
  induction n generalizing d with
  | zero => rfl
  | succ n ih => exact ih d.frame

/-- **A clear removes all glow at once.** -/
theorem glow_clear (d : Display) (p : Position) : d.clear.glow p = 0 := by
  unfold glow clear
  cases d.afterglow with
  | none => rfl
  | some g =>
    show ((Afterglow.clear g).glow p).toNat = 0
    rw [Afterglow.glow_eq, Afterglow.clear, Vector.getElem_replicate]
    rfl

/-- The use switches the pixel off: it writes the pixel, which was lit and is not any more. -/
structure SwitchesOff (d : Display) (p : Position) (c : Command) : Prop where
  target : c.target? = some p
  before : d.lit p = true
  after : (d.perform c).1.lit p = false

/-- A pixel that is switched off starts to glow for all its time. -/
theorem glow_of_switchesOff {c : Command} (h : SwitchesOff d p c) :
    (d.perform c).1.glow p = d.fade := by
  obtain ⟨htarget, hbefore, hafter⟩ := h
  cases c with
  | setPixel x y on =>
    obtain rfl : position x y = p := Option.some.inj htarget
    have hon : on = false := by
      rw [perform, lit_setPixel, if_pos rfl] at hafter
      exact hafter
    exact (glow_setPixel ..).trans (if_pos ⟨rfl, hbefore, hon⟩)
  | toggle x y =>
    obtain rfl : position x y = p := Option.some.inj htarget
    exact (glow_toggle ..).trans (if_pos ⟨rfl, hbefore⟩)
  | _ => cases htarget

/-- **Nothing but switching it off keeps a pixel glowing.** -/
theorem glow_of_not_switchesOff {c : Command} (hc : c ≠ .clear) (h : ¬ SwitchesOff d p c) :
    (d.perform c).1.glow p = d.glow p - c.frameCount := by
  cases c with
  | setPixel x y on =>
    refine (glow_setPixel ..).trans (if_neg fun hoff => h ?_)
    obtain ⟨rfl, hbefore, rfl⟩ := hoff
    exact ⟨rfl, hbefore, (lit_setPixel ..).trans (if_pos rfl)⟩
  | toggle x y =>
    refine (glow_toggle ..).trans (if_neg fun hoff => h ?_)
    obtain ⟨rfl, hbefore⟩ := hoff
    refine ⟨rfl, hbefore, (lit_toggle ..).trans ?_⟩
    rw [if_pos rfl, hbefore]
    rfl
  | frames n => exact glow_frames d p n
  | clear => exact absurd rfl hc
  | _ => rfl

theorem fade_setPixel (d : Display) (q : Position) (on : Bool) :
    (d.setPixel q on).fade = d.fade := by
  unfold fade setPixel
  dsimp only
  cases d.afterglow with
  | none => rw [Option.map_none, ite_self]
  | some g =>
    split
    · rfl
    · rfl

theorem fade_frames (d : Display) (n : Nat) : (d.frames n).fade = d.fade := by
  induction n generalizing d with
  | zero => rfl
  | succ n ih =>
    rw [frames, ih, fade, frame, fade]
    cases d.afterglow with
    | none => rfl
    | some g => rfl

theorem fade_perform (d : Display) (c : Command) : (d.perform c).1.fade = d.fade := by
  cases c with
  | setPixel x y on => exact fade_setPixel ..
  | toggle x y => exact fade_setPixel ..
  | frames n => exact fade_frames d n
  | clear =>
    show d.clear.fade = d.fade
    rw [fade, clear, fade]
    cases d.afterglow with
    | none => rfl
    | some g => rfl
  | _ => rfl

theorem fade_run (d : Display) (cs : List Command) : (d.run cs).fade = d.fade := by
  induction cs generalizing d with
  | nil => rfl
  | cons c cs ih => exact (ih _).trans (fade_perform d c)

/-! ## 3. The last time a pixel was switched off -/

/-- Between the two parts of a history the pixel is switched off, and behind it is neither switched
    off again nor cleared. -/
structure LastOff (d : Display) (p : Position) (before : List Command) (c : Command)
    (after : List Command) : Prop where
  off : SwitchesOff (d.run before) p c
  last : ∀ between c', between ++ [c'] <+: after →
    ¬ SwitchesOff (d.run (before ++ c :: between)) p c'
  uncleared : .clear ∉ after

theorem lastOff_nil {before : List Command} {c : Command} (h : SwitchesOff (d.run before) p c) :
    LastOff d p before c [] where
  off := h
  last between c' hpre := by
    have hlen := hpre.length_le
    simp at hlen
  uncleared := List.not_mem_nil

theorem lastOff_concat {before after : List Command} {c e : Command} :
    LastOff d p before c (after ++ [e]) ↔
      LastOff d p before c after ∧ ¬ SwitchesOff (d.run (before ++ c :: after)) p e ∧
        e ≠ .clear := by
  constructor
  · intro h
    obtain ⟨hoff, hlast, hclear⟩ := h
    rw [List.mem_append, List.mem_singleton, not_or] at hclear
    refine ⟨⟨hoff, fun between c' hpre => ?_, hclear.1⟩, ?_, Ne.symm hclear.2⟩
    · exact hlast between c' (hpre.trans (List.prefix_append after [e]))
    · exact hlast after e (List.prefix_refl _)
  · intro h
    obtain ⟨⟨hoff, hlast, hclear⟩, he, hne⟩ := h
    refine ⟨hoff, fun between c' hpre => ?_, ?_⟩
    · rcases List.prefix_concat_iff.mp hpre with heq | hpre
      · obtain ⟨rfl, rfl⟩ := List.append_inj' heq rfl |>.imp id List.singleton_inj.mp
        exact he
      · exact hlast between c' hpre
    · rw [List.mem_append, List.mem_singleton, not_or]
      exact ⟨hclear, Ne.symm hne⟩

/-- A part of a longer history is at its end or within the shorter one. -/
theorem split_concat {cs before after : List Command} {c e : Command} :
    cs ++ [e] = before ++ c :: after ↔
      (after = [] ∧ cs = before ∧ e = c) ∨ ∃ rest, after = rest ++ [e] ∧ cs = before ++ c :: rest := by
  constructor
  · intro h
    rcases List.eq_nil_or_concat' after with rfl | ⟨rest, f, rfl⟩
    · exact .inl ⟨rfl, List.append_inj' h rfl |>.imp id List.singleton_inj.mp⟩
    · rw [← List.cons_append, ← List.append_assoc] at h
      obtain ⟨hcs, hf⟩ := List.append_inj' h rfl
      exact .inr ⟨rest, by rw [List.singleton_inj.mp hf], hcs⟩
  · intro h
    rcases h with ⟨rfl, rfl, rfl⟩ | ⟨rest, rfl, rfl⟩
    · rfl
    · rw [List.append_assoc, List.cons_append]

/-- **The glow of a pixel counts the frames since it was switched off.** It exceeds `k` exactly if,
    `k` frames later, there would still be fewer than all of them. -/
theorem lt_glow_run_iff (d : Display) (hd : d.glow p = 0) (cs : List Command) (k : Nat) :
    k < (d.run cs).glow p ↔ ∃ before c after, cs = before ++ c :: after ∧
      LastOff d p before c after ∧ framesIn after + k < d.fade := by
  induction cs using List.reverseRecOn generalizing k with
  | nil =>
    have hempty : ¬ k < (d.run []).glow p := by
      show ¬ k < d.glow p
      omega
    refine iff_of_false hempty fun h => ?_
    obtain ⟨before, c, after, hsplit, -⟩ := h
    simp at hsplit
  | append_singleton cs e ih =>
    rw [run_concat]
    by_cases hoff : SwitchesOff (d.run cs) p e
    -- It is switched off right now: no frame has passed since.
    · rw [glow_of_switchesOff hoff, fade_run]
      constructor
      · intro hk
        refine ⟨cs, e, [], rfl, lastOff_nil hoff, ?_⟩
        rw [framesIn, List.foldl_nil, Nat.zero_add]
        exact hk
      · intro h
        obtain ⟨_, _, _, _, _, hk⟩ := h
        omega
    · by_cases hclear : e = .clear
      · subst hclear
        have hzero : ¬ k < ((d.run cs).perform .clear).1.glow p := by
          show ¬ k < (d.run cs).clear.glow p
          rw [glow_clear]
          exact Nat.not_lt_zero k
        refine iff_of_false hzero fun h => ?_
        obtain ⟨before, c, after, hsplit, hlast, -⟩ := h
        rcases split_concat.mp hsplit with ⟨rfl, rfl, rfl⟩ | ⟨rest, rfl, rfl⟩
        · exact hoff hlast.off
        · exact (lastOff_concat.mp hlast).2.2 rfl
      -- Otherwise the frames of this use are added to those that have passed.
      · rw [glow_of_not_switchesOff hclear hoff, Nat.lt_sub_iff_add_lt, ih]
        constructor
        · intro h
          obtain ⟨before, c, after, rfl, hlast, hk⟩ := h
          refine ⟨before, c, after ++ [e], ?_, lastOff_concat.mpr ⟨hlast, hoff, hclear⟩, ?_⟩
          · rw [List.append_assoc, List.cons_append]
          · rw [framesIn_concat]
            omega
        · intro h
          obtain ⟨before, c, after, hsplit, hlast, hk⟩ := h
          rcases split_concat.mp hsplit with ⟨rfl, rfl, rfl⟩ | ⟨rest, rfl, rfl⟩
          · exact absurd hlast.off hoff
          · rw [framesIn_concat] at hk
            exact ⟨before, c, rest, rfl, (lastOff_concat.mp hlast).1, by omega⟩

/-! ## 4. Other pixels -/

/-- The displays agree on a pixel, and on how long one glows. -/
structure SameAt (p : Position) (d e : Display) : Prop where
  lit : d.lit p = e.lit p
  glow : d.glow p = e.glow p
  fade : d.fade = e.fade

theorem lit_perform_of_sameAt (h : SameAt p d e) (c : Command) :
    (d.perform c).1.lit p = (e.perform c).1.lit p := by
  cases c with
  | setPixel x y on =>
    show (d.setPixel _ on).lit p = (e.setPixel _ on).lit p
    rw [lit_setPixel, lit_setPixel, h.lit]
  | toggle x y =>
    show (d.toggle _).1.lit p = (e.toggle _).1.lit p
    rw [lit_toggle, lit_toggle, h.lit]
  | clear => exact (lit_clear d p).trans (lit_clear e p).symm
  | frames n => exact (lit_frames d p n).trans (h.lit.trans (lit_frames e p n).symm)
  | _ => exact h.lit

theorem switchesOff_of_sameAt (h : SameAt p d e) {c : Command} (hc : SwitchesOff d p c) :
    SwitchesOff e p c where
  target := hc.target
  before := h.lit.symm.trans hc.before
  after := (lit_perform_of_sameAt h c).symm.trans hc.after

theorem SameAt.symm (h : SameAt p d e) : SameAt p e d := ⟨h.lit.symm, h.glow.symm, h.fade.symm⟩

theorem sameAt_perform (h : SameAt p d e) (c : Command) :
    SameAt p (d.perform c).1 (e.perform c).1 where
  lit := lit_perform_of_sameAt h c
  glow := by
    by_cases hclear : c = .clear
    · subst hclear
      exact (glow_clear d p).trans (glow_clear e p).symm
    · by_cases hoff : SwitchesOff d p c
      · rw [glow_of_switchesOff hoff, glow_of_switchesOff (switchesOff_of_sameAt h hoff), h.fade]
      · rw [glow_of_not_switchesOff hclear hoff, h.glow,
          glow_of_not_switchesOff hclear fun hoff' => hoff (switchesOff_of_sameAt h.symm hoff')]
  fade := by rw [fade_perform, fade_perform, h.fade]

/-- **Displays that agree on a pixel go on to show it alike.** -/
theorem visible_run_of_sameAt (h : SameAt p d e) (cs : List Command) :
    (d.run cs).visible p = (e.run cs).visible p := by
  induction cs generalizing d e with
  | nil =>
    rw [Bool.eq_iff_iff]
    show d.visible p = true ↔ e.visible p = true
    rw [visible_iff, visible_iff, h.lit, h.glow]
  | cons c cs ih => exact ih (sameAt_perform h c)

/-- A use that writes one pixel leaves the others as they were. -/
theorem sameAt_of_target {c : Command} {q : Position} (hc : c.target? = some q) (hq : q ≠ p) :
    SameAt p (d.perform c).1 d where
  lit := by
    cases c with
    | setPixel x y on =>
      obtain rfl : position x y = q := Option.some.inj hc
      exact (lit_setPixel ..).trans (if_neg (Ne.symm hq))
    | toggle x y =>
      obtain rfl : position x y = q := Option.some.inj hc
      exact (lit_toggle ..).trans (if_neg (Ne.symm hq))
    | _ => cases hc
  glow := by
    have hoff : ¬ SwitchesOff d p c := fun h => hq (Option.some.inj (hc.symm.trans h.target))
    cases c with
    | setPixel x y on => exact glow_of_not_switchesOff (fun e => nomatch e) hoff
    | toggle x y => exact glow_of_not_switchesOff (fun e => nomatch e) hoff
    | _ => cases hc
  fade := fade_perform d c

/-- Switching off what is off does nothing at all. -/
theorem setPixel_of_unlit {q : Position} (h : d.lit q = false) : d.setPixel q false = d := by
  refine ext_lit (fun p => ?_) ?_
  · rw [lit_setPixel]
    split
    next hp => rw [hp, h]
    next => rfl
  · show (if d.lit q && !false then _ else d.afterglow) = d.afterglow
    rw [h]
    rfl

/-! ## 5. Together -/

/-- **The afterglow of a pixel lasts exactly `fade` frames.** After any history of a new display, a
    viewer sees a pixel exactly if it is lit, or if since the last clear it was switched off and
    fewer than `fade` frames have passed since the last time. To switch it off again while it is
    off does not count, what is done to other pixels shows neither now nor later, and a clear
    leaves nothing to be seen. -/
theorem visible_run (fade : UInt32) (cs : List Command) (p : Position) :
    let d := (fading fade).run cs
    (d.visible p = true ↔ d.lit p = true ∨ ∃ before c after, cs = before ++ c :: after ∧
      LastOff (fading fade) p before c after ∧ framesIn after < fade.toNat) ∧
    (∀ x y, d.lit (position x y) = false → (d.perform (.setPixel x y false)).1 = d) ∧
    (∀ c q, c.target? = some q → q ≠ p → ∀ cs',
      ((d.perform c).1.run cs').visible p = (d.run cs').visible p) ∧
    (d.perform .clear).1.visible p = false := by
  intro d
  refine ⟨?_, fun x y h => setPixel_of_unlit h, fun c q hc hq cs' => ?_, ?_⟩
  · have hnew : (fading fade).glow p = 0 := by
      show (Afterglow.glow { fade } p).toNat = 0
      rw [Afterglow.glow_eq, Vector.getElem_replicate]
      rfl
    rw [visible_iff, lt_glow_run_iff _ hnew]
    rfl
  · exact visible_run_of_sameAt (sameAt_of_target hc hq) cs'
  · rw [Bool.eq_false_iff, Ne, visible_iff]
    show ¬ (d.clear.lit p = true ∨ 0 < d.clear.glow p)
    rw [lit_clear, glow_clear]
    simp

/-- A pixel goes on and off again. Then it is switched off once more, its neighbour goes on, and a
    frame passes. -/
def blink : List Command :=
  [.toggle 5 5, .setPixel 69 37 false, .setPixel 5 5 false, .toggle 6 5, .frames 1]

/-- With two frames of glow it is still seen. Neither switching it off now nor what happens to its
    neighbour makes a difference. -/
theorem visible_run_blink :
    let d := (fading 2).run blink
    d.visible (position 5 5) = true ∧
    d.lit (position 5 5) = false ∧ (d.perform (.setPixel 5 5 false)).1 = d ∧
    position 6 5 ≠ position 5 5 ∧
    ((d.perform (.toggle 6 5)).1.run [.frames 1]).visible (position 5 5) =
      (d.run [.frames 1]).visible (position 5 5) := by
  intro d
  obtain ⟨hvisible, hrewrite, hother, -⟩ := visible_run 2 blink (position 5 5)
  have hlit : d.lit (position 5 5) = false := by decide +kernel
  have hne : position 6 5 ≠ position 5 5 := by decide
  -- It was switched off by the second use, and by none of the three behind it.
  have h0 : LastOff (fading 2) (position 5 5) [.toggle 5 5] (.setPixel 69 37 false) [] :=
    lastOff_nil ⟨rfl, by decide +kernel, by decide +kernel⟩
  have h1 := lastOff_concat (e := .setPixel 5 5 false).mpr
    ⟨h0, fun h => absurd h.before (by decide +kernel), by decide⟩
  have h2 := lastOff_concat (e := .toggle 6 5).mpr
    ⟨h1, fun h => hne (Option.some.inj h.target), by decide⟩
  have h3 := lastOff_concat (e := .frames 1).mpr
    ⟨h2, fun h => (nomatch h.target), by decide⟩
  exact ⟨hvisible.mpr (.inr ⟨_, _, _, rfl, h3, by decide⟩), hlit, hrewrite 5 5 hlit, hne,
    hother _ _ rfl hne _⟩

end Display

end Chip8
