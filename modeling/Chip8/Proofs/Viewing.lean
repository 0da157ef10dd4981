/-
  File:      Chip8/Proofs/Viewing.lean
  Subject:   A program sees the pixels and nothing of the afterglow.

  * `PixelMap`: a screen as a map from coordinates, with its own account of the operations;
    `Display.Shows`: what the program reads of a display is such a map (`shows_perform`);
  * `Display.glowing`, `Console.glowing`: the same with another afterglow, or with none;
  * `Console.watch`: an operation while a viewer presents frames, also in the middle of a run;
  * `watch_glowing`, `unseen_by_program`: whatever glows and whatever is presented, all answers
    and everything but the afterglow stay the same.
-/
import Chip8.Operation
import Chip8.Proofs.Agreement
import Chip8.Proofs.Sprite

namespace Chip8

/-! ## 1. Displays as maps -/

/-- Which pixels are lit, by column and row. -/
abbrev PixelMap := Nat → Nat → Bool

namespace PixelMap

/-- The map with one pixel switched on or off. -/
def put (f : PixelMap) (x y : Nat) (on : Bool) : PixelMap := fun a b =>
  if a = x ∧ b = y then on else f a b

/-- The map as text, one line per row. -/
def picture (f : PixelMap) : String :=
  String.ofList ((List.finRange screenHeight).flatMap fun y : Fin screenHeight =>
    (List.finRange screenWidth).map (fun x : Fin screenWidth => if f x y then '@' else ' ') ++
      ['\n'])

/-- One use of a display, as the map knows it. What a viewer sees is not on the map. -/
def perform (f : PixelMap) : Display.Command → PixelMap × Option Display.Yield
  | .setPixel x y on => (f.put (x.toNat % 64) (y.toNat % 32) on, some .done)
  | .getPixel x y => (f, some (.pixel (f (x.toNat % 64) (y.toNat % 32))))
  | .toggle x y =>
      let wasLit := f (x.toNat % 64) (y.toNat % 32)
      (f.put (x.toNat % 64) (y.toNat % 32) !wasLit, some (.pixel wasLit))
  | .frames _ => (f, some .done)
  | .clear => (fun _ _ => false, some .done)
  | .render => (f, some (.text f.picture))
  | .visible .. | .visibleRows => (f, none)

/-- The map with pixels inverted, each as often as it occurs. -/
def invert (f : PixelMap) (cells : List Position) : PixelMap := fun x y =>
  f x y ^^ decide (cells.count (.wrap x y) % 2 = 1)

end PixelMap

namespace Display

variable {d : Display} {f : PixelMap}

/-- What the program reads of the display is the map. The coordinates wrap. -/
def Shows (d : Display) (f : PixelMap) : Prop :=
  ∀ x y : Byte, d.lit (position x y) = f (x.toNat % 64) (y.toNat % 32)

/-- Every display shows a map. -/
theorem exists_shows (d : Display) : ∃ f, d.Shows f := by
  refine ⟨fun x y => d.lit (.wrap x y), fun x y => ?_⟩
  simp only [position, Position.wrap, screenWidth, screenHeight, Nat.mod_mod]

theorem screen_frames (d : Display) (n : Nat) : (d.frames n).screen = d.screen := by
  induction n generalizing d with
  | zero => rfl
  | succ n ih => exact ih d.frame

theorem shows_setPixel (h : d.Shows f) (x y : Byte) (on : Bool) :
    (d.setPixel (position x y) on).Shows (f.put (x.toNat % 64) (y.toNat % 32) on) := by
  intro a b
  have hp : position a b = position x y ↔
      a.toNat % 64 = x.toNat % 64 ∧ b.toNat % 32 = y.toNat % 32 := by
    simp only [position, Position.wrap, Position.mk.injEq, Fin.mk.injEq]
  rw [lit_setPixel, h a b, PixelMap.put]
  simp only [hp]

theorem lit_of_shows (h : d.Shows f) (p : Position) : d.lit p = f p.x p.y := by
  have hx : (UInt8.ofNat p.x).toNat = p.x :=
    UInt8.toNat_ofNat_of_lt' (Nat.lt_trans p.x.isLt (by decide))
  have hy : (UInt8.ofNat p.y).toNat = p.y :=
    UInt8.toNat_ofNat_of_lt' (Nat.lt_trans p.y.isLt (by decide))
  have hp : position (.ofNat p.x) (.ofNat p.y) = p := by
    simp only [position, Position.wrap, hx, hy, Nat.mod_eq_of_lt, Fin.is_lt, Fin.eta]
  have hxy := h (.ofNat p.x) (.ofNat p.y)
  rw [hp, hx, hy, Nat.mod_eq_of_lt p.x.isLt, Nat.mod_eq_of_lt p.y.isLt] at hxy
  exact hxy

theorem picture_of_shows (h : d.Shows f) : d.screen.picture = f.picture := by
  have hrow : ∀ y, d.screen.row y =
      (List.finRange screenWidth).map fun x : Fin screenWidth => f x y := fun y =>
    List.map_congr_left fun x _ => lit_of_shows h ⟨x, y⟩
  rw [Screen.picture, Screen.rows, List.flatMap_map, PixelMap.picture]
  simp only [hrow, List.map_map, Function.comp_def]

/-- **A display is the map that it shows.** Each use leaves the map that its use leaves, and it
    yields what the map knows. -/
theorem shows_perform (h : d.Shows f) (a : Command) :
    (d.perform a).1.Shows (f.perform a).1 ∧ ∀ y ∈ (f.perform a).2, (d.perform a).2 = y := by
  cases a with
  | setPixel x y on => exact ⟨shows_setPixel h x y on, fun _ e => Option.some.inj e⟩
  | getPixel x y =>
    refine ⟨h, fun _ e => ?_⟩
    rw [← Option.some.inj e, ← h x y]
    rfl
  | toggle x y =>
    have ht := shows_setPixel h x y (!f (x.toNat % 64) (y.toNat % 32))
    rw [← h x y] at ht
    refine ⟨?_, fun _ e => ?_⟩
    · dsimp only [PixelMap.perform]
      rw [← h x y]
      exact ht
    · rw [← Option.some.inj e, ← h x y]
      rfl
  | visible x y => exact ⟨h, fun _ e => nomatch e⟩
  | frames n =>
    refine ⟨fun x y => ?_, fun _ e => Option.some.inj e⟩
    show (d.frames n).screen.lit _ = _
    rw [screen_frames]
    exact h x y
  | clear => exact ⟨fun x y => lit_clear d _, fun _ e => Option.some.inj e⟩
  | visibleRows => exact ⟨h, fun _ e => nomatch e⟩
  | render =>
    refine ⟨h, fun _ e => ?_⟩
    rw [← Option.some.inj e, ← picture_of_shows h]
    rfl

/-- The display is as good as the map: it shows the map, and so it does after each use and each
    sprite. What a use yields is what the map knows. -/
structure Follows (d : Display) (f : PixelMap) : Prop where
  shows : d.Shows f
  uses : ∀ a, (d.perform a).1.Shows (f.perform a).1 ∧
    ∀ y ∈ (f.perform a).2, (d.perform a).2 = y
  sprites : ∀ cells, (d.drawCells cells).1.Shows (f.invert cells)

theorem follows_of_shows (h : d.Shows f) : d.Follows f where
  shows := h
  uses := shows_perform h
  sprites cells x y := by
    have hp : position x y = .wrap (x.toNat % 64) (y.toNat % 32) := by
      simp only [position, Position.wrap, screenWidth, screenHeight, Nat.mod_mod]
    rw [lit_drawCells, h x y, PixelMap.invert, hp]

/-! ## 2. Displays with another afterglow -/

/-- The display with another afterglow, or with none. -/
def glowing (d : Display) (afterglow : Option Afterglow) : Display := { d with afterglow }

variable {afterglow : Option Afterglow}

theorem eq_glowing {e : Display} (h : e.screen = d.screen) : e = d.glowing e.afterglow := by
  cases e
  cases h
  rfl

/-- The use does not ask what a viewer sees. -/
def Command.Blind : Command → Prop
  | visible .. | visibleRows => False
  | _ => True

theorem screen_drawCells_glowing (d : Display) (afterglow : Option Afterglow)
    (cells : List Position) :
    ((d.glowing afterglow).drawCells cells).1.screen = (d.drawCells cells).1.screen ∧
      ((d.glowing afterglow).drawCells cells).2 = (d.drawCells cells).2 := by
  induction cells generalizing d afterglow with
  | nil => exact ⟨rfl, rfl⟩
  | cons p ps ih =>
    have ht : ((d.glowing afterglow).toggle p).1 =
        (d.toggle p).1.glowing ((d.glowing afterglow).toggle p).1.afterglow := eq_glowing rfl
    obtain ⟨hs, hb⟩ := ih (d.toggle p).1 ((d.glowing afterglow).toggle p).1.afterglow
    rw [← ht] at hs hb
    exact ⟨hs, congrArg (d.lit p || ·) hb⟩

/-- A blind use of the display neither yields nor leaves anything that depends on the glow. -/
theorem perform_glowing (d : Display) (afterglow : Option Afterglow) {a : Command} (ha : a.Blind) :
    ∃ afterglow', (d.glowing afterglow).perform a =
      ((d.perform a).1.glowing afterglow', (d.perform a).2) := by
  cases a with
  | visible x y => exact ha.elim
  | visibleRows => exact ha.elim
  | frames n =>
    refine ⟨((d.glowing afterglow).frames n).afterglow, Prod.ext (eq_glowing ?_) rfl⟩
    show ((d.glowing afterglow).frames n).screen = (d.frames n).screen
    rw [screen_frames, screen_frames]
    rfl
  | _ => exact ⟨_, Prod.ext (eq_glowing rfl) rfl⟩

end Display

namespace Machine

/-! ## 3. Machines with another afterglow -/

/-- The machine with another afterglow on its display, or with none. -/
def glowing (m : Machine) (afterglow : Option Afterglow) : Machine :=
  { m with display := m.display.glowing afterglow }

/-- The machines differ in their afterglow at most. -/
abbrev SameButGlow : Machine → Machine → Prop := Rewritten fun afterglow m => m.glowing afterglow

theorem twins_sameButGlow : Twins SameButGlow :=
  twins_rewritten (fun _ _ => ⟨rfl, rfl, rfl⟩) (fun _ _ _ => rfl) (fun _ _ _ => rfl) fun _ _ => rfl

theorem sameButGlow_withDisplay (m : Machine) {display d : Display}
    (h : display.screen = d.screen) (afterglow : Option Afterglow) :
    SameButGlow { m with display := d } { m.glowing afterglow with display } := by
  refine ⟨display.afterglow, ?_⟩
  rw [Display.eq_glowing h]
  rfl

/-- No device shows the glow, not even the display. -/
theorem shared_sameButGlow (d : Device) : d.Shared SameButGlow := by
  cases d with
  | keys =>
    intro m m' h
    obtain ⟨g, rfl⟩ := h
    exact ⟨rfl, rfl, fun _ _ => ⟨g, rfl⟩⟩
  | timers =>
    intro m m' h b
    obtain ⟨g, rfl⟩ := h
    exact ⟨⟨g, rfl⟩, ⟨g, rfl⟩⟩
  | display =>
    intro m m' h
    obtain ⟨g, rfl⟩ := h
    refine ⟨sameButGlow_withDisplay m rfl g, fun cells => ?_⟩
    obtain ⟨hs, hb⟩ := Display.screen_drawCells_glowing m.display g cells
    exact ⟨hb.symm, sameButGlow_withDisplay m hs g⟩
  | random =>
    intro m m' h
    obtain ⟨g, rfl⟩ := h
    exact ⟨rfl, ⟨g, rfl⟩⟩
  | delay | policy =>
    intro m m' h
    obtain ⟨g, rfl⟩ := h
    rfl

theorem execute_glowing (m : Machine) (afterglow : Option Afterglow) (ins : Instruction) :
    ∃ afterglow', (m.glowing afterglow).execute ins =
      ((m.execute ins).1.glowing afterglow', (m.execute ins).2) := by
  have hd : ∀ d ∈ ins.devices, d.Shared SameButGlow := fun d _ => shared_sameButGlow d
  obtain ⟨hr, g, hm⟩ := agree_execute twins_sameButGlow ⟨afterglow, rfl⟩ hd
  exact ⟨g, Prod.ext hm hr.symm⟩

theorem loadProgram_glowing (m : Machine) (afterglow : Option Afterglow) (program : List Byte) :
    (m.glowing afterglow).loadProgram program =
      (m.loadProgram program).map (·.glowing afterglow) := by
  have hm : (m.glowing afterglow).memory = m.memory := rfl
  rw [loadProgram, loadProgram, hm]
  by_cases h : maxProgramSize < program.length
  · rw [if_pos h, if_pos h]
    rfl
  · rw [if_neg h, if_neg h]
    cases m.memory.load programStart.toNat program with
    | ok _ => rfl
    | error _ => rfl

end Machine

/-- The operation does not ask what a viewer sees. -/
def Operation.Blind : Operation → Prop
  | .display a => a.Blind
  | _ => True

/-- The operation makes steps. -/
def Operation.IsRun : Operation → Prop
  | .step _ | .runFrames .. => True
  | _ => False

namespace Console

open Machine

/-! ## 4. Runs with a viewer -/

/-- How many frames a viewer presents before the step behind which so many frames, and so many
    steps of its frame, are still to come. -/
abbrev Viewer := Nat → Nat → Nat

/-- The viewer presents some frames. -/
def present (c : Console) (n : Nat) : Console :=
  c.modifyMachine fun m => { m with display := m.display.frames n }

/-- Steps with a viewer. -/
def watchSteps (v : Nat → Nat) (c : Console) : Nat → Console × Except Interruption Status
  | 0 => (c, .ok c.machine.status)
  | n + 1 =>
      match (c.present (v n)).step with
      | (c, .ok _) => c.watchSteps v n
      | (c, .error e) => (c, .error e)

/-- The steps of one frame with a viewer. -/
def watchFrameSteps (v : Nat → Nat) (c : Console) :
    Nat → Console × Option (Except Interruption Status)
  | 0 => (c, none)
  | n + 1 =>
      match (c.present (v n)).step with
      | (c, .ok .halted) => (c, some (.ok .halted))
      | (c, .ok _) => c.watchFrameSteps v n
      | (c, .error e) => (c, some (.error e))

/-- Frames of the machine with a viewer, who presents frames of its own. -/
def watchFrames (v : Viewer) (c : Console) (cycles : Nat) :
    Nat → Console × Except Interruption Status
  | 0 => (c, .ok c.machine.status)
  | frames + 1 =>
      match c.watchFrameSteps (v frames) cycles with
      | (c, some result) => (c, result)
      | (c, none) => c.tick.watchFrames v cycles frames

/-- One operation with a viewer: the console after it, and the answer. -/
def watch (v : Viewer) (c : Console) : Operation → Console × Reply
  | .step times => let (c, r) := c.watchSteps (v 0) times; (c, .ofRun r)
  | .runFrames frames cycles =>
      let (c, r) := c.watchFrames v (cycles.getD c.pace.cyclesPerFrame) frames
      (c, .ofRun r)
  | o => (c.present (v 0 0)).perform o

theorem watch_of_not_run (v : Viewer) (c : Console) {o : Operation} (hr : ¬ o.IsRun) :
    c.watch v o = (c.present (v 0 0)).perform o := by
  cases o with
  | step times => exact absurd trivial hr
  | runFrames frames cycles => exact absurd trivial hr
  | _ => rfl

/-- A schedule with a viewer, who does something else during each operation. -/
def watchAll (c : Console) : List (Viewer × Operation) → Console × List Reply
  | [] => (c, [])
  | (v, o) :: os =>
      let (c, r) := c.watch v o
      let (c, rs) := c.watchAll os
      (c, r :: rs)

/-! ## 5. Consoles with another afterglow -/

/-- The console with another afterglow on its display, or with none. -/
def glowing (c : Console) (afterglow : Option Afterglow) : Console :=
  c.modifyMachine (·.glowing afterglow)

variable (c : Console) (afterglow : Option Afterglow)

theorem present_glowing (n : Nat) :
    ∃ afterglow', (c.glowing afterglow).present n = c.glowing afterglow' := by
  refine ⟨((c.machine.display.glowing afterglow).frames n).afterglow, ?_⟩
  have h := Display.eq_glowing (Display.screen_frames (c.machine.display.glowing afterglow) n)
  show { c with machine := { c.machine.glowing afterglow with
    display := (c.machine.display.glowing afterglow).frames n } } = c.glowing _
  rw [h]
  rfl

theorem step_glowing :
    ∃ afterglow', (c.glowing afterglow).step = (c.step.1.glowing afterglow', c.step.2) :=
  step_rewritten twins_sameButGlow afterglow fun d _ => shared_sameButGlow d

/-- **A step shows nothing of what was presented before it.** -/
theorem step_present_glowing (n : Nat) : ∃ afterglow',
    ((c.glowing afterglow).present n).step = (c.step.1.glowing afterglow', c.step.2) := by
  obtain ⟨g, h⟩ := present_glowing c afterglow n
  rw [h]
  exact step_glowing c g

theorem watchSteps_glowing (v : Nat → Nat) (n : Nat) : ∃ afterglow',
    (c.glowing afterglow).watchSteps v n =
      ((c.steps n).1.glowing afterglow', (c.steps n).2) := by
  induction n generalizing c afterglow with
  | zero => exact ⟨afterglow, rfl⟩
  | succ n ih =>
    obtain ⟨g, h⟩ := step_present_glowing c afterglow (v n)
    rw [watchSteps, steps, h]
    rcases c.step with ⟨d, e | s⟩
    · exact ⟨g, rfl⟩
    · exact ih d g

theorem watchFrameSteps_glowing (v : Nat → Nat) (n : Nat) : ∃ afterglow',
    (c.glowing afterglow).watchFrameSteps v n =
      ((c.frameSteps n).1.glowing afterglow', (c.frameSteps n).2) := by
  induction n generalizing c afterglow with
  | zero => exact ⟨afterglow, rfl⟩
  | succ n ih =>
    obtain ⟨g, h⟩ := step_present_glowing c afterglow (v n)
    rw [watchFrameSteps, frameSteps, h]
    rcases c.step with ⟨d, e | s⟩
    · exact ⟨g, rfl⟩
    · cases s with
      | halted => exact ⟨g, rfl⟩
      | _ => exact ih d g

theorem watchFrames_glowing (v : Viewer) (cycles frames : Nat) : ∃ afterglow',
    (c.glowing afterglow).watchFrames v cycles frames =
      ((c.runFrames cycles frames).1.glowing afterglow', (c.runFrames cycles frames).2) := by
  induction frames generalizing c afterglow with
  | zero => exact ⟨afterglow, rfl⟩
  | succ n ih =>
    obtain ⟨g, h⟩ := watchFrameSteps_glowing c afterglow (v n) cycles
    rw [watchFrames, runFrames, h]
    rcases c.frameSteps cycles with ⟨d, _ | r⟩
    · exact ih d.tick g
    · exact ⟨g, rfl⟩

theorem ticks_glowing (n : Nat) : (c.glowing afterglow).ticks n = (c.ticks n).glowing afterglow := by
  induction n generalizing c with
  | zero => rfl
  | succ n ih => exact ih c.tick

theorem executeDirect_glowing (ins : Instruction) : ∃ afterglow',
    (c.glowing afterglow).executeDirect ins =
      ((c.executeDirect ins).1.glowing afterglow', (c.executeDirect ins).2) := by
  obtain ⟨g, h⟩ := c.machine.execute_glowing afterglow ins
  have hm : (c.glowing afterglow).machine = c.machine.glowing afterglow := rfl
  refine ⟨g, ?_⟩
  rw [executeDirect, executeDirect, hm, h]
  rcases c.machine.execute ins with ⟨m, _ | _⟩
  · rfl
  · rfl

theorem loadProgram_glowing (program : List Byte) :
    (c.glowing afterglow).loadProgram program =
      ((c.loadProgram program).1.glowing afterglow, (c.loadProgram program).2) := by
  have hm : (c.glowing afterglow).machine = c.machine.glowing afterglow := rfl
  rw [loadProgram, loadProgram, hm, Machine.loadProgram_glowing]
  cases c.machine.loadProgram program with
  | ok _ => rfl
  | error _ => rfl

theorem setRegister_glowing (r : Reg) (b : Byte) :
    (c.glowing afterglow).setRegister r b =
      ((c.setRegister r b).1.glowing afterglow, (c.setRegister r b).2) := by
  have hm : (c.glowing afterglow).machine.registers = c.machine.registers := rfl
  rw [setRegister, setRegister, hm]
  cases c.machine.registers.set r b with
  | ok _ => rfl
  | error _ => rfl

theorem setKey_glowing (key : Byte) (down : Bool) :
    (c.glowing afterglow).setKey key down =
      ((c.setKey key down).1.glowing afterglow, (c.setKey key down).2) :=
  setKey_rewritten rfl (fun _ => rfl) key down

/-- What is not a run shows nothing of the glow. -/
theorem perform_glowing {o : Operation} (ho : o.Blind) (hr : ¬ o.IsRun) : ∃ afterglow',
    (c.glowing afterglow).perform o =
      ((c.perform o).1.glowing afterglow', (c.perform o).2) := by
  cases o with
  | step times => exact absurd trivial hr
  | runFrames frames cycles => exact absurd trivial hr
  | execute ins => exact executeDirect_glowing c afterglow ins
  | loadProgram program => exact ⟨afterglow, loadProgram_glowing c afterglow program⟩
  | setRegister r b => exact ⟨afterglow, setRegister_glowing c afterglow r b⟩
  | key key down => exact ⟨afterglow, setKey_glowing c afterglow key down⟩
  | tick times =>
    refine ⟨afterglow, ?_⟩
    rw [perform, ticks_glowing]
    rfl
  | setDisplay d => exact ⟨d.afterglow, rfl⟩
  | display a =>
    obtain ⟨g, h⟩ := c.machine.display.perform_glowing afterglow ho
    have hd : (c.glowing afterglow).machine.display = c.machine.display.glowing afterglow := rfl
    refine ⟨g, ?_⟩
    rw [perform, hd, h]
    rfl
  | _ => exact ⟨afterglow, rfl⟩

/-- **An operation shows nothing of the glow**, neither by its answer nor by what it leaves, and
    nothing of what is presented meanwhile. -/
theorem watch_glowing (v : Viewer) {o : Operation} (ho : o.Blind) : ∃ afterglow',
    (c.glowing afterglow).watch v o = ((c.perform o).1.glowing afterglow', (c.perform o).2) := by
  by_cases hr : o.IsRun
  · cases o with
    | step times =>
      obtain ⟨g, h⟩ := watchSteps_glowing c afterglow (v 0) times
      refine ⟨g, ?_⟩
      rw [watch, h]
      rfl
    | runFrames frames cycles =>
      obtain ⟨g, h⟩ := watchFrames_glowing c afterglow v (cycles.getD c.pace.cyclesPerFrame) frames
      have hpace : (c.glowing afterglow).pace = c.pace := rfl
      refine ⟨g, ?_⟩
      rw [watch, hpace, h]
      rfl
    | _ => exact hr.elim
  · obtain ⟨g, hp⟩ := present_glowing c afterglow (v 0 0)
    rw [watch_of_not_run v _ hr, hp]
    exact perform_glowing c g ho hr

/-! ## 6. Schedules -/

theorem watchAll_glowing {os : List (Viewer × Operation)} (ho : ∀ o ∈ os, o.2.Blind) :
    ∃ afterglow', (c.glowing afterglow).watchAll os =
      ((c.performAll (os.map Prod.snd)).1.glowing afterglow',
        (c.performAll (os.map Prod.snd)).2) := by
  induction os generalizing c afterglow with
  | nil => exact ⟨afterglow, rfl⟩
  | cons o os ih =>
    obtain ⟨v, o⟩ := o
    rw [List.forall_mem_cons] at ho
    obtain ⟨hhead, htail⟩ := ho
    obtain ⟨g, h⟩ := watch_glowing c afterglow v hhead
    obtain ⟨g', h'⟩ := ih (c.perform o).1 g htail
    refine ⟨g', ?_⟩
    rw [watchAll, h]
    dsimp only
    rw [h']
    rfl

/-- **The afterglow and its viewer are invisible to the program.** A schedule is performed on a
    console, and, while a viewer presents frames at any moment, on the same console with another
    afterglow on its display. All answers are the same, and so is everything but the afterglow,
    after this schedule and thus after every beginning of it. What the program reads of the two
    displays is one and the same map. -/
theorem unseen_by_program (os : List (Viewer × Operation)) (ho : ∀ o ∈ os, o.2.Blind) :
    let p := c.performAll (os.map Prod.snd)
    let q := (c.glowing afterglow).watchAll os
    q.2 = p.2 ∧ (∃ afterglow', q.1 = p.1.glowing afterglow') ∧
      ∃ f, p.1.machine.display.Follows f ∧ q.1.machine.display.Follows f := by
  intro p q
  obtain ⟨g, h⟩ := watchAll_glowing c afterglow ho
  have hq : q = (p.1.glowing g, p.2) := h
  rw [hq]
  obtain ⟨f, hf⟩ := p.1.machine.display.exists_shows
  exact ⟨rfl, ⟨g, rfl⟩, f, Display.follows_of_shows hf, Display.follows_of_shows hf⟩

/-- A pixel is switched on by one pair of coordinates and off by another, and the viewer presents
    frames before, behind and in between. -/
def flicker : List (Viewer × Operation) :=
  [(fun _ _ => 1, .display (.toggle 70 40)), (fun _ steps => steps, .step 9),
    (fun _ _ => 4, .display (.toggle 6 8)), (fun _ _ => 2, .display .render)]

/-- The glow of the pixel is not seen. -/
theorem unseen_flicker : (∀ o ∈ flicker, o.2.Blind) ∧
    ((glowing {} (some { fade := 7 })).watchAll flicker).2 =
      (performAll {} (flicker.map Prod.snd)).2 := by
  have h : ∀ o ∈ flicker, o.2.Blind := by
    simp only [flicker, List.forall_mem_cons]
    exact ⟨trivial, trivial, trivial, trivial, List.forall_mem_nil _⟩
  exact ⟨h, (unseen_by_program {} (some { fade := 7 }) flicker h).1⟩

end Console

end Chip8
