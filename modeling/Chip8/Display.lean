/-
  File:      Chip8/Display.lean
  Subject:   The display: the screen the program draws on, and what a viewer sees of it.

  * `Display`: a screen, with or without an `Afterglow`; the afterglow keeps a pixel visible for
    some frames after it was switched off and is never seen by the program;
  * `Display.setPixel`, `Display.toggle`, `Display.clear`, `Display.frame`: the operations;
  * `Display.drawCells`: a sprite, pixel by pixel;
  * `Display.Command`, `Display.perform`: the operations as data.
-/
import Chip8.Screen

namespace Chip8

/-! ## 1. Afterglow -/

/-- For how many frames a pixel glows after it was switched off, and for how many each pixel
    still does. -/
structure Afterglow where
  fade : UInt32
  left : Vector UInt32 (screenWidth * screenHeight) := .replicate _ 0
  deriving DecidableEq

namespace Afterglow

/-- The frames for which a pixel still glows. -/
def glow (g : Afterglow) (p : Position) : UInt32 := g.left.get p.index

/-- A pixel was switched off: its glow starts anew. -/
def start (g : Afterglow) (p : Position) : Afterglow :=
  { g with left := g.left.setIfInBounds p.index g.fade }

/-- One frame passes. -/
def frame (g : Afterglow) : Afterglow :=
  { g with left := g.left.map fun n => if n = 0 then 0 else n - 1 }

/-- Nothing glows. -/
def clear (g : Afterglow) : Afterglow := { fade := g.fade }

end Afterglow

/-! ## 2. The display -/

/-- What was drawn, and the afterglow of a display that has one. -/
structure Display where
  screen : Screen := .blank
  afterglow : Option Afterglow := none
  deriving DecidableEq

namespace Display

/-- A blank display without afterglow: what was drawn is what is seen. -/
def plain : Display := {}

/-- A blank display on which a pixel that was switched off glows for `fade` frames. -/
def fading (fade : UInt32) : Display := { afterglow := some { fade } }

instance : Inhabited Display := ⟨plain⟩

/-- Whether a pixel is lit, as the program sees it. -/
def lit (d : Display) (p : Position) : Bool := d.screen.lit p

/-- Switches a pixel on or off. Only a lit pixel that goes off starts to glow. -/
def setPixel (d : Display) (p : Position) (on : Bool) : Display :=
  { screen := d.screen.put p on
    afterglow := if d.lit p && !on then d.afterglow.map (·.start p) else d.afterglow }

/-- The display with one pixel inverted, and whether the pixel was lit. -/
def toggle (d : Display) (p : Position) : Display × Bool :=
  (d.setPixel p (!d.lit p), d.lit p)

/-- Turns every pixel off at once, without glow. -/
def clear (d : Display) : Display :=
  { screen := .blank, afterglow := d.afterglow.map Afterglow.clear }

/-- The viewer presents one frame. -/
def frame (d : Display) : Display := { d with afterglow := d.afterglow.map Afterglow.frame }

/-- Whether a viewer sees a pixel: it is lit or still glows. -/
def visible (d : Display) (p : Position) : Bool :=
  d.lit p || d.afterglow.any fun g => g.glow p != 0

/-- What a viewer sees. -/
def shown (d : Display) : Screen := .ofFn d.visible

/-- Inverts the given pixels one after the other, and tells whether one was lit when its turn
    came. -/
def drawCells (d : Display) : List Position → Display × Bool
  | [] => (d, false)
  | p :: ps =>
      let (d, wasLit) := d.toggle p
      let (d, hit) := d.drawCells ps
      (d, wasLit || hit)

theorem lit_setPixel (d : Display) (p q : Position) (on : Bool) :
    (d.setPixel p on).lit q = if q = p then on else d.lit q :=
  Screen.lit_put ..

theorem lit_toggle (d : Display) (p q : Position) :
    (d.toggle p).1.lit q = if q = p then !d.lit q else d.lit q := by
  simp only [toggle, lit_setPixel]
  by_cases h : q = p <;> simp [h]

theorem lit_clear (d : Display) (p : Position) : d.clear.lit p = false := Screen.lit_blank p

@[simp] theorem lit_frame (d : Display) (p : Position) : d.frame.lit p = d.lit p := rfl

/-! ## 3. Histories -/

/-- One use of a display. Coordinates are bytes and wrap onto the screen. -/
inductive Command where
  | setPixel (x y : Byte) (on : Bool)
  | getPixel (x y : Byte)
  | toggle (x y : Byte)
  | visible (x y : Byte)
  | frames (n : Nat)
  | clear
  | visibleRows
  | render
  deriving DecidableEq, Repr

/-- What a use of a display yields. -/
inductive Yield where
  | done
  | pixel (on : Bool)
  | rows (l : List (Fin screenHeight × List Bool))
  | text (s : String)
  deriving DecidableEq, Repr

/-- The pixel with the given coordinates. -/
def position (x y : Byte) : Position := .wrap x.toNat y.toNat

/-- `n` frames, one after the other. -/
def frames (d : Display) : Nat → Display
  | 0 => d
  | n + 1 => d.frame.frames n

/-- One use of a display: the display after it, and what it yields. -/
def perform (d : Display) : Command → Display × Yield
  | .setPixel x y on => (d.setPixel (position x y) on, .done)
  | .getPixel x y => (d, .pixel (d.lit (position x y)))
  | .toggle x y => let (d, wasLit) := d.toggle (position x y); (d, .pixel wasLit)
  | .visible x y => (d, .pixel (d.visible (position x y)))
  | .frames n => (d.frames n, .done)
  | .clear => (d.clear, .done)
  | .visibleRows => (d, .rows d.shown.litRows)
  | .render => (d, .text d.screen.picture)

end Display

end Chip8
