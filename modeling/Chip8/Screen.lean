/-
  File:      Chip8/Screen.lean
  Subject:   The 64 by 32 pixels and the sprites drawn on them.

  * `Position`: one of the 2048 pixels; `Position.wrap` brings any coordinates onto the screen;
  * `Screen`: which pixels are lit; `Screen.lit`, `Screen.put` read and write one;
  * `Screen.picture`: the screen as text, one line per row;
  * `spriteCells`: the pixels that a sprite covers, in the order in which it is drawn.
-/
import Chip8.Word

namespace Chip8

abbrev screenWidth : Nat := 64

abbrev screenHeight : Nat := 32

/-! ## 1. Positions -/

/-- One pixel: column and row, counted from the top left. -/
structure Position where
  x : Fin screenWidth
  y : Fin screenHeight
  deriving DecidableEq, Repr

namespace Position

/-- The pixel at any coordinates: the screen repeats in both directions. -/
def wrap (x y : Nat) : Position :=
  { x := ⟨x % screenWidth, Nat.mod_lt _ (by decide)⟩
    y := ⟨y % screenHeight, Nat.mod_lt _ (by decide)⟩ }

/-- The place of a pixel when the rows follow one another. -/
def index (p : Position) : Fin (screenWidth * screenHeight) :=
  ⟨screenWidth * p.y + p.x, by
    have hx := p.x.isLt
    have hy := p.y.isLt
    simp only [screenWidth, screenHeight] at *
    omega⟩

theorem index_inj {p q : Position} : p.index = q.index ↔ p = q := by
  constructor
  · intro h
    have e := Fin.val_eq_of_eq h
    have hp := p.x.isLt
    have hq := q.x.isLt
    simp only [index, screenWidth] at e hp hq
    cases p; cases q
    simp only [Position.mk.injEq, Fin.ext_iff] at *
    omega
  · rintro rfl; rfl

end Position

/-! ## 2. Screens -/

/-- Which pixels are lit. -/
structure Screen where
  pixels : Vector Bool (screenWidth * screenHeight) := .replicate _ false
  deriving DecidableEq

namespace Screen

/-- Every pixel is off. -/
def blank : Screen := {}

instance : Inhabited Screen := ⟨blank⟩

def lit (s : Screen) (p : Position) : Bool := s.pixels[p.index]

/-- The screen with one pixel switched on or off. -/
def put (s : Screen) (p : Position) (on : Bool) : Screen := ⟨s.pixels.set p.index on⟩

/-- The screen that shows the pixels with a property. -/
def ofFn (f : Position → Bool) : Screen :=
  ⟨Vector.ofFn fun k => f (.wrap k (k / screenWidth))⟩

theorem lit_blank (p : Position) : blank.lit p = false := by
  simp [blank, lit]

theorem lit_put (s : Screen) (p q : Position) (on : Bool) :
    (s.put p on).lit q = if q = p then on else s.lit q := by
  simp only [put, lit, Fin.getElem_fin, Vector.getElem_set]
  by_cases h : q = p
  · simp [h]
  · have : (p.index : Nat) ≠ q.index := fun e => h (Position.index_inj.mp (Fin.ext e)).symm
    simp [h, this]

/-! ## 3. Rows and text -/

/-- The pixels of one row, from the left. -/
def row (s : Screen) (y : Fin screenHeight) : List Bool :=
  (List.finRange screenWidth).map fun x => s.lit ⟨x, y⟩

/-- All rows, from the top. -/
def rows (s : Screen) : List (List Bool) := (List.finRange screenHeight).map s.row

/-- The rows in which some pixel is lit, with their numbers. -/
def litRows (s : Screen) : List (Fin screenHeight × List Bool) :=
  ((List.finRange screenHeight).map fun y => (y, s.row y)).filter fun r => r.2.any id

/-- The screen as text: a lit pixel is written `@`, another one as a blank, and each row ends
    with a line break. -/
def picture (s : Screen) : String :=
  String.ofList (s.rows.flatMap fun r => r.map (fun on => if on then '@' else ' ') ++ ['\n'])

end Screen

/-! ## 4. Sprites -/

/-- The columns of a row of a sprite in which its byte has a bit, from the left. The most
    significant bit is the leftmost column. -/
def spriteColumns (row : Byte) : List Nat :=
  (List.range 8).filter fun c => row.toNat.testBit (7 - c)

/-- The pixels that a sprite covers whose top left corner is at the given coordinates: row by
    row, from the left, and over the edges of the screen. -/
def spriteCells (x y : Nat) (rows : List Byte) : List Position :=
  rows.zipIdx.flatMap fun (row, r) => (spriteColumns row).map fun c => .wrap (x + c) (y + r)

example : spriteCells 63 31 [0xC0, 0x01] = [⟨63, 31⟩, ⟨0, 31⟩, ⟨6, 0⟩] := by decide

end Chip8
