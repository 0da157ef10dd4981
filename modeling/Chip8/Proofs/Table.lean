/-
  File:      Chip8/Proofs/Table.lean
  Subject:   The opcode table, read off the digits of a word.

  A second account of the instructions, which knows neither the decoder nor the elementary
  accesses: a word is split into its four digits by division, all values are natural numbers
  taken from the machine as it was before, and each row writes down the machine that follows.

  * `Table.v`, `Table.cell`, `Table.Held`, `Table.Covers`: what a row reads;
  * `Table.goOn`, `Table.skip`, `Table.put`, `Table.putFlagged`: what most rows write;
  * `Table.Listed`: the words of the table;
  * `Table.next`: the table. A row gives the next machine or the cause of a refusal.
-/
import Chip8.Proofs.Sprite
import Chip8.Machine

namespace Chip8

namespace Table

/-! ## 1. Reading -/

/-- The content of general register `k`. -/
def v (m : Machine) (k : Nat) : Nat := (m.registers.v[k]?.getD 0).toNat

/-- The content of memory cell `a`. -/
def cell (m : Machine) (a : Nat) : Nat := (m.memory.cells[a]?.getD 0).toNat

/-- The word at the program counter, the more significant byte first. -/
def word (m : Machine) : Nat :=
  256 * cell m m.registers.pc.toNat + cell m (m.registers.pc.toNat + 1)

/-- Key `k` is held. There is no key above 15, so none of those is. -/
abbrev Held (m : Machine) (k : Nat) : Prop := m.keypad.down[k]? = some true

/-- The sprite of `n` rows at the index register has a bit in row `r` and column `c`. -/
abbrev Bit (m : Machine) (r c : Nat) : Prop :=
  (cell m (m.registers.i.toNat + r)).testBit (7 - c) = true

/-- The sprite of `n` rows with its top left corner at the given coordinates has a bit on a
    pixel. -/
abbrev Covers (m : Machine) (left top n : Nat) (p : Position) : Prop :=
  ∃ r < n, ∃ c < 8, Bit m r c ∧ p.x.val = (left + c) % 64 ∧ p.y.val = (top + r) % 32

/-- It has a bit on a lit pixel. -/
abbrev Hits (m : Machine) (left top n : Nat) : Prop :=
  ∃ r < n, ∃ c < 8, Bit m r c ∧ m.display.lit (.wrap (left + c) (top + r)) = true

/-! ## 2. Writing -/

/-- The machine goes on at an address (modulo 65536). -/
def goTo (m : Machine) (pc : Nat) : Machine :=
  { m with registers := { m.registers with pc := .ofNat pc } }

/-- The machine goes on behind the instruction. -/
def goOn (m : Machine) : Machine := goTo m (m.registers.pc.toNat + 2)

/-- The machine goes on behind the instruction, or behind the next one if a condition holds. -/
def skip (m : Machine) (c : Prop) [Decidable c] : Machine :=
  goTo m (m.registers.pc.toNat + if c then 4 else 2)

/-- The machine goes on with new values in the general registers. -/
def putAll (m : Machine) (f : Nat → Nat) : Machine :=
  { goOn m with registers :=
    { (goOn m).registers with v := .ofFn fun k : Fin registerCount => .ofNat (f k) } }

/-- One general register gets a value. -/
def put (m : Machine) (x value : Nat) : Machine :=
  putAll m fun k => if k = x then value else v m k

/-- A general register gets a value and VF a flag. In VF itself the value stays. -/
def putFlagged (m : Machine) (x value flag : Nat) : Machine :=
  putAll m fun k => if k = x then value else if k = 0xF then flag else v m k

/-- The index register gets a value. -/
def putIndex (m : Machine) (a : Nat) : Machine :=
  { goOn m with registers := { (goOn m).registers with i := .ofNat a } }

/-- The memory cells get new values. -/
def putCells (m : Machine) (f : Nat → Nat) : Machine :=
  { goOn m with memory := ⟨.ofFn fun a : Fin memorySize => .ofNat (f a)⟩ }

/-! ## 3. The table -/

/-- The words of the table. -/
def Listed (w : Nat) : Prop :=
  w = 0x00E0 ∨ w = 0x00EE ∨
  w / 4096 ∈ [0x1, 0x2, 0x3, 0x4, 0x6, 0x7, 0xA, 0xB, 0xC, 0xD] ∨
  w / 4096 ∈ [0x5, 0x9] ∧ w % 16 = 0 ∨
  w / 4096 = 0x8 ∧ w % 16 ∈ [0x0, 0x1, 0x2, 0x3, 0x4, 0x5, 0x6, 0x7, 0xE] ∨
  w / 4096 = 0xE ∧ w % 256 ∈ [0x9E, 0xA1] ∨
  w / 4096 = 0xF ∧ w % 256 ∈ [0x07, 0x0A, 0x15, 0x18, 0x1E, 0x29, 0x33, 0x55, 0x65]

instance (w : Nat) : Decidable (Listed w) := by unfold Listed; infer_instance

/-- A word outside the table is passed over, or refused under the strict policy. -/
def unlisted (m : Machine) (w : Nat) : Except Cause Machine :=
  match m.policy with
  | .permissive => .ok (goOn m)
  | .strict => .error (.unknownOpcode (.ofNat w))

/-- `00E0`. -/
def cleared (m : Machine) : Machine :=
  { goOn m with display :=
    { screen := .ofFn fun _ => false
      afterglow := m.display.afterglow.map fun g => { fade := g.fade } } }

/-- `00EE`. -/
def returned (m : Machine) : Except Cause Machine :=
  match m.registers.stack.entries.getLast? with
  | none => .error .stackUnderflow
  | some a =>
      .ok { m with registers := { m.registers with
        pc := .ofNat (a.toNat + 2)
        stack := ⟨m.registers.stack.entries.dropLast, by
          have := m.registers.stack.length_le; rw [List.length_dropLast]; omega⟩ } }

/-- `2NNN`. -/
def called (m : Machine) (nnn : Nat) : Except Cause Machine :=
  if h : m.registers.stack.entries.length < 16 then
    .ok { m with registers := { m.registers with
      pc := .ofNat nnn
      stack := ⟨m.registers.stack.entries ++ [m.registers.pc], by
        rw [List.length_append, List.length_singleton]; exact h⟩ } }
  else .error .stackOverflow

/-- `8XY_`: the arithmetic of two registers. -/
def arithmetic (m : Machine) (w : Nat) : Except Cause Machine :=
  let x := w / 256 % 16
  let a := v m x
  let b := v m (w / 16 % 16)
  match w % 16 with
  | 0x0 => .ok (put m x b)
  | 0x1 => .ok (put m x (a ||| b))
  | 0x2 => .ok (put m x (a &&& b))
  | 0x3 => .ok (put m x (a ^^^ b))
  | 0x4 => .ok (putFlagged m x ((a + b) % 256) (if 255 < a + b then 1 else 0))
  | 0x5 => .ok (putFlagged m x ((a + 256 - b) % 256) (if b ≤ a then 1 else 0))
  | 0x6 => .ok (putFlagged m x (a / 2) (a % 2))
  | 0x7 => .ok (putFlagged m x ((b + 256 - a) % 256) (if a ≤ b then 1 else 0))
  | 0xE => .ok (putFlagged m x (a * 2 % 256) (a / 128))
  | _ => unlisted m w

/-- `DXYN`. -/
def drawn (m : Machine) (left top n : Nat) : Except Cause Machine :=
  let i := m.registers.i.toNat
  if i + n ≤ 4096 then
    .ok { put m 0xF (if Hits m left top n then 1 else 0) with
      display := m.display.invert fun p => decide (Covers m left top n p) }
  else .error (.outOfBounds (if 4096 ≤ i ∧ 0 < n then i else 4096))

/-- `FX__`: timers, keys, the index register and memory. -/
def misc (m : Machine) (w : Nat) : Except Cause Machine :=
  let x := w / 256 % 16
  let a := v m x
  let i := m.registers.i.toNat
  match w % 256 with
  | 0x07 => .ok (put m x m.timers.delay.toNat)
  | 0x0A => .ok { goOn m with status := .waitingForKey (.ofNat x), baseline := m.keypad }
  | 0x15 => .ok { goOn m with timers := { m.timers with delay := .ofNat a } }
  | 0x18 => .ok { goOn m with timers := { m.timers with sound := .ofNat a } }
  | 0x1E =>
      if i + a ≤ 65535 then .ok (putIndex m (i + a)) else .error (.outOfBounds (i + a))
  | 0x29 => .ok (putIndex m (a * 5))
  | 0x33 =>
      if i + 2 ≤ 4095 then
        .ok (putCells m fun j =>
          if j = i then a / 100
          else if j = i + 1 then a / 10 % 10
          else if j = i + 2 then a % 10
          else cell m j)
      else .error (.outOfBounds (max i 4096))
  | 0x55 =>
      if i + x ≤ 4095 then
        .ok (putCells m fun j => if i ≤ j ∧ j ≤ i + x then v m (j - i) else cell m j)
      else .error (.outOfBounds (max i 4096))
  | 0x65 =>
      if i + x ≤ 4095 then .ok (putAll m fun k => if k ≤ x then cell m (i + k) else v m k)
      else .error (.outOfBounds (max i 4096))
  | _ => unlisted m w

/-- **The table**: the machine after the word `w` at the program counter, or why the word is
    refused. -/
def next (m : Machine) (w : Nat) : Except Cause Machine :=
  let x := w / 256 % 16
  let y := w / 16 % 16
  let nnn := w % 4096
  let nn := w % 256
  match w / 4096 with
  | 0x0 =>
      if w = 0x00E0 then .ok (cleared m)
      else if w = 0x00EE then returned m
      else unlisted m w
  | 0x1 => .ok (goTo m nnn)
  | 0x2 => called m nnn
  | 0x3 => .ok (skip m (v m x = nn))
  | 0x4 => .ok (skip m (v m x ≠ nn))
  | 0x5 => if w % 16 = 0 then .ok (skip m (v m x = v m y)) else unlisted m w
  | 0x6 => .ok (put m x nn)
  | 0x7 => .ok (put m x ((v m x + nn) % 256))
  | 0x8 => arithmetic m w
  | 0x9 => if w % 16 = 0 then .ok (skip m (v m x ≠ v m y)) else unlisted m w
  | 0xA => .ok (putIndex m nnn)
  | 0xB => .ok (goTo m (nnn + v m 0))
  | 0xC =>
      .ok { put m x ((m.random.word m.random.taken).toNat % 256 &&& nn) with
        random := { m.random with taken := m.random.taken + 1 } }
  | 0xD => drawn m (v m x) (v m y) (w % 16)
  | 0xE =>
      if nn = 0x9E then .ok (skip m (Held m (v m x)))
      else if nn = 0xA1 then .ok (skip m (¬ Held m (v m x)))
      else unlisted m w
  | _ => misc m w

end Table

end Chip8
