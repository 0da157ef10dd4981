/-
  File:      Chip8/Keymap.lean
  Subject:   Which character of a keyboard stands for which key.

  * `Keymap`: bindings of keys to characters, ascending by key;
  * `Keymap.bind`, `Keymap.ofList`: a later binding of a key replaces an earlier one;
  * `Keymap.keyFor`: the key that a typed character stands for.
-/
import Chip8.Word

namespace Chip8

/-- Bindings of keys to characters, ascending by key. -/
structure Keymap where
  bindings : List (Byte × Char) := []
  deriving DecidableEq, Repr

namespace Keymap

/-- A new binding, among the others. -/
def insert (key : Byte) (ch : Char) : List (Byte × Char) → List (Byte × Char)
  | [] => [(key, ch)]
  | b :: bs =>
      if key < b.1 then (key, ch) :: b :: bs
      else if key = b.1 then (key, ch) :: bs
      else b :: insert key ch bs

/-- Binds a key, in place of what it was bound to. -/
def bind (m : Keymap) (key : Byte) (ch : Char) : Keymap := ⟨insert key ch m.bindings⟩

def ofList (l : List (Byte × Char)) : Keymap := l.foldl (fun m b => m.bind b.1 b.2) {}

/-- The character that a key is bound to. -/
def get? (m : Keymap) (key : Byte) : Option Char := m.bindings.lookup key

/-- The lowest key that is bound to a character, or to its lower case form if it is one of `A`
    to `Z`. The bound characters are taken as they are. -/
def keyFor (m : Keymap) (ch : Char) : Option Byte :=
  (m.bindings.find? fun b => b.2 == ch.toLower).map (·.1)

/-! ## 1. Two layouts -/

/-- Keys labelled like the hexadecimal digits they stand for. -/
def digits : Keymap := ofList
  [(0x0, '0'), (0x1, '1'), (0x2, '2'), (0x3, '3'), (0x4, '4'), (0x5, '5'), (0x6, '6'), (0x7, '7'),
   (0x8, '8'), (0x9, '9'), (0xA, 'a'), (0xB, 'b'), (0xC, 'c'), (0xD, 'd'), (0xE, 'e'), (0xF, 'f')]

/-- The keypad laid over the left of a keyboard: four rows of four characters, from `1234` down
    to `zxcv`, stand for `123C`, `456D`, `789E` and `A0BF`. -/
def keyboard : Keymap := ofList
  [(0x1, '1'), (0x2, '2'), (0x3, '3'), (0xC, '4'),
   (0x4, 'q'), (0x5, 'w'), (0x6, 'e'), (0xD, 'r'),
   (0x7, 'a'), (0x8, 's'), (0x9, 'd'), (0xE, 'f'),
   (0xA, 'z'), (0x0, 'x'), (0xB, 'c'), (0xF, 'v')]

end Keymap

end Chip8
