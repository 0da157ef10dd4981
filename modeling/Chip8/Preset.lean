/-
  File:      Chip8/Preset.lean
  Subject:   How to run a particular program.

  * `Config`: pace, afterglow, keys and policy;
  * `presets`: the named ones, in the order of their names;
  * `preset?`: the one of a name.
-/
import Chip8.Keymap
import Chip8.Machine
import Chip8.Pace

namespace Chip8

/-- How to run a particular program. -/
structure Config where
  /-- For how many frames a pixel glows after it was switched off. -/
  fade : UInt32 := 3
  pace : Pace := {}
  keymap : Keymap := .keyboard
  policy : Policy := .permissive
  deriving DecidableEq

instance : Inhabited Config := ⟨{}⟩

/-- The settings with another pause between instructions, in microseconds. -/
def Config.withPause (c : Config) (micros : Nat) : Config :=
  { c with pace := { c.pace with pause := .ofMicros micros } }

/-- The named settings, in the order of their names. -/
def presets : List (String × Config) :=
  [("15puzzle", { (default : Config).withPause 100 with fade := 1 }),
   ("blinky",
    { (default : Config).withPause 1000 with
      fade := 1
      keymap := .ofList [(0x3, 'w'), (0x6, 's'), (0x7, 'a'), (0x8, 'd')] }),
   ("brix", { keymap := .ofList [(0x4, 'a'), (0x6, 'd')] }),
   ("connect4",
    { (default : Config).withPause 15000 with
      keymap := .ofList [(0x4, 'a'), (0x5, 's'), (0x6, 'd')] }),
   ("default", {}),
   ("hex", { keymap := .digits }),
   ("invaders", { keymap := .ofList [(0x4, 'a'), (0x5, 'w'), (0x6, 'd')] }),
   ("pong", { keymap := .ofList [(0x1, '1'), (0x4, 'q'), (0xC, '4'), (0xD, 'r')] }),
   ("tetris",
    { fade := 2, keymap := .ofList [(0x4, 'w'), (0x5, 'a'), (0x6, 'd'), (0x7, 's')] })]

def presetNames : List String := presets.map (·.1)

example : presetNames.Pairwise (· < ·) := by decide +kernel

/-- The settings of a name. -/
def preset? (name : String) : Option Config := presets.lookup name

end Chip8
