/-
  File:      Chip8/Main.lean
  Subject:   The program: files and random numbers come from outside, the answer goes out.
-/
import Chip8.CommandLine

namespace Chip8.CommandLine

/-- The bytes of a file, or the reason why it cannot be read. -/
def readContent (path : String) : IO FileContent := do
  try
    let bytes ← IO.FS.readBinFile path
    return .ok bytes.toList
  catch
    | .noFileOrDirectory .. => return .error noSuchFile
    | e => return .error (toString e)

/-- A number from eight bytes. -/
def seedOf (bytes : ByteArray) : UInt64 :=
  bytes.toList.foldl (fun n b => n <<< 8 ||| b.toUInt64) 0

end Chip8.CommandLine

open Chip8 Chip8.CommandLine in
/-- Runs with the given arguments and returns the exit code. -/
def main (args : List String) : IO UInt32 := do
  let content ← match Request.ofArgs args with
    | .ok (.run a) => readContent a.rom
    | _ => pure (.error noSuchFile)
  let seed := seedOf (← IO.getRandomBytes 8)
  let answer := run (fun _ => content) (.seeded seed) args
  IO.print answer.stdout
  IO.eprint answer.stderr
  return answer.code.toUInt32
