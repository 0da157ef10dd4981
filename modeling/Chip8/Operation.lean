/-
  File:      Chip8/Operation.lean
  Subject:   Everything that can be done with a console, as data.

  * `Operation`: one operation; a schedule is a list of them;
  * `Reply`: what an operation answers;
  * `Console.perform`: one operation; `Console.performAll`: a schedule.
-/
import Chip8.Console

namespace Chip8

/-- One operation on a console. -/
inductive Operation where
  /-- Up to so many steps. -/
  | step (times : Nat)
  /-- One instruction, without fetching it, without an event, and without halting on an error. -/
  | execute (ins : Instruction)
  /-- Frames of a number of steps, or of as many as the pace asks for. -/
  | runFrames (frames : Nat) (cycles : Option Nat)
  | cyclesPerFrame
  | loadProgram (program : List Byte)
  | setPc (a : Word)
  | setIndex (a : Word)
  | setRegister (r : Reg) (b : Byte)
  | getRegister (r : Reg)
  | setTimers (t : Timers)
  | tick (times : Nat)
  | key (key : Byte) (down : Bool)
  | releaseAll
  | halt
  | setPolicy (p : Policy)
  | setRandom (s : RandomSource)
  | setDisplay (d : Display)
  | setObserver (o : Observer)
  | memory (a : Memory.Access)
  | display (a : Display.Command)

/-- What an operation answers. -/
inductive Reply where
  | done
  | number (n : Nat)
  | flag (b : Bool)
  | status (s : Status)
  | bytes (l : List Byte)
  | rows (l : List (Fin screenHeight × List Bool))
  | text (s : String)
  | refused (c : Cause)
  | interrupted (e : Interruption)
  deriving DecidableEq, Repr

namespace Reply

def ofMemory : Except Cause Memory.Yield → Reply
  | .ok .done => done
  | .ok (.byte b) => number b.toNat
  | .ok (.bytes l) => bytes l
  | .error c => refused c

def ofDisplay : Display.Yield → Reply
  | .done => done
  | .pixel on => flag on
  | .rows l => rows l
  | .text s => text s

def ofRun : Except Interruption Status → Reply
  | .ok s => status s
  | .error e => interrupted e

end Reply

namespace Console

/-- Changes the machine and nothing else. -/
def modifyMachine (c : Console) (f : Machine → Machine) : Console :=
  { c with machine := f c.machine }

/-- Changes the registers and nothing else. -/
def modifyRegisters (c : Console) (f : Registers → Registers) : Console :=
  c.modifyMachine fun m => { m with registers := f m.registers }

/-- One instruction, without fetching it. -/
def executeDirect (c : Console) (ins : Instruction) : Console × Reply :=
  match c.machine.execute ins with
  | (machine, .ok ()) => ({ c with machine }.report ins.notes, .done)
  | (machine, .error e) => ({ c with machine }, .refused e)

def loadProgram (c : Console) (program : List Byte) : Console × Reply :=
  match c.machine.loadProgram program with
  | .ok machine => ({ c with machine }.report [.programLoaded program.length], .done)
  | .error e => (c, .refused e)

def setRegister (c : Console) (r : Reg) (b : Byte) : Console × Reply :=
  match c.machine.registers.set r b with
  | .ok registers => (c.modifyRegisters fun _ => registers, .done)
  | .error e => (c, .refused e)

def getRegister (c : Console) (r : Reg) : Reply :=
  match c.machine.registers.get r with
  | .ok b => .number b.toNat
  | .error e => .refused e

def setKey (c : Console) (key : Byte) (down : Bool) : Console × Reply :=
  match c.machine.keypad.setPressed key down with
  | .ok keypad => (c.modifyMachine ({ · with keypad }), .done)
  | .error e => (c, .refused e)

/-- Several ticks of the timers. -/
def ticks (c : Console) : Nat → Console
  | 0 => c
  | n + 1 => c.tick.ticks n

/-- One operation: the console after it, and the answer. -/
def perform (c : Console) : Operation → Console × Reply
  | .step times => let (c, r) := c.steps times; (c, .ofRun r)
  | .execute ins => c.executeDirect ins
  | .runFrames frames cycles =>
      let (c, r) := c.runFrames (cycles.getD c.pace.cyclesPerFrame) frames
      (c, .ofRun r)
  | .cyclesPerFrame => (c, .number c.pace.cyclesPerFrame)
  | .loadProgram program => c.loadProgram program
  | .setPc pc => (c.modifyRegisters ({ · with pc }), .done)
  | .setIndex i => (c.modifyRegisters ({ · with i }), .done)
  | .setRegister r b => c.setRegister r b
  | .getRegister r => (c, c.getRegister r)
  | .setTimers timers => (c.modifyMachine ({ · with timers }), .done)
  | .tick times => let c := c.ticks times; (c, .flag c.machine.timers.isSounding)
  | .key key down => c.setKey key down
  | .releaseAll => (c.modifyMachine ({ · with keypad := .released }), .done)
  | .halt => (c.halt, .done)
  | .setPolicy policy => (c.modifyMachine ({ · with policy }), .done)
  | .setRandom random => (c.modifyMachine ({ · with random }), .done)
  | .setDisplay display => (c.modifyMachine ({ · with display }), .done)
  | .setObserver observer => ({ c with observer }, .done)
  | .memory a =>
      let (memory, r) := c.machine.memory.perform a
      (c.modifyMachine ({ · with memory }), .ofMemory r)
  | .display a =>
      let (display, r) := c.machine.display.perform a
      (c.modifyMachine ({ · with display }), .ofDisplay r)

/-- A schedule: the console after it, and the answers in order. -/
def performAll (c : Console) : List Operation → Console × List Reply
  | [] => (c, [])
  | o :: os =>
      let (c, r) := c.perform o
      let (c, rs) := c.performAll os
      (c, r :: rs)

end Console

end Chip8
