/-
  File:      Chip8/Registers.lean
  Subject:   The registers of the processor.

  * `CallStack`: the places to return to, sixteen at most, oldest first;
  * `Registers`: V0 to VF, the index register, the program counter and the call stack;
  * `Registers.get`, `Registers.set`: a general register by number, checked;
  * `Registers.setFlag`: VF, which always exists.
-/
import Chip8.Memory

namespace Chip8

/-- The number of levels of the call stack. -/
abbrev stackDepth : Nat := 16

/-- The number of general registers. -/
abbrev registerCount : Nat := 16

/-! ## 1. The call stack -/

/-- The addresses of the calls that have not returned, oldest first. -/
structure CallStack where
  entries : List Word
  length_le : entries.length ≤ stackDepth := by decide
  deriving DecidableEq

namespace CallStack

def empty : CallStack := { entries := [] }

instance : Inhabited CallStack := ⟨empty⟩

/-- One more call, if a level is left. -/
def push (s : CallStack) (a : Word) : Except Cause CallStack :=
  if h : s.entries.length < stackDepth then
    .ok ⟨s.entries ++ [a], by rw [List.length_append, List.length_singleton]; exact h⟩
  else .error .stackOverflow

/-- The latest call, and the stack without it. -/
def pop (s : CallStack) : Except Cause (Word × CallStack) :=
  match s.entries.getLast? with
  | some a =>
      .ok (a, ⟨s.entries.dropLast, by have := s.length_le; rw [List.length_dropLast]; omega⟩)
  | none => .error .stackUnderflow

theorem ext_entries {s t : CallStack} (h : s.entries = t.entries) : s = t := by
  cases s; cases t; cases h; rfl

theorem entries_push {s t : CallStack} {a : Word} (h : s.push a = .ok t) :
    t.entries = s.entries ++ [a] := by
  unfold push at h
  split at h
  · cases h; rfl
  · cases h

theorem entries_pop {s t : CallStack} {a : Word} (h : s.pop = .ok (a, t)) :
    s.entries = t.entries ++ [a] := by
  unfold pop at h
  split at h
  next b hb =>
    cases h
    obtain ⟨l, e⟩ := List.getLast?_eq_some_iff.mp hb
    simp [e]
  next => cases h

/-- What was pushed last is popped first. -/
theorem pop_push {s t : CallStack} {a : Word} (h : s.push a = .ok t) : t.pop = .ok (a, s) := by
  have e := entries_push h
  unfold pop
  have hl : t.entries.getLast? = some a := by simp [e]
  split
  next b hb =>
    rw [hl] at hb; cases hb
    congr 2
    exact ext_entries (by simp [e])
  next hn => rw [hl] at hn; cases hn

end CallStack

/-! ## 2. The register file -/

/-- V0 to VF, the index register `i`, the program counter `pc` and the call stack. -/
structure Registers where
  v : Vector Byte registerCount := .replicate registerCount 0
  i : Word := 0
  pc : Word := programStart
  stack : CallStack := .empty
  deriving DecidableEq

namespace Registers

instance : Inhabited Registers := ⟨{}⟩

/-- The register that instructions use as a flag. -/
def flagRegister : Reg := 0xF

def get (r : Registers) (n : Reg) : Except Cause Byte :=
  match r.v[n.toNat]? with
  | some b => .ok b
  | none => .error (.invalidRegister n)

def set (r : Registers) (n : Reg) (b : Byte) : Except Cause Registers :=
  if h : n.toNat < registerCount then .ok { r with v := r.v.set n.toNat b }
  else .error (.invalidRegister n)

/-- Sets VF to 1 or 0. -/
def setFlag (r : Registers) (flag : Bool) : Registers :=
  { r with v := r.v.set 15 (if flag then 1 else 0) (by decide) }

/-- Remembers `a` on the call stack. -/
def push (r : Registers) (a : Word) : Except Cause Registers :=
  match r.stack.push a with
  | .ok s => .ok { r with stack := s }
  | .error c => .error c

/-- The address remembered last. -/
def pop (r : Registers) : Except Cause (Word × Registers) :=
  match r.stack.pop with
  | .ok (a, s) => .ok (a, { r with stack := s })
  | .error c => .error c

theorem get_of_lt (r : Registers) {n : Reg} (h : n.toNat < registerCount) :
    r.get n = .ok r.v[n.toNat] := by
  simp [get, h]

theorem get_of_le (r : Registers) {n : Reg} (h : registerCount ≤ n.toNat) :
    r.get n = .error (.invalidRegister n) := by
  simp [get, Nat.not_lt.mpr h]

theorem set_of_lt (r : Registers) {n : Reg} (b : Byte) (h : n.toNat < registerCount) :
    r.set n b = .ok { r with v := r.v.set n.toNat b } := by
  simp [set, h]

theorem set_of_le (r : Registers) {n : Reg} (b : Byte) (h : registerCount ≤ n.toNat) :
    r.set n b = .error (.invalidRegister n) := by
  simp [set, Nat.not_lt.mpr h]

/-! ## 3. What changed -/

/-- The general registers in which two register files differ, ascending, with the old and the
    new value. -/
def changes (before after : Registers) : List (Reg × Byte × Byte) :=
  (List.finRange registerCount).filterMap fun (k : Fin registerCount) =>
    if before.v[k] = after.v[k] then none
    else some (UInt8.ofNat k.val, before.v[k], after.v[k])

end Registers

end Chip8
