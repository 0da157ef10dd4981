/-
  File:      Chip8/Proofs/Spelling.lean
  Subject:   Which words stand for an instruction, and which word a machine is about to execute.

  * `Instruction.Spelled`: the words of an instruction, written as sums of their digits;
  * `spelled_decode`: a word is decoded only to an instruction that it stands for;
  * `Machine.Executes`: the machine is about to execute a word; `spelled_of_executes` brings the
    two together;
  * `executes_of_holding`: what it executes of a program that memory holds.
-/
import Chip8.Proofs.Faults

namespace Chip8

namespace Instruction

open Table

/-! ## 1. The words of an instruction -/

/-- The word `w` stands for the instruction. -/
def Spelled (w : Nat) : Instruction → Prop
  | clearDisplay => w = 0x00E0
  | returnSubroutine => w = 0x00EE
  | jump a => a.toNat < 4096 ∧ w = 0x1000 + a.toNat
  | callSubroutine a => a.toNat < 4096 ∧ w = 0x2000 + a.toNat
  | skipIfEqualConst x k => x.toNat < 16 ∧ w = 0x3000 + 256 * x.toNat + k.toNat
  | skipIfNotEqualConst x k => x.toNat < 16 ∧ w = 0x4000 + 256 * x.toNat + k.toNat
  | skipIfEqual x y => x.toNat < 16 ∧ y.toNat < 16 ∧ w = 0x5000 + 256 * x.toNat + 16 * y.toNat
  | setConst x k => x.toNat < 16 ∧ w = 0x6000 + 256 * x.toNat + k.toNat
  | addConst x k => x.toNat < 16 ∧ w = 0x7000 + 256 * x.toNat + k.toNat
  | set x y => x.toNat < 16 ∧ y.toNat < 16 ∧ w = 0x8000 + 256 * x.toNat + 16 * y.toNat
  | or x y => x.toNat < 16 ∧ y.toNat < 16 ∧ w = 0x8001 + 256 * x.toNat + 16 * y.toNat
  | and x y => x.toNat < 16 ∧ y.toNat < 16 ∧ w = 0x8002 + 256 * x.toNat + 16 * y.toNat
  | xor x y => x.toNat < 16 ∧ y.toNat < 16 ∧ w = 0x8003 + 256 * x.toNat + 16 * y.toNat
  | add x y => x.toNat < 16 ∧ y.toNat < 16 ∧ w = 0x8004 + 256 * x.toNat + 16 * y.toNat
  | sub x y => x.toNat < 16 ∧ y.toNat < 16 ∧ w = 0x8005 + 256 * x.toNat + 16 * y.toNat
  -- The shifts ignore their third digit.
  | rightShift x => x.toNat < 16 ∧ ∃ y < 16, w = 0x8006 + 256 * x.toNat + 16 * y
  | negSub x y => x.toNat < 16 ∧ y.toNat < 16 ∧ w = 0x8007 + 256 * x.toNat + 16 * y.toNat
  | leftShift x => x.toNat < 16 ∧ ∃ y < 16, w = 0x800E + 256 * x.toNat + 16 * y
  | skipIfNotEqual x y => x.toNat < 16 ∧ y.toNat < 16 ∧ w = 0x9000 + 256 * x.toNat + 16 * y.toNat
  | setI a => a.toNat < 4096 ∧ w = 0xA000 + a.toNat
  | jumpAdd a => a.toNat < 4096 ∧ w = 0xB000 + a.toNat
  | rand x mask => x.toNat < 16 ∧ w = 0xC000 + 256 * x.toNat + mask.toNat
  | draw x y rows => x.toNat < 16 ∧ y.toNat < 16 ∧ rows.toNat < 16 ∧
      w = 0xD000 + 256 * x.toNat + 16 * y.toNat + rows.toNat
  | skipIfKey x => x.toNat < 16 ∧ w = 0xE09E + 256 * x.toNat
  | skipIfNotKey x => x.toNat < 16 ∧ w = 0xE0A1 + 256 * x.toNat
  | getDelayTimer x => x.toNat < 16 ∧ w = 0xF007 + 256 * x.toNat
  | waitKey x => x.toNat < 16 ∧ w = 0xF00A + 256 * x.toNat
  | setDelayTimer x => x.toNat < 16 ∧ w = 0xF015 + 256 * x.toNat
  | setSoundTimer x => x.toNat < 16 ∧ w = 0xF018 + 256 * x.toNat
  | addToI x => x.toNat < 16 ∧ w = 0xF01E + 256 * x.toNat
  | spriteAddr x => x.toNat < 16 ∧ w = 0xF029 + 256 * x.toNat
  | decimal x => x.toNat < 16 ∧ w = 0xF033 + 256 * x.toNat
  | storeRegisters x => x.toNat < 16 ∧ w = 0xF055 + 256 * x.toNat
  | loadRegisters x => x.toNat < 16 ∧ w = 0xF065 + 256 * x.toNat
  | unknown word => word.toNat = w ∧ ¬ Listed w

theorem spelled_decodeArithmetic {w : Word} (k : w.kind.toNat = 0x8) :
    (decodeArithmetic w).Spelled w.toNat := by
  have hw := w.toNat_eq_digits
  unfold decodeArithmetic
  split
  case h_7 | h_9 => exact ⟨w.x_lt, w.y.toNat, w.y_lt, by omega⟩
  case h_10 =>
    refine ⟨rfl, ?_⟩
    rw [listed_arithmetic_iff (w.toNat_kind.symm.trans k), ← w.toNat_n]
    simp_all
  all_goals exact ⟨w.x_lt, w.y_lt, by omega⟩

theorem spelled_decodeKey {w : Word} (k : w.kind.toNat = 0xE) :
    (decodeKey w).Spelled w.toNat := by
  have hw := w.toNat_eq_nn
  unfold decodeKey
  split
  · exact ⟨w.x_lt, by omega⟩
  · exact ⟨w.x_lt, by omega⟩
  · refine ⟨rfl, ?_⟩
    rw [listed_key_iff (w.toNat_kind.symm.trans k), ← w.toNat_nn]
    simp_all

theorem spelled_decodeMisc {w : Word} (k : w.kind.toNat = 0xF) :
    (decodeMisc w).Spelled w.toNat := by
  have hw := w.toNat_eq_nn
  unfold decodeMisc
  split
  case h_10 =>
    refine ⟨rfl, ?_⟩
    rw [listed_misc_iff (w.toNat_kind.symm.trans k), ← w.toNat_nn]
    simp_all
  all_goals exact ⟨w.x_lt, by omega⟩

/-- **A word is decoded to an instruction that it stands for.** -/
theorem spelled_decode (w : Word) : (decode w).Spelled w.toNat := by
  have hnnn := w.toNat_eq_nnn
  have hnn := w.toNat_eq_nn
  have hn := w.toNat_eq_digits
  have hz : w.n = 0 ↔ w.n.toNat = 0 := UInt8.toNat_inj.symm
  unfold decode
  split
  case h_1 k =>
    split
    next e => rw [e]; rfl
    next h0 =>
      split
      next e => rw [e]; rfl
      next h1 =>
        refine ⟨rfl, ?_⟩
        rw [listed_zero_iff (w.toNat_kind.symm.trans k)]
        have hc : w.toNat = 0x00E0 ↔ w = 0x00E0 := UInt16.toNat_inj (b := 0x00E0)
        have hr : w.toNat = 0x00EE ↔ w = 0x00EE := UInt16.toNat_inj (b := 0x00EE)
        rw [hc, hr]
        exact not_or.mpr ⟨h0, h1⟩
  case h_2 | h_3 | h_11 | h_12 => exact ⟨w.nnn_lt, by omega⟩
  case h_6 k | h_10 k =>
    split
    next e =>
      rw [hz] at e
      exact ⟨w.x_lt, w.y_lt, by omega⟩
    next e =>
      rw [hz] at e
      refine ⟨rfl, ?_⟩
      rw [listed_n_iff (by rw [← w.toNat_kind]; omega), ← w.toNat_n]
      exact e
  case h_9 k => exact spelled_decodeArithmetic k
  case h_14 => exact ⟨w.x_lt, w.y_lt, w.n_lt, by omega⟩
  case h_15 k => exact spelled_decodeKey k
  case h_16 k => exact spelled_decodeMisc k
  case h_17 =>
    have hk := w.kind_lt
    simp only [imp_false] at *
    omega
  all_goals exact ⟨w.x_lt, by omega⟩

end Instruction

namespace Machine

open Table Instruction

/-! ## 2. The word that is executed next -/

/-- The machine is about to execute the word `w`. -/
structure Executes (m : Machine) (w : Nat) : Prop where
  running : m.status = .running
  fetched : m.registers.pc.toNat ≤ 0xFFE
  word : word m = w

/-- What a running machine decodes stands for the word that it is about to execute. -/
theorem spelled_of_executes {m : Machine} {w : Nat} (h : m.Executes w) :
    m.fetch = .ok (.ofNat w) ∧ (decode (.ofNat w)).Spelled w := by
  obtain ⟨-, hpc, rfl⟩ := h
  have hs := spelled_decode (.ofNat (Table.word m))
  rw [UInt16.toNat_ofNat_of_lt' (word_lt m)] at hs
  exact ⟨fetch_of_le m hpc, hs⟩

/-- Memory with a program at its place and zeros elsewhere. -/
def holding (program : List Byte) : Memory :=
  ⟨Memory.overwrite (.replicate memorySize 0) programStart.toNat program⟩

theorem cell_holding {m : Machine} {program : List Byte} (hm : m.memory = holding program)
    (fits : program.length ≤ 0xE00) {k : Nat} (hk : k < program.length) :
    cell m (0x200 + k) = program[k].toNat := by
  have hp : programStart.toNat = 0x200 := rfl
  have hin : 0x200 ≤ 0x200 + k ∧ 0x200 + k < 0x200 + program.length := by omega
  rw [cell, hm, holding, hp, Memory.getElem?_overwrite _ _ _ (by simp only [memorySize]; omega),
    if_pos hin, Nat.add_sub_cancel_left, List.getElem?_eq_getElem hk, Option.getD_some]

/-- A running machine executes the two bytes of the program to which its counter points. -/
theorem executes_of_holding {m : Machine} (program : List Byte) (k : Nat)
    (hm : m.memory = holding program) (fits : program.length ≤ 0xE00) (hs : m.status = .running)
    (hpc : m.registers.pc.toNat = 0x200 + k) (hk : k + 1 < program.length) :
    m.Executes (256 * program[k].toNat + program[k + 1].toNat) := by
  refine ⟨hs, by omega, ?_⟩
  have h0 := cell_holding hm fits (Nat.lt_of_succ_lt hk)
  have h1 := cell_holding hm fits hk
  rw [Table.word, hpc, h0, Nat.add_assoc, h1]

end Machine

end Chip8
