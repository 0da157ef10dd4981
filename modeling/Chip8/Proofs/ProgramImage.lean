/-
  File:      Chip8/Proofs/ProgramImage.lean
  Subject:   A program is put into memory whole or not at all, whoever does it.

  Three checks look at the size of a program, that of the file, that of the machine and that of
  memory:

  * `Machine.Carries`: a machine with a program in memory and otherwise as it was;
  * `Machine.loadProgram_eq_ok_iff`, `Machine.loadProgram_eq_error_iff`: what loading does. What the
    machine accepts, memory accepts as well (`load_programStart_iff`);
  * `Machine.toList_withProgram`: all of memory behind a new start;
  * `Console.ofImage_eq_error_iff`, `Console.ofImage_of_withProgram`: a file is set up exactly if
    its content is;
  * `Console.loaders_agree`: all of it.
-/
import Chip8.Loading
import Chip8.Operation
import Chip8.Proofs.MemoryMap

namespace Chip8

variable {program : List Byte}

/-! ## 1. Machines -/

/-- **The check of the machine is that of memory**: it refuses nothing that would fit. -/
theorem Memory.load_programStart_iff (m : Memory) :
    (∃ m', m.load programStart.toNat program = .ok m') ↔ program.length ≤ maxProgramSize := by
  have hstart : programStart.toNat = 0x200 := rfl
  have hfits : missing? programStart.toNat program.length = none ↔
      program.length ≤ maxProgramSize := by
    rw [missing?_eq_none_iff, hstart, maxProgramSize]
    omega
  rw [load, checkRange_eq, ← hfits]
  cases missing? programStart.toNat program.length with
  | none => exact iff_of_true ⟨_, rfl⟩ rfl
  | some k =>
    refine iff_of_false ?_ (Option.some_ne_none k)
    rintro ⟨_, e⟩
    cases e

namespace Machine

variable {m m' : Machine}

/-- `m'` is the machine `m` with a program in memory. -/
structure Carries (program : List Byte) (m m' : Machine) : Prop where
  /-- Nothing differs but memory, -/
  frame : m' = { m with memory := m'.memory }
  /-- and that only under the program. -/
  memory : ∀ a, m'.memory.get? a =
    if 0x200 ≤ a ∧ a < 0x200 + program.length then program[a - 0x200]? else m.memory.get? a

theorem Carries.unique {m'' : Machine} (h : Carries program m m') (h' : Carries program m m'') :
    m' = m'' := by
  have hmemory : m'.memory = m''.memory :=
    Memory.ext_get? fun a => (h.memory a).trans (h'.memory a).symm
  rw [h.frame, h'.frame, hmemory]

theorem loadProgram_of_le (m : Machine) (h : program.length ≤ 0xE00) :
    ∃ m', m.loadProgram program = .ok m' ∧ Carries program m m' := by
  have hfits : ¬ maxProgramSize < program.length := Nat.not_lt_of_le h
  obtain ⟨memory, hload⟩ := m.memory.load_programStart_iff.mpr h
  refine ⟨{ m with memory }, ?_, rfl, fun a => ?_⟩
  · rw [loadProgram, if_neg hfits, hload]
  · have hcells : memory = ⟨Memory.overwrite m.memory.cells 0x200 program⟩ := by
      unfold Memory.load at hload
      split at hload
      · exact (Except.ok.inj hload).symm
      · cases hload
    rw [hcells]
    exact Memory.getElem?_overwrite _ _ _ (by rw [memorySize]; omega) a

theorem loadProgram_of_lt (m : Machine) (h : 0xE00 < program.length) :
    m.loadProgram program = .error (.imageTooLarge program.length 0xE00) := by
  have hlarge : maxProgramSize < program.length := h
  rw [loadProgram, if_pos hlarge, maxProgramSize]

/-- **Loading succeeds exactly if the program fits**, and changes memory under the program only. -/
theorem loadProgram_eq_ok_iff :
    m.loadProgram program = .ok m' ↔ program.length ≤ 0xE00 ∧ Carries program m m' := by
  constructor
  · intro h
    by_cases hlen : program.length ≤ 0xE00
    · obtain ⟨m'', e, hcarries⟩ := loadProgram_of_le m hlen
      rw [h] at e
      cases e
      exact ⟨hlen, hcarries⟩
    · rw [loadProgram_of_lt m (Nat.lt_of_not_le hlen)] at h
      cases h
  · rintro ⟨hlen, hcarries⟩
    obtain ⟨m'', e, hcarries'⟩ := loadProgram_of_le m hlen
    rw [e, hcarries.unique hcarries']

/-- **Otherwise the size is the reason**, and never an address. -/
theorem loadProgram_eq_error_iff {c : Cause} :
    m.loadProgram program = .error c ↔
      0xE00 < program.length ∧ c = .imageTooLarge program.length 0xE00 := by
  constructor
  · intro h
    by_cases hlen : program.length ≤ 0xE00
    · obtain ⟨m'', e, -⟩ := loadProgram_of_le m hlen
      rw [h] at e
      cases e
    · have hlt := Nat.lt_of_not_le hlen
      rw [loadProgram_of_lt m hlt] at h
      exact ⟨hlt, (Except.error.inj h).symm⟩
  · rintro ⟨hlen, rfl⟩
    exact loadProgram_of_lt m hlen

/-- **Memory behind a new start**: the font, the program, and zeros around it. -/
theorem toList_withProgram (h : withProgram program = .ok m) :
    m.memory.cells.toList =
      font ++ .replicate (0x200 - 80) 0 ++ program ++ .replicate (0xE00 - program.length) 0 := by
  obtain ⟨hlen, hcarries⟩ := loadProgram_eq_ok_iff.mp h
  have hfont : font.length = 80 := rfl
  refine List.ext_getElem? fun a => ?_
  have hcell : m.memory.cells.toList[a]? = m.memory.get? a := by
    rw [Memory.get?, Vector.getElem?_toList]
  rw [hcell, hcarries.memory, Memory.shows_initial, ByteMap.initial]
  simp only [List.getElem?_append, List.getElem?_replicate, List.length_append,
    List.length_replicate, hfont]
  -- The address is in the font, before the program, in the program, or behind it.
  by_cases hbehind : 0x200 + program.length ≤ a
  · have hout : ¬ (0x200 ≤ a ∧ a < 0x200 + program.length) := by omega
    have hright : ¬ a < 80 + (0x200 - 80) + program.length := by omega
    rw [if_neg hout, if_neg hright, if_neg (by omega)]
    exact if_congr (by omega) rfl rfl
  have hright : a < 80 + (0x200 - 80) + program.length := by omega
  rw [if_pos hright]
  by_cases hin : 0x200 ≤ a
  · have hright : ¬ a < 80 + (0x200 - 80) := by omega
    rw [if_pos ⟨hin, by omega⟩, if_neg hright]
  · have hright : a < 80 + (0x200 - 80) := by omega
    have hout : ¬ (0x200 ≤ a ∧ a < 0x200 + program.length) := by omega
    rw [if_neg hout, if_pos hright]
    refine if_congr Iff.rfl rfl ?_
    rw [if_pos (by omega), if_pos (by omega)]

end Machine

/-! ## 2. Consoles -/

namespace Console

theorem carries_loadProgram (c : Console) (h : program.length ≤ 0xE00) :
    (c.loadProgram program).2 = .done ∧
    c.machine.Carries program (c.loadProgram program).1.machine ∧
    (c.loadProgram program).1 = { c with machine := (c.loadProgram program).1.machine }.report
      [.programLoaded program.length] := by
  obtain ⟨m', e, hcarries⟩ := Machine.loadProgram_of_le c.machine h
  have hload : c.loadProgram program =
      ({ c with machine := m' }.report [.programLoaded program.length], .done) := by
    rw [loadProgram, e]
  rw [hload]
  exact ⟨rfl, hcarries, rfl⟩

theorem loadProgram_of_too_large (c : Console) (h : 0xE00 < program.length) :
    c.loadProgram program = (c, .refused (.imageTooLarge program.length 0xE00)) := by
  rw [loadProgram, Machine.loadProgram_of_lt c.machine h]

/-- A content that passes the check of the file is accepted by the machine. -/
theorem withProgram_of_checkImage {path : String} {image : List Byte}
    (h : checkImage path (.ok program) = .ok image) :
    image = program ∧ ∃ m, Machine.withProgram image = .ok m := by
  unfold checkImage at h
  split at h
  · cases h
  next content e =>
    cases e
    split at h
    · cases h
    next hlen =>
      cases h
      obtain ⟨m, e, -⟩ := Machine.loadProgram_of_le {} (Nat.le_of_not_lt hlen)
      exact ⟨rfl, m, e⟩

variable (path : String) (config : Config) (trace : Bool)

/-- A content that the machine accepts is set up, with the settings. -/
theorem ofImage_of_withProgram {m : Machine} (h : Machine.withProgram program = .ok m) :
    ∃ k, ofImage path (.ok program) config trace = .ok k ∧
      k.machine = { m with display := .fading config.fade, policy := config.policy } ∧
      k.observer = (if trace then .tracer else .absent) ∧ k.pace = config.pace := by
  obtain ⟨hlen, -⟩ := Machine.loadProgram_eq_ok_iff.mp h
  have hfits : ¬ maxProgramSize < program.length := Nat.not_lt_of_le hlen
  have hcheck : checkImage path (.ok program) = .ok program := by rw [checkImage, if_neg hfits]
  have hnew : withProgram program config.pace =
      .ok { machine := m, pace := config.pace, journal := #[.programLoaded program.length] } := by
    rw [withProgram, h]
  simp only [ofImage, hcheck, hnew]
  exact ⟨_, rfl, rfl, rfl, rfl⟩

/-- **A file is refused exactly if the machine refuses its content**, and for the same reason. The
    refusal comes from the check of the file. -/
theorem ofImage_eq_error_iff {e : LoadError} :
    ofImage path (.ok program) config trace = .error e ↔
      ∃ c, Machine.withProgram program = .error c ∧ e = .rejected c := by
  cases h : Machine.withProgram program with
  | ok m =>
    obtain ⟨k, hk, -⟩ := ofImage_of_withProgram path config trace h
    rw [hk]
    refine iff_of_false ?_ ?_
    · intro hrefused
      cases hrefused
    · rintro ⟨_, hc, -⟩
      cases hc
  | error c =>
    obtain ⟨hlen, rfl⟩ := Machine.loadProgram_eq_error_iff.mp h
    have hcheck : checkImage path (.ok program) =
        .error (.rejected (.imageTooLarge program.length 0xE00)) := by
      have hlarge : maxProgramSize < program.length := hlen
      rw [checkImage, if_pos hlarge, maxProgramSize]
    rw [ofImage, hcheck]
    constructor
    · intro hrefused
      exact ⟨_, rfl, (Except.error.inj hrefused).symm⟩
    · rintro ⟨c, hc, rfl⟩
      cases hc
      rfl

/-- **Loading a program is all or nothing, and the loaders agree.** A machine, used or new, accepts a
    program exactly if it is not longer than 3584 bytes. It has then the bytes of the program from
    512 on, and is otherwise as it was. A longer one is refused for its size and nothing happens.
    A file is refused exactly if its content is, and for the same reason, before the machine sees
    it. It is set up as a new machine with its content, but for the display, the policy and the
    observer. Memory holds then the font, the content, and zeros around it. -/
theorem loaders_agree (program : List Byte) :
    (∀ m m' : Machine, m.loadProgram program = .ok m' ↔
      program.length ≤ 0xE00 ∧ m.Carries program m') ∧
    (∀ (m : Machine) (c : Cause), m.loadProgram program = .error c ↔
      0xE00 < program.length ∧ c = .imageTooLarge program.length 0xE00) ∧
    (∀ c : Console,
      (program.length ≤ 0xE00 →
        let loaded := c.loadProgram program
        loaded.2 = .done ∧ c.machine.Carries program loaded.1.machine ∧
        loaded.1 = { c with machine := loaded.1.machine }.report
          [.programLoaded program.length]) ∧
      (0xE00 < program.length →
        c.loadProgram program = (c, .refused (.imageTooLarge program.length 0xE00)))) ∧
    ∀ (path : String) (config : Config) (trace : Bool),
      (∀ e, ofImage path (.ok program) config trace = .error e ↔
        ∃ c, Machine.withProgram program = .error c ∧ e = .rejected c) ∧
      (∀ image, checkImage path (.ok program) = .ok image →
        image = program ∧ ∃ m, Machine.withProgram image = .ok m) ∧
      ∀ m, Machine.withProgram program = .ok m →
        (∃ k, ofImage path (.ok program) config trace = .ok k ∧
          k.machine = { m with display := .fading config.fade, policy := config.policy } ∧
          k.observer = (if trace then .tracer else .absent) ∧ k.pace = config.pace) ∧
        m.memory.cells.toList =
          font ++ .replicate (0x200 - 80) 0 ++ program ++ .replicate (0xE00 - program.length) 0 := by
  refine ⟨fun _ _ => Machine.loadProgram_eq_ok_iff, fun _ _ => Machine.loadProgram_eq_error_iff,
    fun c => ⟨c.carries_loadProgram, c.loadProgram_of_too_large⟩, fun path config trace => ?_⟩
  refine ⟨fun _ => ofImage_eq_error_iff path config trace, fun _ => withProgram_of_checkImage,
    fun m h => ?_⟩
  exact ⟨ofImage_of_withProgram path config trace h, Machine.toList_withProgram h⟩

/-- The longest program that fits. -/
def longest : List Byte := .replicate 0xE00 0xAB

/-- The same with one more byte in front of it. -/
def tooLong : List Byte := 0 :: longest

/-- The longest program is accepted up to the last cell. A short one behind it changes its own cell,
    and the rest of the long one stays. One byte more is refused, from a file too. -/
theorem loaders_agree_longest :
    let long := ({} : Console).loadProgram longest
    let short := long.1.loadProgram [0x12]
    long.2 = .done ∧ short.2 = .done ∧
    short.1.machine.memory.get? 0x200 = some 0x12 ∧
    (∀ a, 0x200 < a → a < 0x1000 → short.1.machine.memory.get? a = some 0xAB) ∧
    short.1.loadProgram tooLong = (short.1, .refused (.imageTooLarge 0xE01 0xE00)) ∧
    ofImage "rom" (.ok tooLong) {} true = .error (.rejected (.imageTooLarge 0xE01 0xE00)) ∧
    ∃ k, ofImage "rom" (.ok longest) {} true = .ok k ∧ k.observer = .tracer := by
  have hlong : longest.length = 0xE00 := List.length_replicate
  have htooLong : tooLong.length = 0xE01 := by rw [tooLong, List.length_cons, hlong]
  obtain ⟨-, -, hload, hfile⟩ := loaders_agree longest
  obtain ⟨-, -, hshort, -⟩ := loaders_agree [0x12]
  obtain ⟨-, herror, hrefused, hbigFile⟩ := loaders_agree tooLong
  intro long short
  obtain ⟨hdone, hm, -⟩ := (hload {}).1 (Nat.le_of_eq hlong)
  obtain ⟨hdone', hm', -⟩ := (hshort long.1).1 (by decide)
  have hrest : ∀ a, 0x200 < a → a < 0x1000 → long.1.machine.memory.get? a = some 0xAB := by
    intro a ha ha'
    rw [hm.memory, if_pos (by omega), longest, List.getElem?_replicate, if_pos (by omega)]
  have hlarge := (hrefused short.1).2 (by omega)
  rw [htooLong] at hlarge
  have hnew := (herror {} _).mpr ⟨by omega, rfl⟩
  rw [htooLong] at hnew
  obtain ⟨-, hcheck, hset⟩ := hfile "rom" {} true
  have hpasses : checkImage "rom" (.ok longest) = .ok longest := by
    rw [checkImage, hlong, maxProgramSize, if_neg (by omega)]
  obtain ⟨-, m₀, hm₀⟩ := hcheck longest hpasses
  obtain ⟨⟨k, hk, -, hobserver, -⟩, -⟩ := hset m₀ hm₀
  refine ⟨hdone, hdone', ?_, fun a ha ha' => ?_, hlarge,
    ((hbigFile "rom" {} true).1 _).mpr ⟨_, hnew, rfl⟩, k, hk, hobserver⟩
  · rw [hm'.memory]
    rfl
  · have hbehind : ¬ (0x200 ≤ a ∧ a < 0x200 + [(0x12 : Byte)].length) := by
      rw [List.length_singleton]
      omega
    rw [hm'.memory, if_neg hbehind, hrest a ha ha']

end Console

end Chip8
