/-
  File:      Chip8/Proofs/Bindings.lean
  Subject:   Which bindings of a keymap a typed character finds.

  A typed character is looked up in lower case, a bound one is taken as it is:

  * `Keymap.Distinct`: no two bindings have characters that differ in case only;
  * `Keymap.keyFor_eq_some_iff`: what is then found, in whatever order the bindings are searched;
  * `Keymap.Complete`: every binding is found from its character in both cases, and nothing else;
  * `Keymap.complete_iff`: that is so exactly if no upper case character is bound;
  * `Keymap.complete_presets`: it is so for the named settings;
  * `Keymap.keyFor_cases`: which bindings are lost otherwise.
-/
import Mathlib
import Chip8.Preset

namespace Chip8

namespace Keymap

variable {m m' : Keymap}

/-! ## 1. The search -/

/-- No two bindings have characters that differ in case only. -/
def Distinct (m : Keymap) : Prop := (m.bindings.map (·.2.toLower)).Nodup

instance (m : Keymap) : Decidable m.Distinct := inferInstanceAs (Decidable (List.Nodup _))

theorem mem_of_keyFor {ch : Char} {key : Byte} (h : m.keyFor ch = some key) :
    (key, ch.toLower) ∈ m.bindings := by
  obtain ⟨b, hfind, rfl⟩ := Option.map_eq_some_iff.mp h
  have hbound := List.find?_some hfind
  rw [← beq_iff_eq.mp hbound]
  exact List.mem_of_find?_eq_some hfind

theorem keyFor_eq_none_iff {ch : Char} :
    m.keyFor ch = none ↔ ∀ b ∈ m.bindings, b.2 ≠ ch.toLower := by
  rw [keyFor, Option.map_eq_none_iff, List.find?_eq_none]
  exact forall₂_congr fun b _ => not_congr beq_iff_eq

/-- **A key is found exactly from the lower case form of a character**, whichever binding comes
    first. -/
theorem keyFor_eq_some_iff (h : m.Distinct) {ch : Char} {key : Byte} :
    m.keyFor ch = some key ↔ (key, ch.toLower) ∈ m.bindings := by
  refine ⟨mem_of_keyFor, fun hmem => ?_⟩
  cases hfound : m.keyFor ch with
  | none => exact absurd rfl (keyFor_eq_none_iff.mp hfound _ hmem)
  | some key' =>
    have hsame := List.inj_on_of_nodup_map h (mem_of_keyFor hfound) hmem rfl
    rw [(Prod.mk.inj hsame).1]

/-- The order in which the bindings are searched does not matter. -/
theorem keyFor_perm (h : m.Distinct) (hperm : m'.bindings.Perm m.bindings) (ch : Char) :
    m'.keyFor ch = m.keyFor ch := by
  have h' : m'.Distinct := (hperm.map _).nodup_iff.mpr h
  refine Option.ext fun key => ?_
  rw [keyFor_eq_some_iff h', keyFor_eq_some_iff h]
  exact hperm.mem_iff

/-! ## 2. What is found -/

/-- Every binding is found from its character in both cases, and nothing else is found. -/
structure Complete (m : Keymap) : Prop where
  bound : ∀ b ∈ m.bindings, ∀ ch : Char, ch.toLower = b.2.toLower → m.keyFor ch = some b.1
  unbound : ∀ ch : Char, (∀ b ∈ m.bindings, ch.toLower ≠ b.2.toLower) → m.keyFor ch = none

theorem keyFor_of_bound (h : m.Distinct) {b : Byte × Char} (hb : b ∈ m.bindings)
    (hlower : b.2.isUpper = false) {ch : Char} (hch : ch.toLower = b.2.toLower) :
    m.keyFor ch = some b.1 := by
  rw [keyFor_eq_some_iff h, hch, Char.toLower_eq_of_not_isUpper (ne_true_of_eq_false hlower)]
  exact hb

/-- A binding to an upper case character is lost: nothing is found, in neither case. -/
theorem keyFor_of_upper (h : m.Distinct) {b : Byte × Char} (hb : b ∈ m.bindings)
    (hupper : b.2.isUpper = true) {ch : Char} (hch : ch.toLower = b.2.toLower) :
    m.keyFor ch = none := by
  rw [keyFor_eq_none_iff]
  intro b' hb' e
  -- Another binding to the lower case form would be one that differs in case only.
  have hlower : b'.2.toLower = b.2.toLower := by rw [e, Char.toLower_toLower_eq_toLower, hch]
  rw [← List.inj_on_of_nodup_map h hb' hb hlower, e, Char.isUpper_toLower_eq_false] at hupper
  cases hupper

theorem keyFor_of_unbound {ch : Char} (h : ∀ b ∈ m.bindings, ch.toLower ≠ b.2.toLower) :
    m.keyFor ch = none := by
  rw [keyFor_eq_none_iff]
  intro b hb e
  refine h b hb ?_
  rw [e, Char.toLower_toLower_eq_toLower]

/-- **The keymap is complete exactly if it binds no upper case character.** -/
theorem complete_iff (h : m.Distinct) :
    m.Complete ↔ ∀ b ∈ m.bindings, b.2.isUpper = false := by
  constructor
  · intro hcomplete b hb
    refine Bool.eq_false_iff.mpr fun hupper => ?_
    have hfound := hcomplete.bound b hb b.2 rfl
    rw [keyFor_of_upper h hb hupper rfl] at hfound
    cases hfound
  · exact fun hlower => ⟨fun b hb _ => keyFor_of_bound h hb (hlower b hb), fun _ =>
      keyFor_of_unbound⟩

/-- All named settings bind lower case characters only. -/
theorem complete_presets : ∀ p ∈ presets, p.2.keymap.Complete := by
  have hpresets : ∀ p ∈ presets, p.2.keymap.Distinct ∧
      ∀ b ∈ p.2.keymap.bindings, b.2.isUpper = false := by decide +kernel
  exact fun p hp => (complete_iff (hpresets p hp).1).mpr (hpresets p hp).2

/-- **Which bindings a keymap finds**, if no two have characters that differ in case only. A binding
    to an upper case character is never found. If there is none of these, every binding is found
    from its character in both cases. From no other character anything is found, and the order in
    which the bindings are searched does not matter. -/
theorem keyFor_cases (m : Keymap) (h : m.Distinct) :
    (m.Complete ↔ ∀ b ∈ m.bindings, b.2.isUpper = false) ∧
    (∀ b ∈ m.bindings, ∀ ch : Char, ch.toLower = b.2.toLower →
      m.keyFor ch = if b.2.isUpper then none else some b.1) ∧
    (∀ ch : Char, (∀ b ∈ m.bindings, ch.toLower ≠ b.2.toLower) → m.keyFor ch = none) ∧
    ∀ m' : Keymap, m'.bindings.Perm m.bindings → ∀ ch, m'.keyFor ch = m.keyFor ch := by
  refine ⟨complete_iff h, fun b hb ch hch => ?_, fun _ => keyFor_of_unbound, fun _ =>
    keyFor_perm h⟩
  cases hcase : b.2.isUpper with
  | false => exact keyFor_of_bound h hb hcase hch
  | true => exact keyFor_of_upper h hb hcase hch

/-- One upper case character is bound and one lower case one. -/
def mixed : Keymap := ofList [(5, 'W'), (6, 's')]

/-- The upper case binding is lost, the other is found. -/
theorem keyFor_cases_mixed :
    mixed.Distinct ∧ mixed.keyFor 'W' = none ∧ mixed.keyFor 'w' = none ∧
    mixed.keyFor 'S' = some 6 ∧ mixed.keyFor 'x' = none ∧
    (Keymap.mk [(6, 's'), (5, 'W')]).keyFor 'S' = mixed.keyFor 'S' := by
  have hdistinct : mixed.Distinct := by decide
  obtain ⟨-, hbound, hunbound, hperm⟩ := keyFor_cases mixed hdistinct
  refine ⟨hdistinct, ?_, ?_, ?_, ?_, ?_⟩
  · exact hbound (5, 'W') (by decide) 'W' rfl
  · exact hbound (5, 'W') (by decide) 'w' (by decide)
  · exact hbound (6, 's') (by decide) 'S' (by decide)
  · exact hunbound 'x' (by decide)
  · exact hperm _ (.swap ..) 'S'

/-- **A keymap without two characters that differ in case only need not be complete.** A key that is
    bound to `W` is found from neither form of it. -/
theorem not_complete_upper :
    (ofList [(5, 'W')]).Distinct ∧ (5, 'W') ∈ (ofList [(5, 'W')]).bindings ∧
    (ofList [(5, 'W')]).keyFor 'w' = none ∧ (ofList [(5, 'W')]).keyFor 'W' = none ∧
    ¬ ∀ m : Keymap, m.Distinct → m.Complete := by
  refine ⟨by decide, by decide, by decide, by decide, fun hall => ?_⟩
  have hcomplete := hall (ofList [(5, 'W')]) (by decide)
  have hfound := hcomplete.bound (5, 'W') (by decide) 'W' rfl
  revert hfound
  decide

end Keymap

end Chip8
