/-
  File:      Chip8/Proofs/Calls.lean
  Subject:   Calls and returns match over whole runs.

  * `calls_step`: a step leaves the call stack, or it is a call that adds its own address, or a
    return that takes one off and goes on behind it;
  * `Console.Within`: a run during which the calls of a beginning and one more stay open;
  * `calls_run`: all the while the beginning and the address on top of it stay as they are;
  * `returns_behind_call`: the step that ends it is a return, and it goes on behind the call.
-/
import Chip8.Proofs.Spelling
import Chip8.Proofs.Stimuli

namespace Chip8

namespace Machine

open Table Instruction

/-! ## 1. One step -/

/-- The calls that have not returned, oldest first. -/
abbrev calls (m : Machine) : List Word := m.registers.stack.entries

/-- The calls do not show what an instruction writes elsewhere. -/
theorem calls_ignores {p : Part} (h : p ≠ .stack) : p.Ignored calls := by
  cases p with
  | stack => exact absurd rfl h
  | waiting => exact fun _ _ _ => rfl
  | _ => exact fun _ _ => rfl

/-- Only calls and returns write the call stack. -/
theorem stack_mem_writes {ins : Instruction} (h : Part.stack ∈ ins.writes) :
    ins = .returnSubroutine ∨ ∃ a, ins = .callSubroutine a := by
  cases ins with
  | returnSubroutine => exact .inl rfl
  | callSubroutine a => exact .inr ⟨a, rfl⟩
  | _ => simp [writes] at h

/-- A call adds its own address and goes on at its target. -/
theorem step_of_call {m : Machine} {nnn : Nat} (hn : nnn < 4096) (h : m.Executes (0x2000 + nnn))
    (room : m.calls.length < 16) :
    m.step.2.result = .ok .running ∧ m.step.1.calls = m.calls ++ [m.registers.pc] ∧
      m.step.1.registers.pc.toNat = nnn := by
  obtain ⟨hs, hpc, hw⟩ := h
  have hk : (0x2000 + nnn) / 4096 = 0x2 := by omega
  have ha : (0x2000 + nnn) % 4096 = nnn := by omega
  have hc : next m (word m) = called m nnn := by
    rw [hw]
    simp only [next, hk, ha]
  rw [called, dif_pos room] at hc
  obtain ⟨e, hr⟩ := step_of_next hs hpc hc
  rw [e, hr]
  refine ⟨congrArg Except.ok hs, rfl, ?_⟩
  show (UInt16.ofNat nnn).toNat = nnn
  exact UInt16.toNat_ofNat_of_lt' (by rw [UInt16.size]; omega)

/-- A return takes the latest call off and goes on behind it. -/
theorem calls_of_returned {m m' : Machine} (hn : returned m = .ok m') :
    ∃ a, m.calls = m'.calls ++ [a] ∧ m'.registers.pc = a.next := by
  unfold returned at hn
  split at hn
  · cases hn
  next a ha =>
    obtain rfl := Except.ok.inj hn
    obtain ⟨l, e⟩ := List.getLast?_eq_some_iff.mp ha
    refine ⟨a, ?_, (next_eq a).symm⟩
    show m.calls = m.calls.dropLast ++ [a]
    simp only [calls, e, List.dropLast_concat]

/-- What a step does to the calls. -/
inductive CallStep (m : Machine) : Prop
  /-- It leaves them, -/
  | same (h : m.step.1.calls = m.calls)
  /-- it calls from where it stands, -/
  | call {nnn : Nat} (word : m.Executes (0x2000 + nnn)) (h : m.step.1.calls = m.calls ++ [m.registers.pc])
  /-- or it returns from the latest call. -/
  | ret {a : Word} (word : m.Executes 0x00EE) (h : m.calls = m.step.1.calls ++ [a])
      (pc : m.step.1.registers.pc = a.next)

theorem calls_step_of_running {m : Machine} (hs : m.status = .running)
    (hpc : m.registers.pc.toNat ≤ 0xFFE) : m.CallStep := by
  have hx : m.Executes (word m) := ⟨hs, hpc, rfl⟩
  have hd := (spelled_of_executes hx).2
  rcases step_of_running m hs hpc with ⟨m', hn, he, hm⟩ | ⟨c, m', -, he, hm⟩
  · by_cases hw : Part.stack ∈ (decode (.ofNat (word m))).writes
    · rcases stack_mem_writes hw with e | ⟨a, e⟩
      · rw [e] at hd
        have hword : word m = 0x00EE := hd
        rw [hword] at hn hx
        obtain ⟨a, ha, hp⟩ := calls_of_returned hn
        exact .ret hx (by rw [hm]; exact ha) (by rw [hm]; exact hp)
      · rw [e] at hd
        obtain ⟨ha, hword⟩ := hd
        rw [hword] at hx hn
        have hk : (0x2000 + a.toNat) / 4096 = 0x2 := by omega
        simp only [next, hk] at hn
        unfold called at hn
        split at hn
        next room => exact .call hx (step_of_call ha hx room).2.1
        next => cases hn
    · have hk := keeps_effect (f := calls) m.registers.pc (decode (.ofNat (word m)))
        (fun p hp => calls_ignores fun e => hw (e ▸ hp)) m.advance
      rw [he] at hk
      exact .same (by rw [hm]; exact hk)
  · -- Whatever else a refused instruction did, it moved neither the counter nor the stack.
    have hp := keepsRefused_effect m.registers.pc _ _ _ _ he
    have hst : m'.registers.stack = m.registers.stack := (Prod.mk.inj hp).2
    refine .same ?_
    rw [hm]
    exact congrArg CallStack.entries hst

/-- **A step leaves the calls, or it is a call, or a return from the latest call.** -/
theorem calls_step (m : Machine) : m.CallStep := by
  cases hs : m.status with
  | halted => exact .same (by rw [step, hs])
  | waitingForKey r =>
    refine .same ?_
    rw [step, hs]
    show (m.poll r).1.calls = _
    obtain ⟨baseline, ⟨-, e⟩ | ⟨key, -, _, e⟩ | ⟨-, f, e⟩⟩ := m.poll_cases r
    · rw [e]
    · rw [e]
    · rw [e]
  | running =>
    by_cases hpc : m.registers.pc.toNat ≤ 0xFFE
    · exact calls_step_of_running hs hpc
    · refine .same ?_
      rw [step_of_out m hs (by omega)]
      rfl

end Machine

namespace Console

open Machine

/-! ## 2. Runs -/

variable {S : List Word} {p : Word}

/-- All through a run more calls are open than those of `S`. -/
def Within (S : List Word) (c : Console) (ss : List Stimulus) : Prop :=
  ∀ pre, pre <+: ss → S.length < (c.run pre).machine.calls.length

theorem Within.head {c : Console} {s : Stimulus} {ss : List Stimulus} (h : Within S c (s :: ss)) :
    S.length < (c.after s).machine.calls.length :=
  h [s] ⟨ss, rfl⟩

theorem Within.tail {c : Console} {s : Stimulus} {ss : List Stimulus} (h : Within S c (s :: ss)) :
    Within S (c.after s) ss := by
  intro pre hpre
  exact h (s :: pre) (List.cons_prefix_cons.mpr ⟨rfl, hpre⟩)

/-- One stimulus keeps what lies below an open call, or it is the return from it. -/
theorem calls_after {c : Console} (h : S ++ [p] <+: c.machine.calls) (s : Stimulus) :
    S ++ [p] <+: (c.after s).machine.calls ∨
      s = .step ∧ c.machine.Executes 0x00EE ∧ (c.after s).machine.calls = S ∧
        (c.after s).machine.registers.pc = p.next := by
  by_cases hs : s = .step
  · subst hs
    rw [machine_after_step]
    rcases c.machine.calls_step with e | ⟨-, e⟩ | ⟨hx, e, hpc⟩
    · rw [e]
      exact .inl h
    · rw [e]
      exact .inl (h.trans (List.prefix_append _ _))
    · rw [e] at h
      rcases List.prefix_concat_iff.mp h with heq | hpre
      · obtain ⟨h1, h2⟩ := List.append_inj' heq rfl
        obtain rfl := (List.cons.inj h2).1
        exact .inr ⟨rfl, hx, h1.symm, hpc⟩
      · exact .inl hpre
  · obtain ⟨keypad, timers, e⟩ := c.after_of_ne_step hs
    rw [e]
    exact .inl h

/-- **What lies below an open call stays as it is**, whatever is called and returned above it. -/
theorem calls_run {c : Console} (h : S ++ [p] <+: c.machine.calls) {ss : List Stimulus}
    (hw : Within S c ss) : S ++ [p] <+: (c.run ss).machine.calls := by
  induction ss generalizing c with
  | nil => exact h
  | cons s ss ih =>
    rcases calls_after h s with hs | ⟨-, -, hs, -⟩
    · exact ih hs hw.tail
    · have hlen := hw.head
      rw [hs] at hlen
      exact absurd hlen (Nat.lt_irrefl _)

/-- **A call and its return match, whatever happens in between.** The machine is about to execute
    a call at `p` while the calls of `S` are open, and there is room for one more. The call
    succeeds. As long as more calls are open than those of `S`, the oldest are those of `S` and
    then `p`. The step after which this is over is a return, which leaves exactly the calls of `S`
    and goes on behind the call. -/
theorem returns_behind_call (c : Console) {nnn : Nat} (hn : nnn < 4096)
    (hc : c.machine.Executes (0x2000 + nnn)) (room : c.machine.calls.length < 16) :
    let S := c.machine.calls
    let p := c.machine.registers.pc
    let d := c.after .step
    c.machine.step.2.result = .ok .running ∧ d.machine.calls = S ++ [p] ∧
      d.machine.registers.pc.toNat = nnn ∧
      ∀ ss, Within S d ss →
        (d.run ss).machine.calls.take (S.length + 1) = S ++ [p] ∧
        ∀ s, ¬ S.length < (d.run (ss ++ [s])).machine.calls.length →
          s = .step ∧ (d.run ss).machine.Executes 0x00EE ∧
          (d.run (ss ++ [s])).machine.calls = S ∧
          (d.run (ss ++ [s])).machine.registers.pc.toNat = p.toNat + 2 := by
  intro S p d
  obtain ⟨hr, hd, hpc⟩ := step_of_call hn hc room
  rw [← machine_after_step] at hd hpc
  refine ⟨hr, hd, hpc, fun ss hw => ?_⟩
  have hopen : S ++ [p] <+: (d.run ss).machine.calls := calls_run (hd ▸ List.prefix_refl _) hw
  have hlen : (S ++ [p]).length = S.length + 1 := List.length_append
  refine ⟨?_, fun s hs => ?_⟩
  · rw [← hlen]
    exact (List.prefix_iff_eq_take.mp hopen).symm
  · rw [run_concat] at hs ⊢
    rcases calls_after hopen s with h | ⟨e, hx, h, hp⟩
    · have hle := h.length_le
      exact absurd (by omega) hs
    · refine ⟨e, hx, h, ?_⟩
      have hfetched : p.toNat ≤ 0xFFE := hc.fetched
      rw [hp, Word.toNat_next]
      omega

end Console

namespace Machine

open Table

/-- A machine in front of a call, at 0x200, of the return right behind it. A call from 0x300 is
    open. -/
def calling : Machine where
  registers := { stack := { entries := [0x300] } }
  memory := holding [0x22, 0x02, 0x00, 0xEE]

/-- The machine once it has called, and a tick later. -/
def inCall : Machine where
  registers := { pc := 0x202, stack := { entries := [0x300, 0x200] } }
  memory := holding [0x22, 0x02, 0x00, 0xEE]

theorem executes_calling : calling.Executes (0x2000 + 0x202) :=
  executes_of_holding [0x22, 0x02, 0x00, 0xEE] 0 (by rw [calling]) (by decide) rfl rfl (by decide)

theorem executes_inCall : inCall.Executes 0x00EE :=
  executes_of_holding [0x22, 0x02, 0x00, 0xEE] 2 (by rw [inCall]) (by decide) rfl rfl (by decide)

theorem step_calling : calling.step.1 = inCall := by
  have hx := executes_calling
  have hn : next calling (Table.word calling) = .ok inCall := by
    rw [hx.word]
    rfl
  exact (step_of_next hx.running hx.fetched hn).1

theorem calls_step_inCall : inCall.step.1.calls = [0x300] := by
  have hx := executes_inCall
  have hn : next inCall (Table.word inCall) = .ok { inCall with registers :=
      { inCall.registers with pc := 0x202, stack := { entries := [0x300] } } } := by
    rw [hx.word]
    rfl
  rw [(step_of_next hx.running hx.fetched hn).1]

end Machine

namespace Console

open Machine

/-- A console in front of the call. -/
def caller : Console where
  machine := calling

theorem machine_after_caller : (caller.after .step).machine = inCall := by
  rw [machine_after_step]
  exact step_calling

theorem machine_run_caller : ((caller.after .step).run [.tick]).machine = inCall := by
  show (caller.after .step).machine.tick = inCall
  rw [machine_after_caller]
  rfl

theorem within_caller : Within [0x300] (caller.after .step) [.tick] := by
  intro pre hpre
  cases pre with
  | nil =>
    rw [run, machine_after_caller]
    decide
  | cons s t =>
    obtain ⟨rfl, ht⟩ := List.cons_prefix_cons.mp hpre
    obtain rfl := List.prefix_nil.mp ht
    rw [machine_run_caller]
    decide

/-- After a tick the call returns, and only the one from 0x300 is still open. -/
theorem returns_of_caller : calling.Executes (0x2000 + 0x202) ∧ calling.calls.length < 16 ∧
    Within [0x300] (caller.after .step) [.tick] ∧
    ((caller.after .step).run [.tick]).machine.calls.take 2 = [0x300, 0x200] ∧
    ((caller.after .step).run ([.tick] ++ [.step])).machine.calls = [0x300] ∧
    ((caller.after .step).run ([.tick] ++ [.step])).machine.registers.pc.toNat = 0x202 := by
  have hn : 0x202 < 4096 := by decide
  have room : calling.calls.length < 16 := by decide
  obtain ⟨-, -, -, hrun⟩ := returns_behind_call caller hn executes_calling room
  obtain ⟨htake, hlast⟩ := hrun [.tick] within_caller
  have hend : ¬ 1 < ((caller.after .step).run ([.tick] ++ [.step])).machine.calls.length := by
    rw [run_concat, machine_after_step, machine_run_caller, calls_step_inCall]
    decide
  obtain ⟨-, -, hs, hp⟩ := hlast .step hend
  exact ⟨executes_calling, room, within_caller, htake, hs, hp⟩

end Console

end Chip8
