import Chip8.Device.FrameRecorder
import Chip8.Device.KeyScript
import Chip8.Device.NumberSources
import Chip8.Device.SilentBeeper
import Chip8.Proofs.Forms
import Chip8.Proofs.Turn
import Chip8.Proofs.Words

/-! When a word is not executed. A word without a form of the table is refused before any device is called. Of the
    other words a return fails on the empty stack, a call on the full one, and the two requests as the host fails
    to answer them; all else goes through. -/

namespace Chip8

/-! ### Instructions that fail -/

/-- A guarded result fails where the guard does not hold. -/
theorem ite_eq_error_iff {α ε : Type} {p : Prop} [Decidable p] {x : α} {e e' : ε} :
    (if p then .ok x else .error e : Except ε α) = .error e' ↔ ¬ p ∧ e' = e := by
  by_cases hp : p
  · simp [hp]
  · simp [hp, eq_comm]

namespace CallStack
variable {s : CallStack} {fault : Fault}

theorem push_eq_error_iff {address : UInt16} :
    s.push address = .error fault ↔ 16 ≤ s.pointer ∧ fault = .stackOverflow 16 := by
  unfold push
  rw [ite_eq_error_iff, Int.not_lt]
  rfl

theorem pop_eq_error_iff : s.pop = .error fault ↔ s.pointer ≤ 0 ∧ fault = .stackUnderflow := by
  unfold pop
  rw [ite_eq_error_iff, Int.not_lt]

end CallStack

namespace Instruction
variable {ins : Instruction} {answer : Int} {m : Machine} {fault : Fault}

theorem form_eq_ret_iff : ins.form = .ret ↔ ins = .ret := by
  cases ins with
  | skip condition => cases condition <;> simp [form, Form.ret]
  | _ => simp [form, Form.ret, Form.call, Form.random, Form.waitKey]

theorem form_eq_call_iff : ins.form = .call ↔ ∃ nnn, ins = .call nnn := by
  cases ins with
  | skip condition => cases condition <;> simp [form, Form.call]
  | _ => simp [form, Form.ret, Form.call, Form.random, Form.waitKey]

theorem perform_ret_eq_error_iff :
    ret.perform answer m = .error fault ↔ m.stack.pointer ≤ 0 ∧ fault = .stackUnderflow := by
  rw [← CallStack.pop_eq_error_iff]
  unfold perform
  cases m.stack.pop <;> simp [bind, Except.bind, pure, Except.pure]

theorem perform_call_eq_error_iff {nnn : Address} :
    (call nnn).perform answer m = .error fault ↔ 16 ≤ m.stack.pointer ∧ fault = .stackOverflow 16 := by
  rw [← @CallStack.push_eq_error_iff _ _ m.pc]
  unfold perform
  cases m.stack.push m.pc <;> simp [bind, Except.bind, pure, Except.pure]

theorem perform_ne_error (hret : ins.form ≠ .ret) (hcall : ins.form ≠ .call) : ins.perform answer m ≠ .error fault := by
  cases ins with
  | ret => exact absurd rfl hret
  | call nnn => exact absurd rfl hcall
  | _ => exact fun h => nomatch h

/-- Once its request is answered, an instruction fails only for want of a place on the stack. -/
theorem perform_eq_error_iff : ins.perform answer m = .error fault ↔
    (ins.form = .ret ∧ m.stack.pointer ≤ 0 ∧ fault = .stackUnderflow) ∨
      (ins.form = .call ∧ 16 ≤ m.stack.pointer ∧ fault = .stackOverflow 16) := by
  have hne : Form.ret ≠ .call := by decide
  by_cases hret : ins.form = .ret
  · obtain rfl := form_eq_ret_iff.mp hret
    simp [perform_ret_eq_error_iff, hret, hne]
  by_cases hcall : ins.form = .call
  · obtain ⟨nnn, rfl⟩ := form_eq_call_iff.mp hcall
    simp [perform_call_eq_error_iff, hcall, hne.symm]
  · simp [perform_ne_error hret hcall, hret, hcall]

end Instruction

/-! ### Words that are refused -/

namespace Attempt
variable {D α β : Type}

theorem error_ofExcept_iff {r : Except Fault α} {d : D} {e : Failure} :
    ((ofExcept r : Attempt D α).run d).1 = .error e ↔ ∃ fault, r = .error fault ∧ e = .fault fault := by
  rw [run_ofExcept]
  cases r with
  | error fault =>
    constructor
    · intro h
      exact ⟨fault, rfl, (Except.error.inj h).symm⟩
    · rintro ⟨fault', hr, rfl⟩
      cases hr
      rfl
  | ok x =>
    constructor
    · intro h
      cases h
    · rintro ⟨fault, hr, -⟩
      cases hr

end Attempt

namespace Machine
section Outcomes
variable {H : Type} [Host H] {m : Machine} {w : Word} {h : H} {e : Failure} {ins : Instruction}

/-- A word that stands for an instruction is refused if the host does not answer its request or the stack has no
    place for it. -/
theorem error_execute_of_eq_some (hw : Instruction.ofWord? w = some ins) :
    ((m.execute w).run h).1 = .error e ↔ ((Host.answer ins.request?).run h).1 = .error e ∨
      (ins.form = .ret ∧ m.stack.pointer ≤ 0 ∧ e = .fault .stackUnderflow) ∨
        (ins.form = .call ∧ 16 ≤ m.stack.pointer ∧ e = .fault (.stackOverflow 16)) := by
  rw [execute_of_eq_some hw]
  rcases ha : (Host.answer ins.request?).run h with ⟨e' | answer, h'⟩
  · -- the host was asked, so the instruction is none of those that use the stack
    have hother : ins.form ≠ .ret ∧ ins.form ≠ .call := by
      cases hr : ins.request? with
      | none =>
        rw [hr] at ha
        cases ha
      | some request => exact Instruction.not_stack_of_request hr
    rw [Attempt.run_bind_error ha]
    simp only [Except.error.injEq, hother.1, hother.2, false_and, or_false]
  · rw [Attempt.run_bind_ok ha, Attempt.error_ofExcept_iff]
    simp only [Instruction.perform_eq_error_iff, reduceCtorEq, false_or]
    constructor
    · rintro ⟨fault, ⟨hform, hp, rfl⟩ | ⟨hform, hp, rfl⟩, rfl⟩
      · exact Or.inl ⟨hform, hp, rfl⟩
      · exact Or.inr ⟨hform, hp, rfl⟩
    · rintro (⟨hform, hp, rfl⟩ | ⟨hform, hp, rfl⟩)
      · exact ⟨_, Or.inl ⟨hform, hp, rfl⟩, rfl⟩
      · exact ⟨_, Or.inr ⟨hform, hp, rfl⟩, rfl⟩

theorem error_answer_iff : ((Host.answer ins.request?).run h).1 = .error e ↔
    (ins.form = .waitKey ∧ (Host.wait.run h).1 = .error e) ∨
      (ins.form = .random ∧ (Host.generate.run h).1 = .error e) := by
  rw [Instruction.request?_eq]
  by_cases hkey : ins.form = .waitKey
  · rw [if_pos hkey, hkey]
    simp [Host.answer, show Form.waitKey ≠ .random by decide]
  · rw [if_neg hkey]
    by_cases hbyte : ins.form = .random
    · rw [if_pos hbyte, hbyte]
      simp [Host.answer, show Form.random ≠ .waitKey by decide]
    · rw [if_neg hbyte]
      simp [Host.answer, hkey, hbyte, Attempt.run_pure]

/-- The reasons for which a word is refused, each with the failure that tells of it. -/
theorem error_execute_iff : ((m.execute w).run h).1 = .error e ↔
    (¬ w.Listed ∧ e = .fault (.invalidOpcode w.toNat)) ∨
      (Form.ret.Fits w ∧ m.stack.pointer ≤ 0 ∧ e = .fault .stackUnderflow) ∨
        (Form.call.Fits w ∧ 16 ≤ m.stack.pointer ∧ e = .fault (.stackOverflow 16)) ∨
          (Form.waitKey.Fits w ∧ (Host.wait.run h).1 = .error e) ∨
            (Form.random.Fits w ∧ (Host.generate.run h).1 = .error e) := by
  have hret : Form.ret ∈ Form.table := by decide
  have hcall : Form.call ∈ Form.table := by decide
  have hkey : Form.waitKey ∈ Form.table := by decide
  have hbyte : Form.random ∈ Form.table := by decide
  cases hw : Instruction.ofWord? w with
  | none =>
    rw [execute_of_eq_none hw, Attempt.run_throw]
    simp [Instruction.not_listed_of_eq_none hw, Instruction.not_fits_of_eq_none hw, hret, hcall, hkey, hbyte, eq_comm]
  | some ins =>
    rw [error_execute_of_eq_some hw, error_answer_iff, Instruction.fits_iff_form_eq hw hret,
      Instruction.fits_iff_form_eq hw hcall, Instruction.fits_iff_form_eq hw hkey,
      Instruction.fits_iff_form_eq hw hbyte]
    simp only [Instruction.listed_of_eq_some hw, not_true_eq_false, false_and, false_or]
    exact or_comm.trans or_assoc

theorem error_execute_of_request {request : Request} (hw : Instruction.ofWord? w = some ins)
    (hr : ins.request? = some request) :
    ((m.execute w).run h).1 = .error e ↔ ((Host.answer (some request)).run h).1 = .error e := by
  obtain ⟨hret, hcall⟩ := Instruction.not_stack_of_request hr
  rw [error_execute_of_eq_some hw, hr]
  simp [hret, hcall]

end Outcomes
end Machine

/-! ### The instruction set -/

/-- The fault is about a word or about the stack, so that it is for the machine to find. -/
def Fault.Internal (fault : Fault) : Prop := .invalidOpcode ∈ fault.kind.lineage ∨ .stack ∈ fault.kind.lineage

theorem Fault.Kind.stack_mem_lineage {kind : Fault.Kind}
    (h : .stackUnderflow ∈ kind.lineage ∨ .stackOverflow ∈ kind.lineage) : .stack ∈ kind.lineage := by
  cases kind <;> revert h <;> decide

namespace Attempt
variable {D α : Type} {a : Attempt D α} {d : Option D}

theorem error_ifPresent_iff {missing e : Failure} : ((ifPresent (.error missing) a).run d).1 = .error e ↔
    match d with
    | none => e = missing
    | some d => (a.run d).1 = .error e := by
  cases d with
  | none =>
    constructor
    · intro h
      exact (Except.error.inj h).symm
    · rintro rfl
      rfl
  | some d => exact Iff.rfl

theorem not_internal_of_ifPresent {missing fault : Fault} (hmissing : ¬ missing.Internal)
    (hd : ∀ x fault, d = some x → (a.run x).1 = .error (.fault fault) → ¬ fault.Internal)
    (h : ((ifPresent (.error (.fault missing)) a).run d).1 = .error (.fault fault)) : ¬ fault.Internal := by
  rw [error_ifPresent_iff] at h
  cases d with
  | none =>
    obtain rfl := Failure.fault.inj h
    exact hmissing
  | some x => exact hd x fault rfl h

end Attempt

/-- Devices of which any may be missing. -/
abbrev Kit (G A K N : Type) := Devices (Option G) (Option A) (Option K) (Option N)

section Kits
variable {G A K N : Type} [Graphics G] [Audio A] [Keyboard K] [NumberSource N]

/-- The devices that are asked something do not fail by faults which are for the machine to find. -/
structure Kit.Fair (d : Kit G A K N) : Prop where
  key : ∀ keyboard fault, d.keyboard = some keyboard → (Keyboard.wait.run keyboard).1 = .error (.fault fault) →
    ¬ fault.Internal
  byte : ∀ source fault, d.numbers = some source → (NumberSource.generate.run source).1 = .error (.fault fault) →
    ¬ fault.Internal

namespace Kit
variable {d : Kit G A K N} {e : Failure} {fault : Fault}

theorem error_wait_iff : (Host.wait.run d).1 = .error e ↔
    match d.keyboard with
    | none => e = .fault .noKeyboard
    | some keyboard => (Keyboard.wait.run keyboard).1 = .error e := Attempt.error_ifPresent_iff

theorem error_generate_iff : (Host.generate.run d).1 = .error e ↔
    match d.numbers with
    | none => e = .fault .noNumberSource
    | some source => (NumberSource.generate.run source).1 = .error e := Attempt.error_ifPresent_iff

theorem Fair.wait (hd : d.Fair) (h : (Host.wait.run d).1 = .error (.fault fault)) : ¬ fault.Internal :=
  Attempt.not_internal_of_ifPresent (by unfold Fault.Internal; decide) hd.key h

theorem Fair.generate (hd : d.Fair) (h : (Host.generate.run d).1 = .error (.fault fault)) : ¬ fault.Internal :=
  Attempt.not_internal_of_ifPresent (by unfold Fault.Internal; decide) hd.byte h

end Kit

namespace Machine

/-- What comes of executing the word of a number. -/
def outcome (m : Machine) (number : Int) (d : Kit G A K N) : Except Failure Machine :=
  ((m.execute (Word.ofInt number)).run d).1

/-- Executing the word of a number fails by the fault, and that is one of the kind. -/
def Raises (m : Machine) (number : Int) (d : Kit G A K N) (kind : Fault.Kind) (fault : Fault) : Prop :=
  m.outcome number d = .error (.fault fault) ∧ kind ∈ fault.kind.lineage

/-- A number is executed as the word of its low sixteen bits. It fails as the form of this word and the stack
    tell, or as the device does that is asked. -/
structure ExecutesByForm (m : Machine) (number : Int) (d : Kit G A K N) : Prop where
  word : ((Word.ofInt number).toNat : Int) = number % 65536
  congruent : (m.execute (Word.ofInt (number % 65536))).run d = (m.execute (Word.ofInt number)).run d
  invalid : ∀ fault, m.Raises number d .invalidOpcode fault ↔
    ¬ (Word.ofInt number).Listed ∧ fault = .invalidOpcode (number % 65536)
  /-- No device is called for a word without a form. -/
  silent : ¬ (Word.ofInt number).Listed → ∀ before, (m.execute (Word.ofInt number)).run (Recorder.mk d before) =
    (.error (.fault (.invalidOpcode (number % 65536))), Recorder.mk d before)
  underflow : ∀ fault, m.Raises number d .stackUnderflow fault ↔
    Word.ofInt number = 0x00EE ∧ m.stack.pointer = 0 ∧ fault = .stackUnderflow
  overflow : ∀ fault, m.Raises number d .stackOverflow fault ↔
    Form.call.Fits (Word.ofInt number) ∧ m.stack.pointer = 16 ∧ fault = .stackOverflow 16
  key : Form.waitKey.Fits (Word.ofInt number) → ∀ e, m.outcome number d = .error e ↔
    match d.keyboard with
    | none => e = .fault .noKeyboard
    | some keyboard => (Keyboard.wait.run keyboard).1 = .error e
  byte : Form.random.Fits (Word.ofInt number) → ∀ e, m.outcome number d = .error e ↔
    match d.numbers with
    | none => e = .fault .noNumberSource
    | some source => (NumberSource.generate.run source).1 = .error e
  otherwise : (Word.ofInt number).Listed → ¬ (Word.ofInt number = 0x00EE ∧ m.stack.pointer = 0) →
    ¬ (Form.call.Fits (Word.ofInt number) ∧ m.stack.pointer = 16) → ¬ Form.waitKey.Fits (Word.ofInt number) →
    ¬ Form.random.Fits (Word.ofInt number) → ∃ m', m.outcome number d = .ok m'

variable {m : Machine} {number : Int} {d : Kit G A K N}

/-- With fair devices an internal fault is one of the machine itself. -/
theorem outcome_internal {fault : Fault} (hd : d.Fair) (he : m.outcome number d = .error (.fault fault))
    (hi : fault.Internal) : (¬ (Word.ofInt number).Listed ∧ fault = .invalidOpcode (Word.ofInt number).toNat) ∨
      (Form.ret.Fits (Word.ofInt number) ∧ m.stack.pointer ≤ 0 ∧ fault = .stackUnderflow) ∨
        (Form.call.Fits (Word.ofInt number) ∧ 16 ≤ m.stack.pointer ∧ fault = .stackOverflow 16) := by
  rcases error_execute_iff.mp he with ⟨hl, hf⟩ | ⟨hret, hp, hf⟩ | ⟨hcall, hp, hf⟩ | ⟨-, hwait⟩ | ⟨-, hgenerate⟩
  · exact Or.inl ⟨hl, Failure.fault.inj hf⟩
  · exact Or.inr (Or.inl ⟨hret, hp, Failure.fault.inj hf⟩)
  · exact Or.inr (Or.inr ⟨hcall, hp, Failure.fault.inj hf⟩)
  · exact absurd hi (hd.wait hwait)
  · exact absurd hi (hd.generate hgenerate)

/-- Executing accepts exactly the instruction set, and fails exactly as the form of the word, the stack and the
    device that is asked tell: for every number, on every machine whose stack pointer counts slots, and with any
    devices or none. -/
theorem executes_by_form (m : Machine) (number : Int) (d : Kit G A K N)
    (hp : 0 ≤ m.stack.pointer ∧ m.stack.pointer ≤ 16) (hd : d.Fair) : m.ExecutesByForm number d where
  word := Word.toNat_ofInt number
  congruent := by rw [Word.ofInt_emod]
  invalid fault := by
    constructor
    · rintro ⟨he, hk⟩
      rcases outcome_internal hd he (Or.inl hk) with ⟨hl, rfl⟩ | ⟨-, -, rfl⟩ | ⟨-, -, rfl⟩
      · exact ⟨hl, congrArg Fault.invalidOpcode (Word.toNat_ofInt number)⟩
      · exact absurd hk (by decide)
      · exact absurd hk (by decide)
    · rintro ⟨hl, rfl⟩
      rw [← Word.toNat_ofInt]
      exact ⟨error_execute_iff.mpr (Or.inl ⟨hl, rfl⟩), List.mem_cons_self⟩
  silent hl before := by
    cases hw : Instruction.ofWord? (Word.ofInt number) with
    | none =>
      rw [execute_of_eq_none hw, Word.toNat_ofInt]
      rfl
    | some ins => exact absurd (Instruction.listed_of_eq_some hw) hl
  underflow fault := by
    constructor
    · rintro ⟨he, hk⟩
      have hi : fault.Internal := Or.inr (Fault.Kind.stack_mem_lineage (Or.inl hk))
      rcases outcome_internal hd he hi with ⟨-, rfl⟩ | ⟨hret, h0, rfl⟩ | ⟨-, -, rfl⟩
      · simp [Fault.kind, Fault.Kind.lineage] at hk
      · exact ⟨Form.fits_given_iff.mp hret, by omega, rfl⟩
      · exact absurd hk (by decide)
    · rintro ⟨hret, h0, rfl⟩
      exact ⟨error_execute_iff.mpr (Or.inr (Or.inl ⟨Form.fits_given_iff.mpr hret, by omega, rfl⟩)),
        List.mem_cons_self⟩
  overflow fault := by
    constructor
    · rintro ⟨he, hk⟩
      have hi : fault.Internal := Or.inr (Fault.Kind.stack_mem_lineage (Or.inr hk))
      rcases outcome_internal hd he hi with ⟨-, rfl⟩ | ⟨-, -, rfl⟩ | ⟨hcall, h16, rfl⟩
      · simp [Fault.kind, Fault.Kind.lineage] at hk
      · exact absurd hk (by decide)
      · exact ⟨hcall, by omega, rfl⟩
    · rintro ⟨hcall, h16, rfl⟩
      exact ⟨error_execute_iff.mpr (Or.inr (Or.inr (Or.inl ⟨hcall, by omega, rfl⟩))), List.mem_cons_self⟩
  key hform e := by
    obtain ⟨ins, hw, -⟩ := Instruction.ofWord?_of_fits (by decide) hform
    exact (error_execute_of_request hw ((Instruction.request?_eq_key_iff hw).mpr hform)).trans Kit.error_wait_iff
  byte hform e := by
    obtain ⟨ins, hw, -⟩ := Instruction.ofWord?_of_fits (by decide) hform
    exact (error_execute_of_request hw ((Instruction.request?_eq_byte_iff hw).mpr hform)).trans Kit.error_generate_iff
  otherwise hl hret hcall hkey hbyte := by
    cases ho : m.outcome number d with
    | ok m' => exact ⟨m', rfl⟩
    | error e =>
      rcases error_execute_iff.mp ho with ⟨hl', -⟩ | ⟨hret', h0, -⟩ | ⟨hcall', h16, -⟩ | ⟨hkey', -⟩ | ⟨hbyte', -⟩
      · exact absurd hl hl'
      · exact absurd ⟨Form.fits_given_iff.mp hret', by omega⟩ hret
      · exact absurd ⟨hcall', by omega⟩ hcall
      · exact absurd hkey' hkey
      · exact absurd hbyte' hbyte

end Machine
end Kits

/-- Scripts that run out are no faults of the machine. -/
theorem Kit.scripted_fair {G A : Type} (d : Kit G A KeyScript ListSource) : d.Fair where
  key := by
    rintro ⟨presses, held, exitAfter, pollCount⟩ fault - h
    cases presses with
    | nil =>
      obtain rfl : KeyScript.exhausted = fault := Failure.fault.inj (Except.error.inj h)
      unfold Fault.Internal
      decide
    | cons key presses => cases h
  byte := by
    rintro ⟨values⟩ fault - h
    cases values with
    | nil =>
      obtain rfl : ListSource.exhausted = fault := Failure.fault.inj (Except.error.inj h)
      unfold Fault.Internal
      decide
    | cons value values => cases h

/-- A machine without a free slot on its stack. -/
def Machine.nested : Machine := { Machine.initial with stack := ⟨Vector.replicate 16 0x200, 16⟩ }

/-- A keyboard with nothing to press, a source of two numbers, and nothing else. -/
def Kit.scripted : Kit (FrameRecorder Frame) SilentBeeper KeyScript ListSource := ⟨none, none, some {}, some ⟨[-1, 300]⟩⟩

/-- The case of a call without a free slot, written as a negative number. -/
theorem Machine.executes_by_form_of_nested_call : (0 ≤ nested.stack.pointer ∧ nested.stack.pointer ≤ 16) ∧
    Kit.scripted.Fair ∧ nested.ExecutesByForm (0x2ABC - 3 * 65536) Kit.scripted :=
  ⟨by decide, Kit.scripted_fair _, executes_by_form _ _ _ (by decide) (Kit.scripted_fair _)⟩

end Chip8
