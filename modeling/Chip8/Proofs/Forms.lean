import Chip8.Execution

/-! The written forms of the instruction set. A form gives some digits of a word and leaves the others open. A word
    stands for an instruction exactly if it fits a form of the table, and the form tells which one. -/

namespace Chip8

/-! ### Digits -/

/-- A hexadecimal digit of a form: a given one, or any. -/
inductive Digit where
  | given (d : Fin 16)
  | any
  deriving DecidableEq

namespace Digit

instance {n : Nat} [OfNat (Fin 16) n] : OfNat Digit n := ⟨given (OfNat.ofNat n)⟩

@[simp] theorem ofNat_eq_given (n : Nat) [OfNat (Fin 16) n] : (OfNat.ofNat n : Digit) = given (OfNat.ofNat n) := rfl

/-- The digit of the form may stand for this digit of a word. -/
def Fits : Digit → Nat → Prop
  | given d, n => n = d.val
  | any, _ => True

instance : (d : Digit) → (n : Nat) → Decidable (d.Fits n)
  | given d, n => inferInstanceAs (Decidable (n = d.val))
  | any, _ => inferInstanceAs (Decidable True)

end Digit

namespace Word

theorem family_val (w : Word) : w.family.val = w.toNat / 4096 := by
  have := w.toNat_lt
  simp only [family, Fin.val_ofNat]
  omega

theorem nn_toNat (w : Word) : w.nn.toNat = 16 * (w.toNat / 16 % 16) + w.toNat % 16 := by
  simp only [nn, UInt8.toNat_ofNat']
  omega

end Word

/-! ### Forms -/

structure Form where
  first : Digit
  second : Digit
  third : Digit
  last : Digit
  deriving DecidableEq

namespace Form
open Digit (any)

structure Fits (f : Form) (w : Word) : Prop where
  first : f.first.Fits (w.toNat / 4096)
  second : f.second.Fits (w.toNat / 256 % 16)
  third : f.third.Fits (w.toNat / 16 % 16)
  last : f.last.Fits (w.toNat % 16)

instance (f : Form) (w : Word) : Decidable (f.Fits w) :=
  decidable_of_iff (f.first.Fits (w.toNat / 4096) ∧ f.second.Fits (w.toNat / 256 % 16) ∧
      f.third.Fits (w.toNat / 16 % 16) ∧ f.last.Fits (w.toNat % 16))
    ⟨fun ⟨first, second, third, last⟩ => ⟨first, second, third, last⟩,
      fun h => ⟨h.first, h.second, h.third, h.last⟩⟩

/-- The form `00EE`, of the return from a subroutine. -/
def ret : Form := ⟨0x0, 0x0, 0xE, 0xE⟩

/-- The form `2NNN`, of the calls of subroutines. -/
def call : Form := ⟨0x2, any, any, any⟩

/-- The form `CXNN`, of the instructions that ask for a random byte. -/
def random : Form := ⟨0xC, any, any, any⟩

/-- The form `FX0A`, of the instructions that wait for a key. -/
def waitKey : Form := ⟨0xF, any, 0x0, 0xA⟩

def table : List Form := [
  ⟨0x0, 0x0, 0xE, 0x0⟩, ret,
  ⟨0x1, any, any, any⟩, call, ⟨0x3, any, any, any⟩, ⟨0x4, any, any, any⟩,
  ⟨0x5, any, any, 0x0⟩, ⟨0x6, any, any, any⟩, ⟨0x7, any, any, any⟩,
  ⟨0x8, any, any, 0x0⟩, ⟨0x8, any, any, 0x1⟩, ⟨0x8, any, any, 0x2⟩, ⟨0x8, any, any, 0x3⟩, ⟨0x8, any, any, 0x4⟩,
  ⟨0x8, any, any, 0x5⟩, ⟨0x8, any, any, 0x6⟩, ⟨0x8, any, any, 0x7⟩, ⟨0x8, any, any, 0xE⟩,
  ⟨0x9, any, any, 0x0⟩, ⟨0xA, any, any, any⟩, ⟨0xB, any, any, any⟩, random, ⟨0xD, any, any, any⟩,
  ⟨0xE, any, 0x9, 0xE⟩, ⟨0xE, any, 0xA, 0x1⟩,
  ⟨0xF, any, 0x0, 0x7⟩, waitKey, ⟨0xF, any, 0x1, 0x5⟩, ⟨0xF, any, 0x1, 0x8⟩, ⟨0xF, any, 0x1, 0xE⟩,
  ⟨0xF, any, 0x2, 0x9⟩, ⟨0xF, any, 0x3, 0x3⟩, ⟨0xF, any, 0x5, 0x5⟩, ⟨0xF, any, 0x6, 0x5⟩]

variable {w : Word} {a b c d : Fin 16}

theorem fits_given_iff : (Form.mk (.given a) (.given b) (.given c) (.given d)).Fits w ↔
    w = UInt16.ofNat (4096 * a + 256 * b + 16 * c + d) := by
  have := w.toNat_lt
  rw [← UInt16.toNat_inj, UInt16.toNat_ofNat']
  constructor
  · rintro ⟨ha, hb, hc, hd⟩
    simp only [Digit.Fits] at ha hb hc hd
    omega
  · intro h
    constructor <;> simp only [Digit.Fits] <;> omega

theorem fits_family_iff : (Form.mk (.given a) any any any).Fits w ↔ w.family = a := by
  rw [← Fin.val_inj, Word.family_val]
  constructor
  · intro h
    exact h.first
  · intro h
    exact ⟨h, trivial, trivial, trivial⟩

theorem fits_last_iff : (Form.mk (.given a) any any (.given d)).Fits w ↔ w.family = a ∧ w.n = d := by
  rw [← Fin.val_inj, Word.family_val, ← Fin.val_inj]
  constructor
  · intro h
    exact ⟨h.first, h.last⟩
  · rintro ⟨hfirst, hlast⟩
    exact ⟨hfirst, trivial, trivial, hlast⟩

theorem fits_byte_iff : (Form.mk (.given a) any (.given c) (.given d)).Fits w ↔
    w.family = a ∧ w.nn = UInt8.ofNat (16 * c + d) := by
  rw [← Fin.val_inj, Word.family_val, ← UInt8.toNat_inj, Word.nn_toNat, UInt8.toNat_ofNat']
  constructor
  · rintro ⟨ha, -, hc, hd⟩
    simp only [Digit.Fits] at ha hc hd
    omega
  · rintro ⟨ha, h⟩
    refine ⟨ha, trivial, ?_, ?_⟩ <;> simp only [Digit.Fits] <;> omega

end Form

/-- The word has the form of some instruction. -/
def Word.Listed (w : Word) : Prop := ∃ f ∈ Form.table, f.Fits w

instance (w : Word) : Decidable w.Listed := inferInstanceAs (Decidable (∃ f ∈ Form.table, f.Fits w))

/-! ### Reading -/

namespace Instruction
open Digit (any)

/-- The form of the words that stand for the instruction, whatever its operands. -/
def form : Instruction → Form
  | .clear => ⟨0x0, 0x0, 0xE, 0x0⟩
  | .ret => .ret
  | .jump _ => ⟨0x1, any, any, any⟩
  | .call _ => .call
  | .skip (.equalsByte _ _) => ⟨0x3, any, any, any⟩
  | .skip (.differsFromByte _ _) => ⟨0x4, any, any, any⟩
  | .skip (.equalsRegister _ _) => ⟨0x5, any, any, 0x0⟩
  | .set _ _ => ⟨0x6, any, any, any⟩
  | .add _ _ => ⟨0x7, any, any, any⟩
  | .arithmetic op _ _ => ⟨0x8, any, any, .given op.code⟩
  | .skip (.differsFromRegister _ _) => ⟨0x9, any, any, 0x0⟩
  | .setIndex _ => ⟨0xA, any, any, any⟩
  | .jumpFromV0 _ => ⟨0xB, any, any, any⟩
  | .random _ _ => .random
  | .draw _ _ _ => ⟨0xD, any, any, any⟩
  | .skip (.keyDown _) => ⟨0xE, any, 0x9, 0xE⟩
  | .skip (.keyUp _) => ⟨0xE, any, 0xA, 0x1⟩
  | .getDelay _ => ⟨0xF, any, 0x0, 0x7⟩
  | .waitKey _ => .waitKey
  | .setDelay _ => ⟨0xF, any, 0x1, 0x5⟩
  | .setSound _ => ⟨0xF, any, 0x1, 0x8⟩
  | .addIndex _ => ⟨0xF, any, 0x1, 0xE⟩
  | .glyph _ => ⟨0xF, any, 0x2, 0x9⟩
  | .decimal _ => ⟨0xF, any, 0x3, 0x3⟩
  | .store _ => ⟨0xF, any, 0x5, 0x5⟩
  | .load _ => ⟨0xF, any, 0x6, 0x5⟩

variable {w : Word} {ins : Instruction}

theorem form_mem_table (ins : Instruction) : ins.form ∈ Form.table := by
  cases ins with
  | skip condition => cases condition <;> simp [form, Form.table]
  | arithmetic op x y => cases op <;> simp [form, Form.table, Arithmetic.code]
  | _ => simp [form, Form.table]

theorem code_of_ofCode? {n : Fin 16} {op : Arithmetic} (h : Arithmetic.ofCode? n = some op) : op.code = n := by
  simpa using List.find?_some h

theorem fits_of_ofKeyCode? {x : Register} (hw : w.family = 0xE) (h : ofKeyCode? x w.nn = some ins) :
    ins.form.Fits w := by
  unfold ofKeyCode? at h
  split at h
  · rename_i hnn
    cases h
    exact Form.fits_byte_iff.mpr ⟨hw, hnn⟩
  · rename_i hnn
    cases h
    exact Form.fits_byte_iff.mpr ⟨hw, hnn⟩
  · cases h

theorem fits_of_ofMiscCode? {x : Register} (hw : w.family = 0xF) (h : ofMiscCode? x w.nn = some ins) :
    ins.form.Fits w := by
  unfold ofMiscCode? at h
  split at h
  case h_10 => cases h
  all_goals
    rename_i hnn
    cases h
    exact Form.fits_byte_iff.mpr ⟨hw, hnn⟩

/-- A word fits the form of the instruction that it stands for. -/
theorem fits_of_ofWord? (h : ofWord? w = some ins) : ins.form.Fits w := by
  unfold ofWord? at h
  split at h
  -- The named cases are the families 0, 5, 8, 9, E and F, where more than the family has to fit.
  case h_1 =>
    split at h
    · rename_i hw
      cases h
      exact Form.fits_given_iff.mpr hw
    · split at h
      · rename_i hw
        cases h
        exact Form.fits_given_iff.mpr hw
      · cases h
  case h_6 hw =>
    split at h
    · rename_i hn
      cases h
      exact Form.fits_last_iff.mpr ⟨Fin.ext hw, hn⟩
    · cases h
  case h_9 hw =>
    obtain ⟨op, hop, rfl⟩ := Option.map_eq_some_iff.mp h
    exact Form.fits_last_iff.mpr ⟨Fin.ext hw, (code_of_ofCode? hop).symm⟩
  case h_10 hw =>
    split at h
    · rename_i hn
      cases h
      exact Form.fits_last_iff.mpr ⟨Fin.ext hw, hn⟩
    · cases h
  case h_15 hw => exact fits_of_ofKeyCode? (Fin.ext hw) h
  case h_16 =>
    have hw : w.family.val = 0xF := by
      have := w.family.isLt
      grind
    exact fits_of_ofMiscCode? (Fin.ext hw) h
  all_goals
    rename_i hw
    cases h
    exact Form.fits_family_iff.mpr (Fin.ext hw)

/-- A word that fits a form of the table stands for an instruction of this form. -/
theorem ofWord?_of_fits {f : Form} (hf : f ∈ Form.table) (h : f.Fits w) :
    ∃ ins, ofWord? w = some ins ∧ ins.form = f := by
  simp only [Form.table, List.mem_cons, List.not_mem_nil, or_false] at hf
  unfold ofWord?
  rcases hf with rfl | rfl | rfl | rfl | rfl | rfl | rfl | rfl | rfl | rfl | rfl | rfl | rfl | rfl | rfl | rfl | rfl |
    rfl | rfl | rfl | rfl | rfl | rfl | rfl | rfl | rfl | rfl | rfl | rfl | rfl | rfl | rfl | rfl | rfl
  -- A form fixes the family alone, the last digit, the low byte or the whole word besides.
  all_goals
    first
      | rw [Form.fits_family_iff.mp h]
        exact ⟨_, rfl, rfl⟩
      | rw [(Form.fits_last_iff.mp h).1, (Form.fits_last_iff.mp h).2]
        exact ⟨_, rfl, rfl⟩
      | rw [(Form.fits_byte_iff.mp h).1, (Form.fits_byte_iff.mp h).2]
        exact ⟨_, rfl, rfl⟩
      | rw [Form.fits_given_iff.mp h]
        exact ⟨_, rfl, rfl⟩

/-- A word that stands for an instruction fits the form of this instruction and no other one of the table. -/
theorem fits_iff_form_eq {f : Form} (hw : ofWord? w = some ins) (hf : f ∈ Form.table) :
    f.Fits w ↔ ins.form = f := by
  constructor
  · intro h
    obtain ⟨ins', hw', rfl⟩ := ofWord?_of_fits hf h
    rw [hw] at hw'
    cases hw'
    rfl
  · rintro rfl
    exact fits_of_ofWord? hw

theorem not_fits_of_eq_none {f : Form} (hw : ofWord? w = none) (hf : f ∈ Form.table) : ¬ f.Fits w := by
  intro h
  obtain ⟨ins, hw', -⟩ := ofWord?_of_fits hf h
  rw [hw] at hw'
  cases hw'

theorem listed_of_eq_some (hw : ofWord? w = some ins) : w.Listed := ⟨ins.form, form_mem_table ins, fits_of_ofWord? hw⟩

theorem not_listed_of_eq_none (hw : ofWord? w = none) : ¬ w.Listed := fun ⟨_, hf, h⟩ => not_fits_of_eq_none hw hf h

/-! ### Requests -/

/-- What an instruction asks the host for shows in its form. -/
theorem request?_eq (ins : Instruction) : ins.request? =
    if ins.form = .waitKey then some .key else if ins.form = .random then some .byte else none := by
  cases ins with
  | skip condition => cases condition <;> rfl
  | arithmetic op x y => cases op <;> rfl
  | _ => rfl

theorem request?_eq_key_iff (hw : ofWord? w = some ins) : ins.request? = some .key ↔ Form.waitKey.Fits w := by
  rw [fits_iff_form_eq hw (by decide), request?_eq]
  grind

theorem not_stack_of_request {request : Request} (hr : ins.request? = some request) :
    ins.form ≠ .ret ∧ ins.form ≠ .call := by
  rw [request?_eq] at hr
  constructor
  · intro hform
    rw [hform] at hr
    cases hr
  · intro hform
    rw [hform] at hr
    cases hr

theorem request?_eq_byte_iff (hw : ofWord? w = some ins) : ins.request? = some .byte ↔ Form.random.Fits w := by
  have hother : Form.random ≠ .waitKey := by decide
  rw [fits_iff_form_eq hw (by decide), request?_eq]
  grind

end Instruction
end Chip8
