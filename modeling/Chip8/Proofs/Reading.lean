import Chip8.Proofs.Forms

/-! What the words of a form stand for. `Reads` lists the forms with their instructions, whose operands are digits
    of the word; the decoder gives the instruction that a word reads, and no other one. -/

namespace Chip8

/-! ### Named forms -/

namespace Form
open Digit (any)

/-- The form `00E0`, of the clearing of the screen. -/
def clear : Form := ⟨0x0, 0x0, 0xE, 0x0⟩

def jump : Form := ⟨0x1, any, any, any⟩

def skipEqualsByte : Form := ⟨0x3, any, any, any⟩

def skipDiffersFromByte : Form := ⟨0x4, any, any, any⟩

def skipEqualsRegister : Form := ⟨0x5, any, any, 0x0⟩

def set : Form := ⟨0x6, any, any, any⟩

def add : Form := ⟨0x7, any, any, any⟩

/-- The form of one operation on two registers. -/
def operation (op : Arithmetic) : Form := ⟨0x8, any, any, .given op.code⟩

def skipDiffersFromRegister : Form := ⟨0x9, any, any, 0x0⟩

def setIndex : Form := ⟨0xA, any, any, any⟩

def jumpFromV0 : Form := ⟨0xB, any, any, any⟩

def draw : Form := ⟨0xD, any, any, any⟩

def skipKeyDown : Form := ⟨0xE, any, 0x9, 0xE⟩

def skipKeyUp : Form := ⟨0xE, any, 0xA, 0x1⟩

def getDelay : Form := ⟨0xF, any, 0x0, 0x7⟩

def setDelay : Form := ⟨0xF, any, 0x1, 0x5⟩

def setSound : Form := ⟨0xF, any, 0x1, 0x8⟩

def addIndex : Form := ⟨0xF, any, 0x1, 0xE⟩

def glyph : Form := ⟨0xF, any, 0x2, 0x9⟩

def decimal : Form := ⟨0xF, any, 0x3, 0x3⟩

def store : Form := ⟨0xF, any, 0x5, 0x5⟩

def load : Form := ⟨0xF, any, 0x6, 0x5⟩

end Form

/-! ### Instructions of words -/

namespace Instruction

/-- The word has the form of the instruction, and the operands are its digits. -/
inductive Reads (w : Word) : Instruction → Prop
  | clear : Form.clear.Fits w → Reads w .clear
  | ret : Form.ret.Fits w → Reads w .ret
  | jump : Form.jump.Fits w → Reads w (.jump w.nnn)
  | call : Form.call.Fits w → Reads w (.call w.nnn)
  | skipEqualsByte : Form.skipEqualsByte.Fits w → Reads w (.skip (.equalsByte w.x w.nn))
  | skipDiffersFromByte : Form.skipDiffersFromByte.Fits w → Reads w (.skip (.differsFromByte w.x w.nn))
  | skipEqualsRegister : Form.skipEqualsRegister.Fits w → Reads w (.skip (.equalsRegister w.x w.y))
  | set : Form.set.Fits w → Reads w (.set w.x w.nn)
  | add : Form.add.Fits w → Reads w (.add w.x w.nn)
  | arithmetic {op : Arithmetic} : (Form.operation op).Fits w → Reads w (.arithmetic op w.x w.y)
  | skipDiffersFromRegister : Form.skipDiffersFromRegister.Fits w → Reads w (.skip (.differsFromRegister w.x w.y))
  | setIndex : Form.setIndex.Fits w → Reads w (.setIndex w.nnn)
  | jumpFromV0 : Form.jumpFromV0.Fits w → Reads w (.jumpFromV0 w.nnn)
  | random : Form.random.Fits w → Reads w (.random w.x w.nn)
  | draw : Form.draw.Fits w → Reads w (.draw w.x w.y w.n)
  | skipKeyDown : Form.skipKeyDown.Fits w → Reads w (.skip (.keyDown w.x))
  | skipKeyUp : Form.skipKeyUp.Fits w → Reads w (.skip (.keyUp w.x))
  | getDelay : Form.getDelay.Fits w → Reads w (.getDelay w.x)
  | waitKey : Form.waitKey.Fits w → Reads w (.waitKey w.x)
  | setDelay : Form.setDelay.Fits w → Reads w (.setDelay w.x)
  | setSound : Form.setSound.Fits w → Reads w (.setSound w.x)
  | addIndex : Form.addIndex.Fits w → Reads w (.addIndex w.x)
  | glyph : Form.glyph.Fits w → Reads w (.glyph w.x)
  | decimal : Form.decimal.Fits w → Reads w (.decimal w.x)
  | store : Form.store.Fits w → Reads w (.store w.x)
  | load : Form.load.Fits w → Reads w (.load w.x)

variable {w : Word} {ins : Instruction}

theorem reads_of_ofWord? (h : ofWord? w = some ins) : Reads w ins := by
  have hfits := fits_of_ofWord? h
  unfold ofWord? at h
  split at h
  -- The named cases are the families 0, 5, 8, 9, E and F, which hold more than one instruction or refuse words.
  case h_1 =>
    split at h
    · cases h
      exact .clear hfits
    · split at h
      · cases h
        exact .ret hfits
      · cases h
  case h_6 =>
    split at h
    · cases h
      exact .skipEqualsRegister hfits
    · cases h
  case h_9 =>
    obtain ⟨op, -, rfl⟩ := Option.map_eq_some_iff.mp h
    exact .arithmetic hfits
  case h_10 =>
    split at h
    · cases h
      exact .skipDiffersFromRegister hfits
    · cases h
  case h_15 =>
    unfold ofKeyCode? at h
    split at h
    · cases h
      exact .skipKeyDown hfits
    · cases h
      exact .skipKeyUp hfits
    · cases h
  case h_16 =>
    unfold ofMiscCode? at h
    split at h
    case h_10 => cases h
    all_goals
      cases h
      constructor
      exact hfits
  all_goals
    cases h
    constructor
    exact hfits

theorem ofCode?_code (op : Arithmetic) : Arithmetic.ofCode? op.code = some op := by
  cases op <;> rfl

theorem Reads.ofWord?_eq (h : Reads w ins) : ofWord? w = some ins := by
  unfold ofWord?
  cases h with
  | arithmetic hf => rw [(Form.fits_last_iff.mp hf).1, (Form.fits_last_iff.mp hf).2, ofCode?_code]; rfl
  | clear hf => rw [Form.fits_given_iff.mp hf]; rfl
  | ret hf => rw [Form.fits_given_iff.mp hf]; rfl
  | skipEqualsRegister hf => rw [(Form.fits_last_iff.mp hf).1, (Form.fits_last_iff.mp hf).2]; rfl
  | skipDiffersFromRegister hf => rw [(Form.fits_last_iff.mp hf).1, (Form.fits_last_iff.mp hf).2]; rfl
  | jump hf | call hf | skipEqualsByte hf | skipDiffersFromByte hf | set hf | add hf | setIndex hf | jumpFromV0 hf
  | random hf | draw hf => rw [Form.fits_family_iff.mp hf]; rfl
  | _ hf => rw [(Form.fits_byte_iff.mp hf).1, (Form.fits_byte_iff.mp hf).2]; rfl

end Instruction
end Chip8
