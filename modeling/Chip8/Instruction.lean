import Chip8.Arithmetic
import Chip8.Frame

/-! The instruction set. `ofWord?` reads a word; it refuses those that stand for no instruction. -/

namespace Chip8

/-! ### Instructions -/

inductive Condition where
  | equalsByte (x : Register) (nn : Byte)
  | differsFromByte (x : Register) (nn : Byte)
  | equalsRegister (x y : Register)
  | differsFromRegister (x y : Register)
  | keyDown (x : Register)
  | keyUp (x : Register)
  deriving DecidableEq

/-- What a machine can be told to do, with the operands. -/
inductive Instruction where
  | clear
  | ret
  | jump (nnn : Address)
  | call (nnn : Address)
  | skip (condition : Condition)
  | set (x : Register) (nn : Byte)
  | add (x : Register) (nn : Byte)
  | arithmetic (op : Arithmetic) (x y : Register)
  | setIndex (nnn : Address)
  | jumpFromV0 (nnn : Address)
  | random (x : Register) (nn : Byte)
  | draw (x y : Register) (n : Fin (Frame.maxSpriteHeight + 1))
  | getDelay (x : Register)
  | waitKey (x : Register)
  | setDelay (x : Register)
  | setSound (x : Register)
  | addIndex (x : Register)
  | glyph (x : Register)
  | decimal (x : Register)
  | store (x : Register)
  | load (x : Register)
  deriving DecidableEq

namespace Instruction

/-! ### Reading -/

/-- The instruction of the family `E` with the given low byte. -/
def ofKeyCode? (x : Register) (nn : Byte) : Option Instruction :=
  match nn with
  | 0x9E => some (.skip (.keyDown x))
  | 0xA1 => some (.skip (.keyUp x))
  | _ => none

/-- The instruction of the family `F` with the given low byte. -/
def ofMiscCode? (x : Register) (nn : Byte) : Option Instruction :=
  match nn with
  | 0x07 => some (.getDelay x)
  | 0x0A => some (.waitKey x)
  | 0x15 => some (.setDelay x)
  | 0x18 => some (.setSound x)
  | 0x1E => some (.addIndex x)
  | 0x29 => some (.glyph x)
  | 0x33 => some (.decimal x)
  | 0x55 => some (.store x)
  | 0x65 => some (.load x)
  | _ => none

/-- The instruction that a word stands for. -/
def ofWord? (w : Word) : Option Instruction :=
  match w.family.val with
  | 0x0 => if w = 0x00E0 then some .clear else if w = 0x00EE then some .ret else none
  | 0x1 => some (.jump w.nnn)
  | 0x2 => some (.call w.nnn)
  | 0x3 => some (.skip (.equalsByte w.x w.nn))
  | 0x4 => some (.skip (.differsFromByte w.x w.nn))
  | 0x5 => if w.n = 0 then some (.skip (.equalsRegister w.x w.y)) else none
  | 0x6 => some (.set w.x w.nn)
  | 0x7 => some (.add w.x w.nn)
  | 0x8 => (Arithmetic.ofCode? w.n).map (.arithmetic · w.x w.y)
  | 0x9 => if w.n = 0 then some (.skip (.differsFromRegister w.x w.y)) else none
  | 0xA => some (.setIndex w.nnn)
  | 0xB => some (.jumpFromV0 w.nnn)
  | 0xC => some (.random w.x w.nn)
  | 0xD => some (.draw w.x w.y w.n)
  | 0xE => ofKeyCode? w.x w.nn
  | _ => ofMiscCode? w.x w.nn

end Instruction

end Chip8
