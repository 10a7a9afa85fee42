import Chip8.Word

/-! The operations on two registers. Each gives a result and a flag. Addition and subtraction set the flag
    on a carry or borrow and leave it as it was otherwise; the shifts put the bit that falls out into it;
    reverse subtraction sets or clears it; the others leave it. -/

namespace Chip8

inductive Arithmetic where
  | copy | or | and | xor | add | sub | shiftRight | subFrom | shiftLeft
  deriving DecidableEq

namespace Arithmetic

/-! ### Codes -/

/-- The low nibble of the words that stand for the operation. -/
def code : Arithmetic → Fin 16
  | .copy => 0x0
  | .or => 0x1
  | .and => 0x2
  | .xor => 0x3
  | .add => 0x4
  | .sub => 0x5
  | .shiftRight => 0x6
  | .subFrom => 0x7
  | .shiftLeft => 0xE

def ofCode? (n : Fin 16) : Option Arithmetic :=
  [copy, or, and, xor, add, sub, shiftRight, subFrom, shiftLeft].find? (·.code == n)

/-! ### Results -/

/-- The result and the flag, from the operands `x` and `y` and the flag as it was. -/
def compute (op : Arithmetic) (x y flag : Byte) : Byte × Byte :=
  match op with
  | .copy => (y, flag)
  | .or => (x ||| y, flag)
  | .and => (x &&& y, flag)
  | .xor => (x ^^^ y, flag)
  | .add => (x + y, if x.toNat + y.toNat < 256 then flag else 1)
  | .sub => (x - y, if x < y then 1 else flag)
  | .shiftRight => (x >>> 1, x &&& 1)
  | .subFrom => (y - x, if y < x then 1 else 0)
  | .shiftLeft => (x <<< 1, x >>> 7)

end Arithmetic

end Chip8
