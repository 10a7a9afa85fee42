/-! Instruction words. A word is sixteen bits, read as four nibbles `F X Y N`: `F` is the family, `X` and
    `Y` name registers, and `N`, `NN` and `NNN` are the low four, eight and twelve bits. A word takes two
    bytes of a program, the high one first. -/

namespace Chip8

/-- What a memory cell, a register or a timer holds. -/
abbrev Byte := UInt8

abbrev Register := Fin 16

abbrev Address := Fin 4096

abbrev Word := UInt16

-- Numbers name registers and cells by wrapping around, for which there has to be one.
instance registersExist : @NeZero Nat Zero.ofOfNat0 16 := ⟨Nat.succ_ne_zero 15⟩

instance cellsExist : @NeZero Nat Zero.ofOfNat0 4096 := ⟨Nat.succ_ne_zero 4095⟩

theorem toNat_emod_lt (n : Int) : (n % 16).toNat < 16 := by
  omega

abbrev Program := List Byte

namespace Word

/-- The low sixteen bits of a number, in two's complement. -/
def ofInt (n : Int) : Word := UInt16.ofInt n

/-! ### Fields -/

/-- The high nibble, which tells the families of instructions apart. -/
def family (w : Word) : Fin 16 := Fin.ofNat 16 (w.toNat / 4096)

def x (w : Word) : Register := Fin.ofNat 16 (w.toNat / 256)

def y (w : Word) : Register := Fin.ofNat 16 (w.toNat / 16)

def n (w : Word) : Fin 16 := Fin.ofNat 16 w.toNat

def nn (w : Word) : Byte := UInt8.ofNat w.toNat

def nnn (w : Word) : Address := Fin.ofNat 4096 w.toNat

/-! ### Bytes -/

/-- The word of two bytes, the high one first. -/
def ofBytes (high low : Byte) : Word := UInt16.ofNat (256 * high.toNat + low.toNat)

def bytes (w : Word) : List Byte := [UInt8.ofNat (w.toNat / 256), UInt8.ofNat w.toNat]

end Word

/-- The program that holds the low sixteen bits of each number. -/
def Program.assemble (words : List Int) : Program := words.flatMap fun n => (Word.ofInt n).bytes

end Chip8
