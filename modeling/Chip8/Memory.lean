import Chip8.Word

/-! The memory of the machine: 4096 bytes. An address that lies past the end counts on from the
    beginning, so a run of cells may wrap around. -/

namespace Chip8

abbrev Memory := Vector Byte 4096

namespace Memory

abbrev cellCount : Nat := 4096

/-- The cell that an address names after wrapping around. -/
def cell (a : Nat) : Address := Fin.ofNat 4096 a

/-! ### Single cells -/

def read (mem : Memory) (a : Nat) : Byte := mem[cell a]

def write (mem : Memory) (a : Nat) (b : Byte) : Memory := mem.set (cell a) b

/-- The word whose high byte stands at `a`. -/
def readWord (mem : Memory) (a : Nat) : Word := Word.ofBytes (mem.read a) (mem.read (a + 1))

/-! ### Runs of cells -/

/-- The `n` bytes from `a` on. -/
def readRun (mem : Memory) (a n : Nat) : List Byte := (List.range n).map fun k => mem.read (a + k)

/-- Writes the bytes from `a` on, the first one first. -/
def writeRun (mem : Memory) (a : Nat) : List Byte → Memory
  | [] => mem
  | b :: bs => (mem.write a b).writeRun (a + 1) bs

end Memory

/-! ### The font -/

namespace Font

def start : Nat := 0

/-- The height of a glyph, and so the distance between two of them. -/
def glyphSize : Nat := 5

/-- The glyphs of the hexadecimal digits, row by row; the high nibble of a row is what is seen. -/
def data : List Byte := [
  0xF0, 0x90, 0x90, 0x90, 0xF0,
  0x20, 0x60, 0x20, 0x20, 0x70,
  0xF0, 0x10, 0xF0, 0x80, 0xF0,
  0xF0, 0x10, 0xF0, 0x10, 0xF0,
  0x90, 0x90, 0xF0, 0x10, 0x10,
  0xF0, 0x80, 0xF0, 0x10, 0xF0,
  0xF0, 0x80, 0xF0, 0x90, 0xF0,
  0xF0, 0x10, 0x20, 0x40, 0x40,
  0xF0, 0x90, 0xF0, 0x90, 0xF0,
  0xF0, 0x90, 0xF0, 0x10, 0xF0,
  0xF0, 0x90, 0xF0, 0x90, 0x90,
  0xE0, 0x90, 0xE0, 0x90, 0xE0,
  0xF0, 0x80, 0x80, 0x80, 0xF0,
  0xE0, 0x90, 0x90, 0x90, 0xE0,
  0xF0, 0x80, 0xF0, 0x80, 0xF0,
  0xF0, 0x80, 0xF0, 0x80, 0x80]

end Font

/-- A memory that holds the font and is zero elsewhere. -/
def Memory.initial : Memory := Memory.writeRun (Vector.replicate 4096 0) Font.start Font.data

end Chip8
