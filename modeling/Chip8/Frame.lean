import Chip8.Word

/-! The screen of the machine: 32 rows of 64 cells, stored row by row. A sprite is a list of bytes, one
    for each row of eight points; drawing it toggles the cells under its set bits, and what goes over one
    edge of the screen comes in at the opposite edge. -/

namespace Chip8

/-- The contents of the screen cells; the low bit tells whether a cell is lit. -/
abbrev Frame := Vector Byte 2048

namespace Frame

abbrev width : Nat := 64

abbrev height : Nat := 32

abbrev cellCount : Nat := 2048

abbrev spriteWidth : Nat := 8

abbrev maxSpriteHeight : Nat := 15

def blank : Frame := Vector.replicate cellCount 0

/-! ### Cells -/

/-- The cell in column `column` and row `row`, each after wrapping around. -/
def cell (column row : Nat) : Fin 2048 := ⟨column % width + width * (row % height), by simp only [width, height]; omega⟩

def lit (f : Frame) (p : Fin 2048) : Bool := f[p] &&& 1 == 1

/-- Lights the cell if it is dark and darkens it if it is lit. -/
def toggle (f : Frame) (p : Fin 2048) : Frame := f.set p (f[p] ^^^ 1)

/-! ### Sprites -/

/-- The cells under the set bits of one row of a sprite, whose leftmost point is the highest bit. -/
def rowCells (b : Byte) (column row : Nat) : List (Fin 2048) :=
  ((List.range spriteWidth).filter fun k => b.toNat.testBit (spriteWidth - 1 - k)).map fun k => cell (column + k) row

/-- The cells under the set bits of a sprite with its left upper corner at `column` and `row`. -/
def spriteCells (column : Nat) : Nat → List Byte → List (Fin 2048)
  | _, [] => []
  | row, b :: bs => rowCells b column row ++ spriteCells column (row + 1) bs

def draw (f : Frame) (cells : List (Fin 2048)) : Frame := cells.foldl toggle f

def collides (f : Frame) (cells : List (Fin 2048)) : Bool := cells.any f.lit

end Frame

end Chip8
