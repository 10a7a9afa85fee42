import Chip8.Failure
import Chip8.Frame

/-! Pictures of a frame: which points of the screen are lit, and how this looks as text or in colour. -/

namespace Chip8

/-! ### Colours -/

structure Colour where
  red : UInt8
  green : UInt8
  blue : UInt8
  deriving DecidableEq

namespace Colour

def part (n : Int) : Except HostError UInt8 :=
  if n < -HostError.wide ∨ HostError.wide ≤ n then .error (.tooWide "long")
  else if n < 0 ∨ 255 < n then .error (.colourRange n)
  else .ok (UInt8.ofInt n)

/-- The colour of the given parts, for a number of points; a single part stands for all three. -/
def ofParts (points : Nat) (parts : List Int) : Except HostError Colour := do
  match ← parts.mapM part with
  | [grey] => return ⟨grey, grey, grey⟩
  | [red, green, blue] => return ⟨red, green, blue⟩
  | bytes => throw (.colourParts bytes.length points)

end Colour

structure ColourScheme where
  lit : Colour
  dark : Colour
  deriving DecidableEq

namespace ColourScheme

def classic : ColourScheme := ⟨⟨0, 255, 0⟩, ⟨0, 0, 0⟩⟩

def all : List (String × ColourScheme) := [
  ("classic", classic),
  ("amber", ⟨⟨255, 176, 0⟩, ⟨0, 0, 0⟩⟩),
  ("white", ⟨⟨255, 255, 255⟩, ⟨0, 0, 0⟩⟩),
  ("blue", ⟨⟨0, 255, 255⟩, ⟨0, 0, 64⟩⟩),
  ("retro", ⟨⟨255, 255, 0⟩, ⟨64, 0, 64⟩⟩)]

/-- The scheme of a name; a list or a table cannot even be looked up. -/
def named : Value → Except HostError ColourScheme
  | .list values => .error (.unusable .key (.list values))
  | .table entries => .error (.unusable .key (.table entries))
  | name =>
    match all.find? (fun (known, _) => .text known = name) with
    | some (_, scheme) => .ok scheme
    | none => .error (.unknownScheme name.shown (all.map (·.1)))

end ColourScheme

/-! ### Pictures -/

/-- For each point of the screen, row by row, whether it is lit. -/
abbrev Picture := Vector Bool 2048

/-- The cells of a frame as numbers. -/
def Frame.cells (f : Frame) : Vector Int 2048 := f.map fun b => (b.toNat : Int)

namespace Picture

/-- The picture of the right number of cells, in which all but zero counts as lit. -/
def ofVector (cells : Vector Int 2048) : Picture := cells.map (· != 0)

def ofCells (cells : Array Int) : Except HostError Picture :=
  if h : cells.size = Frame.cellCount then .ok (ofVector ⟨cells, h⟩) else .error (.cellCount Frame.cellCount cells.size)

def ofFrame (f : Frame) : Picture := ofVector f.cells

def lit (p : Picture) (row : Fin 32) (column : Fin 64) : Bool := p[64 * row.val + column.val]

def rows (p : Picture) : List (List Bool) :=
  (List.finRange 32).map fun row => (List.finRange 64).map fun column => p.lit row column

/-- The rows and columns of the lit points, row by row. -/
def litPoints (p : Picture) : List (Fin 32 × Fin 64) :=
  (List.finRange 32).flatMap fun row =>
    ((List.finRange 64).filter fun column => p.lit row column).map fun column => (row, column)

def count (p : Picture) (lit : Bool) : Nat := p.toList.count lit

/-! ### Text -/

/-- A line of text, with the given texts for lit and for dark points. -/
def textLine (on off : String) (row : List Bool) : String :=
  String.join (row.map fun lit => if lit then on else off)

def text (p : Picture) (on off : String) : String := "\n".intercalate (p.rows.map (textLine on off))

/-! ### Colour -/

def repeatEach {α : Type} (n : Nat) (l : List α) : List α := l.flatMap (List.replicate n)

def side (scale : Int) : Nat := max 1 scale.toNat

/-- The picture in colour, each point enlarged to a square. -/
def coloured (p : Picture) (scale : Int) (scheme : ColourScheme) : List (List Colour) :=
  repeatEach (side scale) (p.rows.map fun row =>
    repeatEach (side scale) (row.map fun lit => if lit then scheme.lit else scheme.dark))

/-- The picture in colour, unless the scale does not fit into 64 bits with a sign. This is the only limit to the scale
    here: how large an array may be and how much memory there is are not looked at. -/
def image (p : Picture) (scale : Int) (scheme : ColourScheme) : Except HostError (List (List Colour)) :=
  if scale < HostError.wide then .ok (p.coloured scale scheme) else .error (.tooWide "long")

def imageOfParts (p : Picture) (scale : Int) (lit dark : List Int) : Except HostError (List (List Colour)) := do
  let lit ← Colour.ofParts (p.count true) lit
  let dark ← Colour.ofParts (p.count false) dark
  p.image scale ⟨lit, dark⟩

end Picture

end Chip8
