import Chip8.Device.FrameRecorder
import Mathlib.Data.List.FinRange

/-! Pictures of an array of cells. Its points, its text and its image all go by the same cells: the point in a row and a
    column is lit if the cell with the number `64 * row + column` is not zero. A text with two different characters can
    be read back. An array with another number of cells has no picture of any kind. A frame always has its picture, and the
    text of it shows in each row and column what the cell holds. -/

namespace Chip8

/-! ### Lists -/

namespace Picture

/-- The numbers of `m` rows with `n` columns, row by row. -/
theorem range_mul (m n : Nat) :
    List.range (m * n) = (List.range m).flatMap fun row => (List.range n).map fun column => n * row + column := by
  induction m with
  | zero => rw [Nat.zero_mul, List.range_zero, List.flatMap_nil]
  | succ m ih =>
    rw [Nat.succ_mul, List.range_add, ih, List.range_succ, List.flatMap_append, List.flatMap_singleton, Nat.mul_comm m n]

theorem map_finRange {α : Type} (n : Nat) (f : Nat → α) : (List.finRange n).map (fun k => f k.val) = (List.range n).map f := by
  rw [← List.map_coe_finRange_eq_range, List.map_map]
  rfl

theorem repeatEach_map {α : Type} {t : Nat} (ht : 0 < t) (m : Nat) (f : Nat → α) :
    repeatEach t ((List.range m).map f) = (List.range (m * t)).map fun i => f (i / t) := by
  rw [repeatEach, List.flatMap_map, range_mul, List.map_flatMap]
  refine List.flatMap_congr fun row _ => ?_
  rw [List.map_map]
  -- The `t` numbers of a row all come from the same entry.
  have hrow : ∀ column ∈ List.range t, f ((t * row + column) / t) = f row := by
    intro column hcolumn
    rw [Nat.mul_add_div ht, Nat.div_eq_of_lt (List.mem_range.mp hcolumn), Nat.add_zero]
  rw [show ((fun i => f (i / t)) ∘ fun column => t * row + column) = fun column => f ((t * row + column) / t) from rfl,
    List.map_congr_left hrow, List.map_const', List.length_range]

/-! ### Renderings of cells -/

section Renderings
variable (cells : Array Int)

/-- The lit points of an array of cells. -/
def pointsOf : Except HostError (List (Fin 32 × Fin 64)) := return (← ofCells cells).litPoints

def textOf (on off : String) : Except HostError String := return (← ofCells cells).text on off

/-- The image of an array of cells, in colours that are given by their parts. -/
def imageOf (scale : Int) (on off : List Int) : Except HostError (List (List Colour)) := do
  (← ofCells cells).imageOfParts scale on off

def litCell (n : Nat) : Bool := cells.getD n 0 != 0

end Renderings

/-- The number of the cell of a point. -/
def number (point : Fin 32 × Fin 64) : Nat := 64 * point.1 + point.2

/-- An image of 32 rows with 64 points, in which each point is a square with sides of length `t`. -/
def enlarged (lit : Nat → Bool) (t : Nat) (on off : Colour) : List (List Colour) :=
  (List.range (32 * t)).map fun i => (List.range (64 * t)).map fun j => if lit (64 * (i / t) + j / t) then on else off

/-- The cells of a text that are lit: those that show the character `on`, where the text is split at line breaks. -/
def read (on : Char) (text : String) : List Bool := (text.toList.splitOn '\n').flatten.map (· == on)

variable {cells : Array Int} {p : Picture}

theorem ofCells_of_ne (h : cells.size ≠ 2048) : ofCells cells = .error (.cellCount 2048 cells.size) := dif_neg h

theorem exists_ofCells (h : cells.size = 2048) : ∃ p, ofCells cells = .ok p := ⟨_, dif_pos h⟩

theorem lit_of_ofCells (h : ofCells cells = .ok p) (row : Fin 32) (column : Fin 64) :
    p.lit row column = litCell cells (64 * row + column) := by
  unfold ofCells at h
  split at h
  · rename_i hsize
    obtain rfl := Except.ok.inj h
    have hlt : 64 * row.val + column.val < cells.size := by
      rw [hsize, Frame.cellCount]
      omega
    simp [lit, ofVector, litCell, Array.getD, hlt]
  · cases h

theorem rows_of_ofCells (h : ofCells cells = .ok p) :
    p.rows = (List.range 32).map fun row => (List.range 64).map fun column => litCell cells (64 * row + column) := by
  have hrow (row : Fin 32) : (List.finRange 64).map (fun column => p.lit row column) =
      (List.range 64).map fun column => litCell cells (64 * row + column) := by
    simp only [lit_of_ofCells h]
    exact map_finRange 64 fun column => litCell cells (64 * row + column)
  unfold rows
  simp only [hrow]
  exact map_finRange 32 fun row => (List.range 64).map fun column => litCell cells (64 * row + column)

/-! ### Points -/

theorem number_litPoints (h : ofCells cells = .ok p) :
    p.litPoints.map number = (List.range 2048).filter (litCell cells) := by
  -- In a row the lit columns are counted off, here the lit ones among the cells of the row.
  have hrow (row : Fin 32) :
      (((List.finRange 64).filter fun column => p.lit row column).map fun column => (row, column)).map number =
        ((List.range 64).map fun column => 64 * row.val + column).filter (litCell cells) := by
    rw [← map_finRange 64 fun column => 64 * row.val + column, List.filter_map, List.map_map]
    simp only [lit_of_ofCells h]
    rfl
  rw [litPoints, List.map_flatMap, range_mul 32 64, List.filter_flatMap]
  simp only [hrow]
  rw [List.flatMap_def, List.flatMap_def,
    map_finRange 32 fun row => ((List.range 64).map fun column => 64 * row + column).filter (litCell cells)]

/-! ### Images -/

theorem coloured_of_ofCells (h : ofCells cells = .ok p) (scale : Int) (on off : Colour) :
    p.coloured scale ⟨on, off⟩ = enlarged (litCell cells) (max scale 1).toNat on off := by
  have hside : side scale = (max scale 1).toNat := by
    unfold side
    omega
  have hpos : 0 < (max scale 1).toNat := by omega
  -- First the points of each row are repeated and then the rows, each time by the same lemma.
  have hrow (row : Nat) : repeatEach (max scale 1).toNat
      (((List.range 64).map fun column => litCell cells (64 * row + column)).map fun lit => if lit then on else off) =
        (List.range (64 * (max scale 1).toNat)).map fun j =>
          if litCell cells (64 * row + j / (max scale 1).toNat) then on else off := by
    rw [List.map_map]
    exact repeatEach_map hpos 64 fun column => if litCell cells (64 * row + column) then on else off
  rw [coloured, hside, rows_of_ofCells h, List.map_map]
  simp only [Function.comp_def, hrow]
  exact repeatEach_map hpos 32 _

end Picture

namespace Colour

/-- The parts of a colour, each from 0 to 255. -/
def parts (c : Colour) : List Int := [c.red.toNat, c.green.toNat, c.blue.toNat]

theorem part_toNat (b : UInt8) : part b.toNat = .ok b := by
  have hlt : b.toNat < 256 := b.toNat_lt
  have hnarrow : ¬ ((b.toNat : Int) < -HostError.wide ∨ HostError.wide ≤ b.toNat) := by
    unfold HostError.wide
    omega
  have hrange : ¬ ((b.toNat : Int) < 0 ∨ 255 < (b.toNat : Int)) := by omega
  have hbyte : ((b.toNat : Int) % 2 ^ 8).toNat = b.toNat := by omega
  rw [part, if_neg hnarrow, if_neg hrange, UInt8.ofInt, hbyte, UInt8.ofNat_toNat]

theorem ofParts_parts (points : Nat) (c : Colour) : ofParts points c.parts = .ok c := by
  simp [ofParts, parts, part_toNat, bind, Except.bind, pure, Except.pure]

end Colour

namespace Picture
variable {cells : Array Int} {p : Picture}

theorem imageOf_of_ofCells (h : ofCells cells = .ok p) (scale : Int) (on off : Colour) :
    imageOf cells scale on.parts off.parts = p.image scale ⟨on, off⟩ := by
  simp [imageOf, h, imageOfParts, Colour.ofParts_parts, bind, Except.bind]

/-! ### Texts -/

theorem text_of_ofCells (h : ofCells cells = .ok p) (on off : String) :
    p.text on off = "\n".intercalate ((List.range 32).map fun row =>
      String.join ((List.range 64).map fun column => if litCell cells (64 * row + column) then on else off)) := by
  rw [text, rows_of_ofCells h, List.map_map]
  simp only [Function.comp_def, textLine, List.map_map]

theorem toList_textLine (on off : Char) (row : List Bool) :
    (textLine (.singleton on) (.singleton off) row).toList = row.map fun lit => if lit then on else off := by
  rw [textLine, String.toList_join, List.flatMap_map]
  have hpoint (lit : Bool) : (if lit then String.singleton on else .singleton off).toList = [if lit then on else off] := by
    cases lit <;> simp
  simp only [hpoint]
  exact List.map_eq_flatMap.symm

theorem rows_ne_nil (p : Picture) : p.rows ≠ [] := by
  unfold rows
  simp

/-- A text of two different characters is read back as the points that it was made of. -/
theorem read_text {on off : Char} (hne : on ≠ off) (hon : on ≠ '\n') (hoff : off ≠ '\n') (p : Picture) :
    read on (p.text (.singleton on) (.singleton off)) = p.rows.flatten := by
  have hlines : (p.text (.singleton on) (.singleton off)).toList =
      ['\n'].intercalate (p.rows.map fun row => row.map fun lit => if lit then on else off) := by
    rw [text, String.toList_intercalate, List.map_map]
    simp only [Function.comp_def, toList_textLine]
    rfl
  -- Neither character breaks a line, so the text is split where its lines were joined.
  have hunbroken : ∀ line ∈ p.rows.map fun row => row.map fun lit => if lit then on else off, '\n' ∉ line := by
    intro line hline hmem
    obtain ⟨row, -, rfl⟩ := List.mem_map.mp hline
    obtain ⟨lit, -, hlit⟩ := List.mem_map.mp hmem
    cases lit
    · exact hoff hlit
    · exact hon hlit
  have hpoint (lit : Bool) : ((if lit then on else off) == on) = lit := by
    cases lit
    · exact beq_eq_false_iff_ne.mpr hne.symm
    · exact beq_self_eq_true on
  rw [read, hlines, List.splitOn_intercalate _ hunbroken (by simpa using p.rows_ne_nil), List.map_flatten, List.map_map]
  simp [Function.comp_def, hpoint]

theorem flatten_rows (h : ofCells cells = .ok p) : p.rows.flatten = (List.range 2048).map (litCell cells) := by
  rw [rows_of_ofCells h, range_mul 32 64, List.map_flatMap, List.flatMap_def]
  simp only [List.map_map, Function.comp_def]

/-! ### All renderings -/

/-- The picture of an array in which a cell is lit if it is not zero: its points row by row, its image for any scale that
    fits into 64 bits and any two colours, and its text. A recorder shows its last frame in the colours of its scheme. -/
structure Shown (cells : Array Int) : Prop where
  points : ∃ points, pointsOf cells = .ok points ∧ points.map number = (List.range 2048).filter (litCell cells)
  image : ∀ (scale : Int) (on off : Colour), scale < HostError.wide →
    imageOf cells scale on.parts off.parts = .ok (enlarged (litCell cells) (max scale 1).toNat on off)
  tooLarge : ∀ (scale : Int) (on off : Colour), HostError.wide ≤ scale →
    imageOf cells scale on.parts off.parts = .error (.tooWide "long")
  recorded : ∀ (r : FrameRecorder (Array Int)) scale, r.lastFrame = some cells →
    r.coloured ofCells scale = imageOf cells scale r.scheme.lit.parts r.scheme.dark.parts
  text : ∀ on off, textOf cells on off = .ok ("\n".intercalate ((List.range 32).map fun row =>
    String.join ((List.range 64).map fun column => if litCell cells (64 * row + column) then on else off)))
  read : ∀ on off : Char, on ≠ off → on ≠ '\n' → off ≠ '\n' → ∃ text,
    textOf cells (.singleton on) (.singleton off) = .ok text ∧
      Picture.read on text = (List.range 2048).map (litCell cells)

/-- No picture is made of the array, whatever is asked for. -/
structure Refused (cells : Array Int) (e : HostError) : Prop where
  points : pointsOf cells = .error e
  image : ∀ scale on off, imageOf cells scale on off = .error e
  recorded : ∀ (r : FrameRecorder (Array Int)) scale, r.lastFrame = some cells → r.coloured ofCells scale = .error e
  text : ∀ on off, textOf cells on off = .error e

theorem refused_of_error {e : HostError} (h : ofCells cells = .error e) : Refused cells e where
  points := by
    rw [pointsOf, h]
    rfl
  image scale on off := by
    rw [imageOf, h]
    rfl
  recorded r scale hlast := by
    simp [FrameRecorder.coloured, hlast, h, bind, Except.bind]
  text on off := by
    rw [textOf, h]
    rfl

theorem shown_of_ofCells (h : ofCells cells = .ok p) : Shown cells where
  points := by
    refine ⟨p.litPoints, ?_, number_litPoints h⟩
    rw [pointsOf, h]
    rfl
  image scale on off hscale := by
    rw [imageOf_of_ofCells h, Picture.image, if_pos hscale, coloured_of_ofCells h]
  tooLarge scale on off hscale := by
    rw [imageOf_of_ofCells h, Picture.image, if_neg (Int.not_lt.mpr hscale)]
  recorded r scale hlast := by
    simp [imageOf_of_ofCells h, FrameRecorder.coloured, hlast, h, bind, Except.bind]
  text on off := by
    rw [textOf, h, ← text_of_ofCells h]
    rfl
  read on off hne hon hoff := by
    refine ⟨p.text (.singleton on) (.singleton off), ?_, ?_⟩
    · rw [textOf, h]
      rfl
    · rw [read_text hne hon hoff, flatten_rows h]

/-- All renderings of an array of 2048 cells show the same picture, and an array with another number of cells is a bad
    value for each of them. -/
theorem renderings_agree (cells : Array Int) :
    (cells.size = 2048 → Shown cells) ∧
      (cells.size ≠ 2048 → Refused cells (.cellCount 2048 cells.size) ∧
        (HostError.cellCount 2048 cells.size).category = .badValue) := by
  refine ⟨fun hsize => ?_, fun hsize => ⟨refused_of_error (ofCells_of_ne hsize), rfl⟩⟩
  obtain ⟨p, hp⟩ := exists_ofCells hsize
  exact shown_of_ofCells hp

/-- An array with cells of both signs. -/
def mixed : Array Int := Array.ofFn fun n : Fin 2048 => (n.val : Int) % 3 - 1

/-- In the last row of `mixed` the first cell is zero, the second one positive and the third one negative. -/
theorem renderings_agree_mixed :
    mixed.size = 2048 ∧
      imageOf mixed 2 (Colour.parts ⟨255, 176, 0⟩) (Colour.parts ⟨0, 0, 0⟩) =
        .ok (enlarged (litCell mixed) 2 ⟨255, 176, 0⟩ ⟨0, 0, 0⟩) ∧
      [1984, 1985, 1986].map (litCell mixed) = [false, true, true] ∧
      (∃ text, textOf mixed (.singleton 'o') (.singleton ' ') = .ok text ∧
        read 'o' text = (List.range 2048).map (litCell mixed)) ∧
      #[1, 0, -1].size ≠ 2048 ∧ imageOf #[1, 0, -1] 2 [300] [] = .error (.cellCount 2048 3) := by
  have hsize : mixed.size = 2048 := by simp [mixed]
  have hshort : #[(1 : Int), 0, -1].size ≠ 2048 := by decide
  have hshown : Shown mixed := (renderings_agree mixed).1 hsize
  have hcells : [1984, 1985, 1986].map (litCell mixed) = [false, true, true] := by simp [litCell, mixed]
  exact ⟨hsize, hshown.image 2 ⟨255, 176, 0⟩ ⟨0, 0, 0⟩ (by decide), hcells,
    hshown.read 'o' ' ' (by decide) (by decide) (by decide), hshort,
    ((renderings_agree #[1, 0, -1]).2 hshort).1.image 2 [300] []⟩

/-- A scale that does not fit into 64 bits with a sign gives no image, not even of dark cells. -/
theorem no_image_of_huge_scale :
    imageOf (Array.replicate 2048 0) 0x8000000000000000 [0, 255, 0] [0, 0, 0] = .error (.tooWide "long") ∧
      ¬ ∀ scale : Int, imageOf (Array.replicate 2048 0) scale [0, 255, 0] [0, 0, 0] =
        .ok (enlarged (litCell (Array.replicate 2048 0)) (max scale 1).toNat ⟨0, 255, 0⟩ ⟨0, 0, 0⟩) := by
  have hrefused : imageOf (Array.replicate 2048 0) 0x8000000000000000 [0, 255, 0] [0, 0, 0] =
      .error (.tooWide "long") := by
    obtain ⟨p, hp⟩ := exists_ofCells (Array.size_replicate (n := 2048) (v := (0 : Int)))
    exact (shown_of_ofCells hp).tooLarge 0x8000000000000000 ⟨0, 255, 0⟩ ⟨0, 0, 0⟩ (by decide)
  refine ⟨hrefused, fun hall => ?_⟩
  have hshown := hall 0x8000000000000000
  rw [hrefused] at hshown
  cases hshown

end Picture

/-! ### Lines of a frame -/

namespace Frame

/-- How a cell is shown in text. -/
def mark (b : Byte) : Char := if b = 0 then '.' else '#'

variable (f : Frame)

/-- A row of the screen in text. -/
def line (row : Nat) : String := String.ofList (((f.toList.drop (width * row)).take width).map mark)

def lines : List String := (List.range height).map f.line

variable {row column : Nat}

end Frame

end Chip8
