import Chip8.Device.FrameRecorder
import Chip8.Device.KeyScript
import Chip8.Device.NumberSources
import Chip8.Device.SilentBeeper
import Chip8.Proofs.History
import Chip8.Proofs.MemoryRuns
import Mathlib.Data.List.Nodup

/-! Sprites, point by point. Drawing a list of cells flips each of them as often as it stands in the list (`get_draw`).
    The cells of a sprite are distinct, wherever its corner is and however far it wraps around, so it flips the cells
    under its set bits once and no other ones (`get_drawSprite`). -/

namespace Chip8

namespace Frame
variable {column row column' row' : Nat} {f : Frame} {p q : Fin 2048}

/-! ### Flips -/

/-- What a cell that holds `b` holds once it is flipped `n` times. -/
def flipped (b : Byte) (n : Nat) : Byte := if n % 2 = 1 then b ^^^ 1 else b

theorem flipped_succ (b : Byte) (n : Nat) : flipped b (n + 1) = flipped (b ^^^ 1) n := by
  have hodd : (n + 1) % 2 = 1 ↔ ¬ n % 2 = 1 := by omega
  unfold flipped
  by_cases hn : n % 2 = 1
  · rw [if_neg (mt hodd.mp (not_not_intro hn)), if_pos hn, UInt8.xor_assoc, UInt8.xor_self, UInt8.xor_zero]
  · rw [if_pos (hodd.mpr hn), if_neg hn]

theorem get_toggle_self : (f.toggle p).get p = f.get p ^^^ 1 := Vector.getElem_set_self _

theorem get_toggle_of_ne (h : p ≠ q) : (f.toggle p).get q = f.get q :=
  Vector.getElem_set_ne _ _ fun heq => h (Fin.ext heq)

theorem get_draw (f : Frame) (cells : List (Fin 2048)) (q : Fin 2048) :
    (f.draw cells).get q = flipped (f.get q) (cells.count q) := by
  induction cells generalizing f with
  | nil => rfl
  | cons p cells ih =>
    refine (ih (f.toggle p)).trans ?_
    by_cases h : p = q
    · subst h
      rw [List.count_cons_self, flipped_succ, get_toggle_self]
    · rw [List.count_cons_of_ne h, get_toggle_of_ne h]

/-! ### Cells of sprites -/

theorem cell_eq_iff : cell column row = cell column' row' ↔ column % 64 = column' % 64 ∧ row % 32 = row' % 32 := by
  rw [Fin.ext_iff, cell, cell]
  simp only [width, height]
  omega

theorem exists_cell (p : Fin 2048) : ∃ (column : Fin 64) (row : Fin 32), cell column row = p := by
  refine ⟨⟨p % 64, by omega⟩, ⟨p / 64, by omega⟩, Fin.ext ?_⟩
  simp only [cell, width, height]
  omega

theorem mem_rowCells_iff {b : Byte} : p ∈ rowCells b column row ↔
    ∃ k < 8, b.toNat.testBit (7 - k) = true ∧ cell (column + k) row = p := by
  simp [rowCells, and_assoc]

theorem mem_spriteCells_iff {rows : List Byte} : p ∈ spriteCells column row rows ↔
    ∃ j, ∃ hj : j < rows.length, p ∈ rowCells rows[j] column (row + j) := by
  induction rows generalizing row with
  | nil => simp [spriteCells]
  | cons b rows ih =>
    rw [spriteCells, List.mem_append, ih]
    constructor
    · rintro (hp | ⟨j, hj, hp⟩)
      · exact ⟨0, Nat.succ_pos _, hp⟩
      · exact ⟨j + 1, Nat.succ_lt_succ hj, by rwa [Nat.add_assoc, Nat.add_comm 1 j] at hp⟩
    · rintro ⟨_ | j, hj, hp⟩
      · exact Or.inl hp
      · exact Or.inr ⟨j, Nat.lt_of_succ_lt_succ hj, by rwa [Nat.add_assoc, Nat.add_comm 1 j]⟩

theorem nodup_rowCells (b : Byte) (column row : Nat) : (rowCells b column row).Nodup := by
  refine List.Nodup.map_on ?_ (List.nodup_range.filter _)
  intro k hk l hl h
  rw [cell_eq_iff] at h
  simp only [List.mem_filter, List.mem_range, spriteWidth] at hk hl
  omega

theorem nodup_spriteCells {rows : List Byte} (h : rows.length ≤ 32) : (spriteCells column row rows).Nodup := by
  induction rows generalizing row with
  | nil => exact List.nodup_nil
  | cons b rows ih =>
    rw [List.length_cons] at h
    -- What is left of the sprite is not high enough to come round to its first row.
    refine List.nodup_append'.mpr ⟨nodup_rowCells b column row, ih (by omega), ?_⟩
    intro p hfirst hrest
    obtain ⟨k, -, -, rfl⟩ := mem_rowCells_iff.mp hfirst
    obtain ⟨j, hj, hp⟩ := mem_spriteCells_iff.mp hrest
    obtain ⟨l, -, -, hcell⟩ := mem_rowCells_iff.mp hp
    have hrow := (cell_eq_iff.mp hcell).2
    omega

/-! ### Lit cells -/

theorem Binary.lit_iff (h : f.Binary) : f.lit p = true ↔ f.get p = 1 := by
  have hbit : f.get p = 0 ∨ f.get p = 1 := h.bits p
  show (f.get p &&& 1 == 1) = true ↔ _
  rcases hbit with hp | hp <;> rw [hp] <;> decide

end Frame

/-! ### Drawing -/

namespace Machine
variable {m : Machine} {x y : Register} {n : Nat} {column : Fin 64} {row : Fin 32}

/-- The sprite of height `n` at the index, with its corner at `VX` and `VY`, has a set bit over a cell. -/
def spriteBit (m : Machine) (x y : Register) (n : Nat) (column : Fin 64) (row : Fin 32) : Bool :=
  let dx := ((column : Int) - (m.v.get x).toNat) % 64
  let dy := ((row : Int) - (m.v.get y).toNat) % 32
  dx < 8 && dy < n && (m.memory.read (m.i.toNat + dy.toNat)).toNat.testBit (7 - dx.toNat)

theorem mem_sprite_iff {p : Fin 2048} : p ∈ m.sprite x y n ↔ ∃ j < n, ∃ k < 8,
    (m.memory.read (m.i.toNat + j)).toNat.testBit (7 - k) = true ∧
      Frame.cell ((m.v.get x).toNat + k) ((m.v.get y).toNat + j) = p := by
  simp only [sprite, Frame.mem_spriteCells_iff, Frame.mem_rowCells_iff, Memory.getElem_readRun, Memory.readRun_length,
    exists_prop]
  rfl

theorem cell_mem_sprite_iff (hn : n ≤ 32) :
    Frame.cell column row ∈ m.sprite x y n ↔ m.spriteBit x y n column row = true := by
  rw [mem_sprite_iff]
  simp only [spriteBit, Bool.and_eq_true, decide_eq_true_eq]
  generalize (m.v.get x).toNat = left
  generalize (m.v.get y).toNat = top
  have hcolumn := column.isLt
  have hrow := row.isLt
  -- There is one point of the sprite that can be over the cell, at the offset of the cell from the corner.
  constructor
  · rintro ⟨j, hj, k, hk, hbit, hcell⟩
    obtain ⟨hc, hr⟩ := Frame.cell_eq_iff.mp hcell
    have hdx : ((column : Int) - left) % 64 = k := by omega
    have hdy : ((row : Int) - top) % 32 = j := by omega
    rw [hdx, hdy]
    exact ⟨⟨by omega, by omega⟩, hbit⟩
  · rintro ⟨⟨hdx, hdy⟩, hbit⟩
    refine ⟨_, ?_, _, ?_, hbit, Frame.cell_eq_iff.mpr ⟨?_, ?_⟩⟩ <;> omega

theorem get_drawSprite (hn : n ≤ 32) : (m.drawSprite x y n).frame.get (Frame.cell column row) =
    m.frame.get (Frame.cell column row) ^^^ (m.spriteBit x y n column row).toUInt8 := by
  have hnodup : (m.sprite x y n).Nodup := Frame.nodup_spriteCells (by rwa [Memory.readRun_length])
  refine (Frame.get_draw _ _ _).trans ?_
  cases hbit : m.spriteBit x y n column row with
  | true =>
    rw [List.count_eq_one_of_mem hnodup ((cell_mem_sprite_iff hn).mpr hbit)]
    rfl
  | false =>
    have hmem : Frame.cell column row ∉ m.sprite x y n := by
      rw [cell_mem_sprite_iff hn, hbit]
      exact Bool.false_ne_true
    rw [List.count_eq_zero_of_not_mem hmem]
    exact UInt8.xor_zero.symm

/-- The sprite has a set bit over a lit cell. -/
def Meets (m : Machine) (x y : Register) (n : Nat) : Prop :=
  ∃ (column : Fin 64) (row : Fin 32), m.frame.get (Frame.cell column row) = 1 ∧ m.spriteBit x y n column row = true

theorem collides_iff (h : m.frame.Binary) (hn : n ≤ 32) : m.frame.collides (m.sprite x y n) = true ↔ m.Meets x y n := by
  rw [Frame.collides, List.any_eq_true]
  constructor
  · rintro ⟨p, hp, hlit⟩
    obtain ⟨column, row, rfl⟩ := Frame.exists_cell p
    exact ⟨column, row, h.lit_iff.mp hlit, (cell_mem_sprite_iff hn).mp hp⟩
  · rintro ⟨column, row, hlit, hbit⟩
    exact ⟨_, (cell_mem_sprite_iff hn).mpr hbit, h.lit_iff.mpr hlit⟩

theorem flag_drawSprite (h : m.frame.Binary) (hn : n ≤ 32) :
    ((m.drawSprite x y n).v.get Register.flag = 1 ↔ m.Meets x y n) ∧
      ((m.drawSprite x y n).v.get Register.flag = 0 ↔ ¬ m.Meets x y n) := by
  have hflag : (m.drawSprite x y n).v.get Register.flag = if m.frame.collides (m.sprite x y n) then 1 else 0 :=
    Vector.getElem_set_self _
  rw [hflag, ← collides_iff h hn]
  cases m.frame.collides (m.sprite x y n) <;> decide

theorem execute_draw {H : Type} [Host H] (m : Machine) {w : Word} (hw : Form.draw.Fits w) (h : H) :
    (m.execute w).run h = (.ok (m.drawSprite w.x w.y w.n), h) := execute_of_reads (.draw hw) rfl h

/-- A word that draws a sprite does so without asking the host for anything. Each cell of the screen is flipped if the
    sprite has a set bit over it and else kept, the flag register tells whether a set bit was over a lit cell, and
    nothing else changes. The corner is that of the registers before, also if one of them is the flag register. -/
theorem draw_by_point {H : Type} [Host H] {m : Machine} (hbinary : m.frame.Binary) {w : Word} (hw : Form.draw.Fits w)
    (h : H) : ∃ m', (m.execute w).run h = (.ok m', h) ∧
      (∀ (column : Fin 64) (row : Fin 32), m'.frame.get (Frame.cell column row) =
        m.frame.get (Frame.cell column row) ^^^ (m.spriteBit w.x w.y w.n column row).toUInt8) ∧
      (m'.v.get Register.flag = 1 ↔ m.Meets w.x w.y w.n) ∧ (m'.v.get Register.flag = 0 ↔ ¬ m.Meets w.x w.y w.n) ∧
      (∀ r : Register, r ≠ Register.flag → m'.v.get r = m.v.get r) ∧ m' = { m with frame := m'.frame, v := m'.v } := by
  have hn : w.n.val ≤ 32 := by
    have := w.n.isLt
    omega
  obtain ⟨hmet, hmissed⟩ := flag_drawSprite hbinary hn
  refine ⟨_, execute_draw m hw h, fun _ _ => get_drawSprite hn, hmet, hmissed, fun r hr => ?_, rfl⟩
  exact Vector.getElem_set_ne Register.flag.isLt r.isLt fun heq => hr (Fin.ext heq.symm)

/-- A machine whose index names the last cell of the memory, with one lit cell in the first row of the screen. -/
def corner : Machine :=
  { initial.setRegister Register.flag 62 with
    memory := initial.memory.write 4095 0x80
    frame := Frame.blank.toggle (Frame.cell 1 0)
    i := 0xFFFF }

/-- The rows of the sprite are the last byte of the memory and the first two; the last of them comes round to the lit
    cell. The flag register gives the corner, in both directions, before it tells that a lit cell was met. -/
theorem draw_by_point_corner :
    let h : Devices (FrameRecorder Frame) SilentBeeper KeyScript ListSource :=
      { graphics := {}, audio := {}, keyboard := {}, numbers := ⟨[]⟩ }
    corner.frame.Binary ∧ Form.draw.Fits 0xDFF3 ∧ ∃ m', (corner.execute 0xDFF3).run h = (.ok m', h) ∧
      m'.frame.get (Frame.cell 62 30) = 1 ∧ m'.frame.get (Frame.cell 1 0) = 0 ∧ m'.v.get Register.flag = 1 := by
  intro h
  have hbinary : corner.frame.Binary := Frame.blank_binary.toggle _
  have hfits : Form.draw.Fits 0xDFF3 := by decide
  obtain ⟨m', hrun, hframe, hmet, -⟩ := draw_by_point hbinary hfits h
  refine ⟨hbinary, hfits, m', hrun, (hframe 62 30).trans ?_, (hframe 1 0).trans ?_, hmet.mpr ⟨1, 0, ?_, ?_⟩⟩ <;>
    decide +kernel

end Machine

end Chip8
