import Chip8.Proofs.Parts
import Chip8.Proofs.Sprites

/-! Sprites drawn one after the other. A drawing puts the corner of a sprite into two registers and its first row under
    the index, and executes the word. Whatever was drawn before, it flips the cells of the sprite; so after any number
    of drawings a cell is flipped if an odd number of sprites covers it (`drawAll_flips`), whatever their order. -/

namespace Chip8

/-! ### Frames -/

namespace Frame
variable {b : Byte} {n k : Nat}

theorem flipped_flipped (b : Byte) (n k : Nat) : flipped (flipped b n) k = flipped b (n + k) := by
  induction n generalizing b with
  | zero => rw [Nat.zero_add]; rfl
  | succ n ih => rw [flipped_succ, ih, Nat.add_right_comm, flipped_succ]

theorem flipped_congr (h : n % 2 = k % 2) : flipped b n = flipped b k := by
  rw [flipped, flipped, h]

end Frame

/-! ### Drawings -/

/-- A sprite and where it is drawn: its corner, the index of its first row and its height. -/
structure Sprite where
  column : Byte
  row : Byte
  index : UInt16
  height : Fin 16
  deriving DecidableEq

/-- The cells under the set bits of the sprite, which is read from the memory. -/
def Sprite.cells (s : Sprite) (mem : Memory) : List (Fin 2048) :=
  Frame.spriteCells s.column.toNat s.row.toNat (mem.readRun s.index.toNat s.height)

theorem Sprite.nodup_cells (s : Sprite) (mem : Memory) : (s.cells mem).Nodup := by
  refine Frame.nodup_spriteCells ?_
  have := s.height.isLt
  rw [Memory.readRun_length]
  omega

/-- A word that draws a sprite, and what it finds in its two registers, which are not the same one, and as the index. -/
structure Drawing where
  word : Word
  draws : Form.draw.Fits word
  distinct : word.x ≠ word.y
  column : Byte
  row : Byte
  index : UInt16

/-- What is drawn, whichever registers it takes. -/
def Drawing.sprite (d : Drawing) : Sprite := ⟨d.column, d.row, d.index, d.word.n⟩

/-- How often the drawings cover a cell, with the memory that their sprites are read from. -/
def Drawing.covers (mem : Memory) (ds : List Drawing) (p : Fin 2048) : Nat :=
  (ds.map sprite).countP fun s => p ∈ s.cells mem

namespace Drawing
variable {mem : Memory} {ds ds' : List Drawing} {p : Fin 2048}

theorem covers_append (mem : Memory) (ds ds' : List Drawing) (p : Fin 2048) :
    covers mem (ds ++ ds') p = covers mem ds p + covers mem ds' p := by
  rw [covers, List.map_append, List.countP_append]
  rfl

/-- Drawings of the same sprites, in any order and by any registers, cover a cell equally often. -/
theorem covers_perm (h : (ds.map sprite).Perm (ds'.map sprite)) : covers mem ds p = covers mem ds' p := h.countP_eq _

end Drawing

namespace Machine
variable {H : Type} [Host H]

def place (m : Machine) (d : Drawing) : Machine :=
  { (m.setRegister d.word.x d.column).setRegister d.word.y d.row with i := d.index }

/-- Carries out the drawings one after the other. -/
def drawAll (m : Machine) (ds : List Drawing) : Attempt H Machine :=
  ds.foldlM (fun m d => (m.place d).execute d.word) m

/-- The drawings go through without a call of the host and leave the screen as `f`. -/
def Shows (m : Machine) (h : H) (ds : List Drawing) (f : Frame) : Prop :=
  ∃ m', (m.drawAll ds).run h = (.ok m', h) ∧ m'.frame = f

/-! ### Flips -/

section Flips
open Drawing (covers)

theorem sprite_place (m : Machine) (d : Drawing) :
    (m.place d).sprite d.word.x d.word.y d.word.n = d.sprite.cells m.memory := by
  have hx : (m.place d).v.get d.word.x = d.column :=
    (setRegister_of_ne d.distinct).trans (setRegister_self _ _ _)
  have hy : (m.place d).v.get d.word.y = d.row := setRegister_self _ _ _
  show Frame.spriteCells ((m.place d).v.get d.word.x).toNat ((m.place d).v.get d.word.y).toNat _ = _
  rw [hx, hy]
  rfl

theorem get_frame_place (m : Machine) (d : Drawing) (p : Fin 2048) :
    ((m.place d).drawSprite d.word.x d.word.y d.word.n).frame.get p =
      Frame.flipped (m.frame.get p) (covers m.memory [d] p) := by
  show (m.frame.draw ((m.place d).sprite d.word.x d.word.y d.word.n)).get p = _
  rw [Frame.get_draw, sprite_place, (d.sprite.nodup_cells m.memory).count, covers, List.map_singleton,
    List.countP_singleton]
  simp only [decide_eq_true_eq]

theorem drawAll_flips (m : Machine) (ds : List Drawing) (h : H) : ∃ m', (m.drawAll ds).run h = (.ok m', h) ∧
    m'.memory = m.memory ∧ ∀ p, m'.frame.get p = Frame.flipped (m.frame.get p) (covers m.memory ds p) := by
  -- Each drawing starts from the screen that the one before left, so the induction is for all machines.
  induction ds generalizing m with
  | nil => exact ⟨m, rfl, rfl, fun _ => rfl⟩
  | cons d ds ih =>
    obtain ⟨m', hrun, hmemory, hframe⟩ := ih ((m.place d).drawSprite d.word.x d.word.y d.word.n)
    refine ⟨m', (Attempt.run_bind_ok (execute_draw _ d.draws h)).trans hrun, hmemory, fun p => ?_⟩
    rw [hframe, get_frame_place, Frame.flipped_flipped]
    exact congrArg _ (Drawing.covers_append m.memory [d] ds p).symm

/-- Drawings that cover every cell alike, but for an even number, leave the same screen. -/
theorem shows_alike {ds ds' : List Drawing} (m : Machine) (h : H)
    (hcovers : ∀ p, covers m.memory ds p % 2 = covers m.memory ds' p % 2) : ∃ f, m.Shows h ds f ∧ m.Shows h ds' f := by
  obtain ⟨m₁, hrun₁, -, hframe₁⟩ := m.drawAll_flips ds h
  obtain ⟨m₂, hrun₂, -, hframe₂⟩ := m.drawAll_flips ds' h
  have hcells (p : Fin 2048) : m₂.frame.get p = m₁.frame.get p := by
    rw [hframe₁, hframe₂, Frame.flipped_congr (hcovers p)]
  exact ⟨m₁.frame, ⟨m₁, hrun₁, rfl⟩, m₂, hrun₂, Vector.ext fun k hk => hcells ⟨k, hk⟩⟩

theorem shows_frame {ds : List Drawing} (m : Machine) (h : H) (hcovers : ∀ p, covers m.memory ds p % 2 = 0) :
    m.Shows h ds m.frame := by
  have halike : ∃ f, m.Shows h ds f ∧ m.Shows h [] f := m.shows_alike h hcovers
  obtain ⟨f, hshows, m', hrun, rfl⟩ := halike
  cases hrun
  exact hshows

end Flips

/-- However sprites overlap and whatever their drawings find on the screen, each cell is flipped as often as they cover
    it. So the screen is the same in whatever order and by whichever registers they are drawn, and without any two
    drawings of the same sprite; and sprites that are all drawn twice leave it as it was. -/
theorem drawings_commute_and_cancel (m : Machine) (h : H) :
    (∀ ds, ∃ f, m.Shows h ds f ∧ ∀ p, f.get p = Frame.flipped (m.frame.get p) (Drawing.covers m.memory ds p)) ∧
    (∀ ds ds', (ds.map Drawing.sprite).Perm (ds'.map Drawing.sprite) → ∃ f, m.Shows h ds f ∧ m.Shows h ds' f) ∧
    (∀ before d between d' after, d'.sprite = d.sprite →
      ∃ f, m.Shows h (before ++ [d] ++ between ++ [d'] ++ after) f ∧ m.Shows h (before ++ between ++ after) f) ∧
    (∀ ds ds', (ds.map Drawing.sprite).Perm (ds'.map Drawing.sprite) → m.Shows h (ds ++ ds') m.frame) := by
  refine ⟨fun ds => ?_, fun ds ds' hperm => ?_, fun before d between d' after hsame => ?_, fun ds ds' hperm => ?_⟩
  · obtain ⟨m', hrun, -, hframe⟩ := m.drawAll_flips ds h
    exact ⟨m'.frame, ⟨m', hrun, rfl⟩, hframe⟩
  · exact m.shows_alike h fun p => by rw [Drawing.covers_perm hperm]
  · refine m.shows_alike h fun p => ?_
    have hboth : Drawing.covers m.memory [d'] p = Drawing.covers m.memory [d] p :=
      Drawing.covers_perm (by rw [List.map_singleton, hsame, List.map_singleton])
    simp only [Drawing.covers_append, hboth]
    omega
  · refine m.shows_frame h fun p => ?_
    rw [Drawing.covers_append, Drawing.covers_perm hperm]
    omega

/-- The glyph of `0` with its corner at the column 60 and the row 30, drawn by `V0` and `V1`. -/
def zeroAtEdge : Drawing where
  word := 0xD015
  draws := by decide
  distinct := by decide
  column := 60
  row := 30
  index := 0

/-- The same sprite, drawn by way of the flag register. -/
def zeroAgain : Drawing := { zeroAtEdge with word := 0xDF25, draws := by decide, distinct := by decide }

/-- The glyph of `8`, over the right lower part of that of `0`. -/
def eightOverlapping : Drawing where
  word := 0xD235
  draws := by decide
  distinct := by decide
  column := 62
  row := 32
  index := 40

/-- The sprites meet each other and wrap around. -/
theorem drawings_commute_and_cancel_overlapping :
    let h : Devices (FrameRecorder Frame) SilentBeeper KeyScript ListSource :=
      { graphics := {}, audio := {}, keyboard := {}, numbers := ⟨[]⟩ }
    ([zeroAtEdge, eightOverlapping].map Drawing.sprite).Perm ([eightOverlapping, zeroAgain].map Drawing.sprite) ∧
    ((initial.drawAll [zeroAtEdge, eightOverlapping]).run h).1.map (·.v.get Register.flag) = .ok 1 ∧
    (∃ f, initial.Shows h [zeroAtEdge, eightOverlapping] f ∧ initial.Shows h [eightOverlapping, zeroAgain] f) ∧
    zeroAgain.sprite = zeroAtEdge.sprite ∧
    (∃ f, initial.Shows h [zeroAtEdge, eightOverlapping, zeroAgain] f ∧ initial.Shows h [eightOverlapping] f) ∧
    initial.Shows h [zeroAtEdge, eightOverlapping, eightOverlapping, zeroAgain] initial.frame := by
  intro h
  obtain ⟨-, hcommute, hcancel, hrestore⟩ := initial.drawings_commute_and_cancel h
  have hperm : ([zeroAtEdge, eightOverlapping].map Drawing.sprite).Perm
      ([eightOverlapping, zeroAgain].map Drawing.sprite) := by decide
  have hsame : zeroAgain.sprite = zeroAtEdge.sprite := by decide
  exact ⟨hperm, by decide +kernel, hcommute _ _ hperm, hsame,
    hcancel [] zeroAtEdge [eightOverlapping] zeroAgain [] hsame, hrestore [_, _] [_, _] hperm⟩

end Machine

end Chip8
