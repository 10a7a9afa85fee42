import Chip8.Proofs.Dumps

/-! Decimal digits in memory. A byte is written to three cells as its hundreds, tens and ones, which wrap around at the
    end of the memory like every run of cells; loaded back into registers the digits make up the byte again, and each of
    them leads to its glyph as long as the font is where it was. -/

namespace Chip8

/-! ### Digits -/

/-- The bytes are the three decimal digits of the number. -/
structure Decimals (n : Nat) (h t o : Byte) : Prop where
  hundreds : h.toNat ≤ 2
  tens : t.toNat ≤ 9
  ones : o.toNat ≤ 9
  value : 100 * h.toNat + 10 * t.toNat + o.toNat = n

theorem decimals_of_byte (b : Byte) : Decimals b.toNat (b / 100) (b / 10 % 10) (b % 10) := by
  have hb := b.toNat_lt
  have hhundreds : (b / 100).toNat = b.toNat / 100 := UInt8.toNat_div b 100
  have htens : (b / 10 % 10).toNat = b.toNat / 10 % 10 :=
    (UInt8.toNat_mod (b / 10) 10).trans (congrArg (· % 10) (UInt8.toNat_div b 10))
  have hones : (b % 10).toNat = b.toNat % 10 := UInt8.toNat_mod b 10
  constructor <;> omega

/-! ### Runs of cells -/

namespace Memory
variable {mem mem' : Memory} {a n : Nat}

theorem readRun_congr (h : ∀ k < n, mem'.read (a + k) = mem.read (a + k)) : mem'.readRun a n = mem.readRun a n := by
  unfold readRun
  exact List.map_congr_left fun k hk => h k (List.mem_range.mp hk)

/-- A part of a run is the run of its cells. -/
theorem take_drop_readRun {i k : Nat} (h : i + k ≤ n) : ((mem.readRun a n).drop i).take k = mem.readRun (a + i) k := by
  apply List.ext_getElem
  · simp only [List.length_take, List.length_drop, readRun_length]
    omega
  · intro j _ hj
    rw [List.getElem_take, List.getElem_drop, getElem_readRun, getElem_readRun, Nat.add_assoc]

/-- The font is where it is in a machine before its first instruction. -/
def HoldsFont (mem : Memory) : Prop := mem.readRun Font.start Font.data.length = Font.data

end Memory

/-- The rows of the glyph of a digit. -/
def Font.glyph (digit : Nat) : List Byte := (data.drop (glyphSize * digit)).take glyphSize

theorem Memory.HoldsFont.glyph {mem : Memory} (h : mem.HoldsFont) {digit : Nat} (hdigit : digit < 16) :
    mem.readRun (Font.glyphSize * digit) Font.glyphSize = Font.glyph digit := by
  have hlength : Font.data.length = 80 := by decide
  have hin : Font.glyphSize * digit + Font.glyphSize ≤ Font.data.length := by
    rw [hlength, Font.glyphSize]
    omega
  have hpart : ((mem.readRun Font.start Font.data.length).drop (Font.glyphSize * digit)).take Font.glyphSize =
      mem.readRun (Font.start + Font.glyphSize * digit) Font.glyphSize := take_drop_readRun hin
  rw [show mem.readRun Font.start Font.data.length = Font.data from h, Font.start, Nat.zero_add] at hpart
  exact hpart.symm

namespace Machine
variable {m m' m₁ m₂ m₃ : Machine} {w : Word} {x : Register}

/-! ### Words -/

/-- Whatever the host, which is left alone, the machine becomes `m'` when it executes the word. -/
def Becomes (m : Machine) (w : Word) (m' : Machine) : Prop :=
  ∀ {H : Type} [Host H] (h : H), (m.execute w).run h = (.ok m', h)

theorem becomes_of_reads {ins : Instruction} (hr : ins.Reads w) (hsilent : ins.request? = none)
    (hp : ins.perform 0 m = .ok m') : m.Becomes w m' := by
  intro H _ h
  rw [execute_of_reads hr hsilent h, hp]
  rfl

/-- The decimal digits of the register are written to the three cells from the index on, and nothing else is changed. -/
structure Expands (m m' : Machine) (x : Register) : Prop where
  digits : Decimals (m.v.get x).toNat (m'.memory.read m.i.toNat) (m'.memory.read (m.i.toNat + 1))
    (m'.memory.read (m.i.toNat + 2))
  kept : ∀ p, (∀ k < 3, p ≠ Memory.cell (m.i.toNat + k)) → m'.memory.get p = m.memory.get p
  others : m' = { m with memory := m'.memory }

theorem dump_expands (m : Machine) (x : Register) : m.Expands (m.dump (decimalDigits (m.v.get x))) x where
  digits := by
    obtain ⟨h, t, o, hdigits, hdecimals⟩ : ∃ h t o, decimalDigits (m.v.get x) = [h, t, o] ∧
      Decimals (m.v.get x).toNat h t o := ⟨_, _, _, rfl, decimals_of_byte _⟩
    have hread (k : Nat) (hk : k < [h, t, o].length) :
        (m.dump [h, t, o]).memory.read (m.i.toNat + k) = [h, t, o][k] :=
      Memory.read_writeRun (show [h, t, o].length ≤ 4096 from Nat.le_of_ble_eq_true rfl) hk
    have hfirst : (m.dump [h, t, o]).memory.read m.i.toNat = h := hread 0 (Nat.succ_pos 2)
    rw [hdigits, hfirst, hread 1 (Nat.lt_add_of_pos_left Nat.two_pos), hread 2 (Nat.lt_add_one 2)]
    exact hdecimals
  kept p hp := Memory.get_writeRun_of_ne hp
  others := rfl

theorem Expands.holdsFont (h : m.Expands m' x) (hfont : m.memory.HoldsFont)
    (hout : ∀ k < 3, Font.data.length ≤ (m.i.toNat + k) % 4096) : m'.memory.HoldsFont := by
  have hlength : Font.data.length = 80 := by decide
  refine (Memory.readRun_congr fun j hj => ?_).trans hfont
  refine h.kept _ fun k hk heq => ?_
  have hcell := Fin.val_eq_of_eq heq
  have hcells := hout k hk
  simp only [Memory.cell_val, Font.start] at hcell
  omega

/-- Registers that were loaded from the cells of the digits hold the digits. -/
theorem Expands.loaded (h : m.Expands m₁ x) (hmemory : m₂.memory = m₁.memory) (hi : m₂.i = m₁.i)
    (hload : m₂.Loads m₃ 2) : Decimals (m.v.get x).toNat (m₃.v.get 0) (m₃.v.get 1) (m₃.v.get 2) := by
  have hindex : m₂.i = m.i := by rw [hi, h.others]
  rw [hload.loaded 0 (by decide), hload.loaded 1 (by decide), hload.loaded 2 (by decide), hmemory, hindex]
  exact h.digits

/-- The index is at the glyph of the digit in the register, if the font is where it was. -/
theorem becomes_glyph (hw : Form.glyph.Fits w) (hfont : m.memory.HoldsFont) (hdigit : (m.v.get w.x).toNat < 16) :
    ∃ m', m.Becomes w m' ∧ m' = { m with i := m'.i } ∧
      m'.memory.readRun m'.i.toNat Font.glyphSize = Font.glyph (m.v.get w.x).toNat := by
  refine ⟨_, becomes_of_reads (.glyph hw) rfl rfl, rfl, ?_⟩
  have hi : (UInt16.ofNat (Font.start + Font.glyphSize * (m.v.get w.x).toNat)).toNat =
      Font.glyphSize * (m.v.get w.x).toNat := by
    rw [UInt16.toNat_ofNat', Font.start, Font.glyphSize]
    omega
  show m.memory.readRun (UInt16.ofNat (Font.start + Font.glyphSize * (m.v.get w.x).toNat)).toNat Font.glyphSize = _
  rw [hi]
  exact hfont.glyph hdigit

/-- A word of the form `FX33` goes through and leaves the digits of its register in memory. `F265` then loads them,
    whatever became of all but the memory and the index in between, and if the font was in its place and not under the
    digits, each of `F029`, `F129` and `F229` leads to the glyph of the digit in its register. -/
theorem digits_load_and_show (m : Machine) (hw : Form.decimal.Fits w) :
    ∃ m₁, m.Becomes w m₁ ∧ m.Expands m₁ w.x ∧
      ∀ m₂ : Machine, m₂.memory = m₁.memory → m₂.i = m₁.i → ∃ m₃ : Machine, m₂.Becomes 0xF265 m₃ ∧
        Decimals (m.v.get w.x).toNat (m₃.v.get 0) (m₃.v.get 1) (m₃.v.get 2) ∧
        (m.memory.HoldsFont → (∀ k < 3, Font.data.length ≤ (m.i.toNat + k) % 4096) →
          ∀ m₄ : Machine, m₄.memory = m₃.memory → m₄.v = m₃.v → ∀ w', Form.glyph.Fits w' → w'.x ≤ 2 →
            ∃ m₅ : Machine, m₄.Becomes w' m₅ ∧ m₅ = { m₄ with i := m₅.i } ∧
              m₅.memory.readRun m₅.i.toNat Font.glyphSize = Font.glyph (m₃.v.get w'.x).toNat) := by
  have hexpands := m.dump_expands w.x
  refine ⟨_, becomes_of_reads (.decimal hw) rfl rfl, hexpands, fun m₂ hmemory hi => ?_⟩
  have hload := m₂.loadRegisters_loads 2
  have hdecimals := hexpands.loaded hmemory hi hload
  refine ⟨m₂.loadRegisters 2, becomes_of_reads (.load (by decide)) rfl rfl, hdecimals, ?_⟩
  intro hfont hout m₄ hmemory₄ hv w' hw' hx
  have hfont₄ : m₄.memory.HoldsFont := by
    rw [hmemory₄, hload.others, hmemory]
    exact hexpands.holdsFont hfont hout
  have hdigit : (m₄.v.get w'.x).toNat < 16 := by
    have hfirst : ∀ r : Register, r ≤ 2 → r = 0 ∨ r = 1 ∨ r = 2 := by decide
    have hhundreds := hdecimals.hundreds
    have htens := hdecimals.tens
    have hones := hdecimals.ones
    rw [hv]
    obtain h | h | h := hfirst w'.x hx <;> rw [h] <;> omega
  rw [← hv]
  exact becomes_glyph hw' hfont₄ hdigit

/-- The digits of 207 go to the last three cells of the memory, and the index ends at the glyph of 7. -/
theorem digits_load_and_show_207 :
    let m : Machine := { initial with v := Vector.replicate 16 207, i := 0xFFFD }
    Form.decimal.Fits 0xF133 ∧ m.memory.HoldsFont ∧ (∀ k < 3, Font.data.length ≤ (m.i.toNat + k) % 4096) ∧
      Form.glyph.Fits 0xF229 ∧ ∃ m₁ m₃ m₅, m.Becomes 0xF133 m₁ ∧ m₁.Becomes 0xF265 m₃ ∧ m₃.Becomes 0xF229 m₅ ∧
        m₃.v.get 0 = 2 ∧ m₃.v.get 1 = 0 ∧ m₃.v.get 2 = 7 ∧
        m₅.memory.readRun m₅.i.toNat Font.glyphSize = [0xF0, 0x10, 0x20, 0x40, 0x40] := by
  intro m
  have hw : Form.decimal.Fits 0xF133 := by decide
  have hfont : m.memory.HoldsFont := by
    show Memory.initial.readRun Font.start Font.data.length = Font.data
    decide +kernel
  have hout : ∀ k < 3, Font.data.length ≤ (m.i.toNat + k) % 4096 := by decide
  have hw' : Form.glyph.Fits 0xF229 := by decide
  obtain ⟨m₁, hexpand, -, hnext⟩ := m.digits_load_and_show hw
  obtain ⟨m₃, hload, ⟨hh, ht, ho, hvalue⟩, hshow⟩ := hnext m₁ rfl rfl
  obtain ⟨m₅, hglyph, -, hrows⟩ := hshow hfont hout m₃ rfl rfl 0xF229 hw' (by decide)
  have hvalue : 100 * (m₃.v.get 0).toNat + 10 * (m₃.v.get 1).toNat + (m₃.v.get 2).toNat = 207 := hvalue
  have hhundreds : m₃.v.get 0 = 2 := UInt8.toNat_inj.mp (show (m₃.v.get 0).toNat = 2 by omega)
  have htens : m₃.v.get 1 = 0 := UInt8.toNat_inj.mp (show (m₃.v.get 1).toNat = 0 by omega)
  have hones : m₃.v.get 2 = 7 := UInt8.toNat_inj.mp (show (m₃.v.get 2).toNat = 7 by omega)
  refine ⟨hw, hfont, hout, hw', m₁, m₃, m₅, hexpand, hload, hglyph, hhundreds, htens, hones, ?_⟩
  rw [hrows, show Word.x 0xF229 = 2 from rfl, hones]
  rfl

end Machine

end Chip8
