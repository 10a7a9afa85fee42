import Chip8.Device.FrameRecorder
import Chip8.Device.KeyScript
import Chip8.Device.NumberSources
import Chip8.Device.SilentBeeper
import Chip8.Proofs.Parts

/-! Registers in memory. A dump puts the registers from `V0` to `VX` into the cells from the index on, and a load takes
    them back; both wrap around at the end of the memory, where a window of at most sixteen cells never meets itself.
    What follows from the two is proved from `Dumps` and `Loads` alone. -/

namespace Chip8

namespace Machine
variable {H : Type} [Host H] {m m' m₁ m₂ : Machine} {x : Register} {w : Word}

/-! ### Windows -/

theorem length_registersUpTo (m : Machine) (x : Register) : (m.registersUpTo x).length = x + 1 := by
  have := x.isLt
  rw [registersUpTo, List.length_take, Vector.length_toList]
  omega

theorem getElem_registersUpTo {k : Register} (hk : k.val < (m.registersUpTo x).length) :
    (m.registersUpTo x)[k.val] = m.v.get k := by
  simp only [registersUpTo, List.getElem_take, Vector.getElem_toList]
  rfl

/-- The registers up to `x` are written from the index on, and nothing else is changed. -/
structure Dumps (m m' : Machine) (x : Register) : Prop where
  written : ∀ k ≤ x, m'.memory.read (m.i.toNat + k) = m.v.get k
  kept : ∀ p, (∀ k ≤ x, p ≠ Memory.cell (m.i.toNat + k)) → m'.memory.get p = m.memory.get p
  others : m' = { m with memory := m'.memory }

/-- The registers up to `x` are read from the index on, and nothing else is changed. -/
structure Loads (m m' : Machine) (x : Register) : Prop where
  loaded : ∀ k ≤ x, m'.v.get k = m.memory.read (m.i.toNat + k)
  kept : ∀ k, x < k → m'.v.get k = m.v.get k
  others : m' = { m with v := m'.v }

theorem dump_dumps (m : Machine) (x : Register) : m.Dumps (m.dump (m.registersUpTo x)) x where
  written k hk := by
    have hlen := m.length_registersUpTo x
    have hx := x.isLt
    have hk : k.val < (m.registersUpTo x).length := by
      rw [hlen]
      exact Nat.lt_succ_of_le hk
    exact (Memory.read_writeRun (by omega) hk).trans (getElem_registersUpTo hk)
  kept p hp := by
    refine Memory.get_writeRun_of_ne fun k hk => ?_
    rw [length_registersUpTo] at hk
    exact hp ⟨k, by omega⟩ (Nat.le_of_lt_succ hk)
  others := rfl

theorem loadRegisters_loads (m : Machine) (x : Register) : m.Loads (m.loadRegisters x) x where
  loaded _ hk := loadRegisters_of_le hk
  kept _ hk := loadRegisters_of_lt hk
  others := rfl

/-- A cell is reached by a dump and holds the register that it is reached with, or it is not reached and kept. -/
theorem Dumps.cases (h : m.Dumps m' x) (p : Address) :
    (∃ k ≤ x, p = Memory.cell (m.i.toNat + k) ∧ m'.memory.get p = m.v.get k) ∨
      ((∀ k ≤ x, p ≠ Memory.cell (m.i.toNat + k)) ∧ m'.memory.get p = m.memory.get p) := by
  by_cases hp : ∃ k ≤ x, p = Memory.cell (m.i.toNat + k)
  · obtain ⟨k, hk, rfl⟩ := hp
    exact Or.inl ⟨k, hk, rfl, h.written k hk⟩
  · have hp : ∀ k ≤ x, p ≠ Memory.cell (m.i.toNat + k) := fun k hk heq => hp ⟨k, hk, heq⟩
    exact Or.inr ⟨hp, h.kept p hp⟩

/-! ### Dumps and loads -/

theorem Dumps.load (hdump : m.Dumps m₁ x) {v : Registers} (hload : Loads { m₁ with v } m₂ x) :
    ∀ k ≤ x, m₂.v.get k = m.v.get k := by
  intro k hk
  have hi : m₁.i = m.i := by rw [hdump.others]
  rw [hload.loaded k hk, ← hdump.written k hk, hi]

theorem Loads.dump (hload : m.Loads m₁ x) (hdump : m₁.Dumps m₂ x) : m₂.memory = m.memory := by
  have hi : m₁.i = m.i := by rw [hload.others]
  have hmemory : m₁.memory = m.memory := by rw [hload.others]
  have hcells (p : Address) : m₂.memory.get p = m.memory.get p := by
    rcases hdump.cases p with ⟨k, hk, rfl, hp⟩ | ⟨-, hp⟩
    · rw [hp, hload.loaded k hk, hi]
      rfl
    · rw [hp, hmemory]
  exact Vector.ext fun a ha => hcells ⟨a, ha⟩

end Machine

/-! ### Two dumps -/

/-- A word that dumps registers, and the index and the registers that it finds. -/
structure Dump where
  word : Word
  stores : Form.store.Fits word
  index : UInt16
  registers : Registers

/-- No cell is in the windows of both dumps. -/
def Dump.Apart (a b : Dump) : Prop :=
  ∀ j ≤ a.word.x, ∀ k ≤ b.word.x, Memory.cell (a.index.toNat + j) ≠ Memory.cell (b.index.toNat + k)

instance (a b : Dump) : Decidable (a.Apart b) := inferInstanceAs (Decidable (∀ _, _ → ∀ _, _ → _ ≠ _))

namespace Machine
variable {H : Type} [Host H] {m m' m₁ m₂ : Machine}

/-- The machine with the index and the registers of a dump. -/
def prepare (m : Machine) (d : Dump) : Machine := { m with i := d.index, v := d.registers }

theorem Dumps.swap {a b : Dump} (hapart : a.Apart b) {m₃ m₄ : Machine} (ha : (m.prepare a).Dumps m₁ a.word.x)
    (hb : (m₁.prepare b).Dumps m₂ b.word.x) (hb' : (m.prepare b).Dumps m₃ b.word.x)
    (ha' : (m₃.prepare a).Dumps m₄ a.word.x) : m₂.memory = m₄.memory := by
  have hcells (p : Address) : m₂.memory.get p = m₄.memory.get p := by
    rcases ha.cases p with ⟨j, hj, rfl, hwritten⟩ | ⟨hout, hkept⟩
    · -- The other dump does not reach the cell, whether it comes first or second.
      have hsecond := hb.kept _ (hapart j hj)
      exact hsecond.trans (hwritten.trans (ha'.written j hj).symm)
    · have hsecond : m₄.memory.get p = m₃.memory.get p := ha'.kept p hout
      rw [hsecond]
      rcases hb.cases p with ⟨k, hk, rfl, hwritten⟩ | ⟨hout', hkept'⟩
      · exact hwritten.trans (hb'.written k hk).symm
      · exact hkept'.trans (hkept.trans (hb'.kept p hout').symm)
  exact Vector.ext fun a ha => hcells ⟨a, ha⟩

/-! ### Words -/

theorem execute_store (m : Machine) {w : Word} (hw : Form.store.Fits w) (h : H) :
    ∃ m', (m.execute w).run h = (.ok m', h) ∧ m.Dumps m' w.x :=
  ⟨_, execute_of_reads (.store hw) rfl h, m.dump_dumps w.x⟩

theorem execute_load (m : Machine) {w : Word} (hw : Form.load.Fits w) (h : H) :
    ∃ m', (m.execute w).run h = (.ok m', h) ∧ m.Loads m' w.x :=
  ⟨_, execute_of_reads (.load hw) rfl h, m.loadRegisters_loads w.x⟩

/-- Whatever the index, a dump and a load go through without asking the host for anything, and do nothing but what they
    are to do. A load after a dump restores the registers that were dumped, whatever became of them in between, and a
    dump after a load leaves the memory as it was. Two dumps into windows that have no cell in common leave the same
    memory in either order. -/
theorem dumps_and_loads (m : Machine) (h : H) :
    (∀ w, Form.store.Fits w → ∃ m', (m.execute w).run h = (.ok m', h) ∧ m.Dumps m' w.x) ∧
    (∀ w, Form.load.Fits w → ∃ m', (m.execute w).run h = (.ok m', h) ∧ m.Loads m' w.x) ∧
    (∀ w w', Form.store.Fits w → Form.load.Fits w' → w'.x = w.x →
      (∃ m₁, (m.execute w).run h = (.ok m₁, h) ∧ ∀ v, ∃ m₂, (execute { m₁ with v } w').run h = (.ok m₂, h) ∧
        ∀ k ≤ w.x, m₂.v.get k = m.v.get k) ∧
      ∃ m₁ m₂, (m.execute w').run h = (.ok m₁, h) ∧ (m₁.execute w).run h = (.ok m₂, h) ∧ m₂.memory = m.memory) ∧
    ∀ a b : Dump, a.Apart b → ∃ m₁ m₂ m₃ m₄,
      ((m.prepare a).execute a.word).run h = (.ok m₁, h) ∧ ((m₁.prepare b).execute b.word).run h = (.ok m₂, h) ∧
      ((m.prepare b).execute b.word).run h = (.ok m₃, h) ∧ ((m₃.prepare a).execute a.word).run h = (.ok m₄, h) ∧
        m₂.memory = m₄.memory := by
  refine ⟨fun w hw => m.execute_store hw h, fun w hw => m.execute_load hw h, fun w w' hw hw' hx => ⟨?_, ?_⟩,
    fun a b hapart => ?_⟩
  · obtain ⟨m₁, hrun, hdump⟩ := m.execute_store hw h
    refine ⟨m₁, hrun, fun v => ?_⟩
    obtain ⟨m₂, hrun', hload⟩ := execute_load { m₁ with v } hw' h
    rw [hx] at hload
    exact ⟨m₂, hrun', hdump.load hload⟩
  · obtain ⟨m₁, hrun, hload⟩ := m.execute_load hw' h
    obtain ⟨m₂, hrun', hdump⟩ := m₁.execute_store hw h
    rw [hx] at hload
    exact ⟨m₁, m₂, hrun, hrun', hload.dump hdump⟩
  · obtain ⟨m₁, hrun₁, ha⟩ := (m.prepare a).execute_store a.stores h
    obtain ⟨m₂, hrun₂, hb⟩ := (m₁.prepare b).execute_store b.stores h
    obtain ⟨m₃, hrun₃, hb'⟩ := (m.prepare b).execute_store b.stores h
    obtain ⟨m₄, hrun₄, ha'⟩ := (m₃.prepare a).execute_store a.stores h
    exact ⟨m₁, m₂, m₃, m₄, hrun₁, hrun₂, hrun₃, hrun₄, Dumps.swap hapart ha hb hb' ha'⟩

/-- A machine with the numbers from 1 to 16 in its registers and the last cell but one at its index. -/
def atTop : Machine := { initial with v := Vector.ofFn fun k => UInt8.ofNat (k + 1), i := 0xFFFE }

/-- A dump of all registers that comes round into the font. -/
def roundTop : Dump where
  word := 0xFF55
  stores := by decide
  index := 0xFFFE
  registers := atTop.v

/-- A dump of four registers behind the end of the other one. -/
def behindTop : Dump where
  word := 0xF355
  stores := by decide
  index := 0x100E
  registers := Vector.replicate 16 0xAA

/-- The window starts with the last two cells of the memory and goes on with the first fourteen. -/
theorem dumps_and_loads_atTop :
    let h : Devices (FrameRecorder Frame) SilentBeeper KeyScript ListSource :=
      { graphics := {}, audio := {}, keyboard := {}, numbers := ⟨[]⟩ }
    Form.store.Fits 0xFF55 ∧ Form.load.Fits 0xFF65 ∧
    (∃ m₁, (atTop.execute 0xFF55).run h = (.ok m₁, h) ∧ m₁.memory.read 0xFFE = 1 ∧ m₁.memory.read 13 = 16 ∧
      ∃ m₂, (execute { m₁ with v := Vector.replicate 16 0 } 0xFF65).run h = (.ok m₂, h) ∧ m₂.v.get 15 = 16) ∧
    roundTop.Apart behindTop ∧ ∃ m₁ m₂ m₃ m₄,
      ((atTop.prepare roundTop).execute roundTop.word).run h = (.ok m₁, h) ∧
      ((m₁.prepare behindTop).execute behindTop.word).run h = (.ok m₂, h) ∧
      ((atTop.prepare behindTop).execute behindTop.word).run h = (.ok m₃, h) ∧
      ((m₃.prepare roundTop).execute roundTop.word).run h = (.ok m₄, h) ∧ m₂.memory = m₄.memory := by
  intro h
  obtain ⟨hstore, -, hrestore, hswap⟩ := atTop.dumps_and_loads h
  have hw : Form.store.Fits 0xFF55 := by decide
  have hw' : Form.load.Fits 0xFF65 := by decide
  have hapart : roundTop.Apart behindTop := by decide
  obtain ⟨m₁, hrun, hdump⟩ := hstore _ hw
  obtain ⟨m₁', hrun', hload⟩ := (hrestore _ _ hw hw' rfl).1
  obtain rfl : m₁' = m₁ := Except.ok.inj (congrArg Prod.fst (hrun'.symm.trans hrun))
  obtain ⟨m₂, hrun₂, hkept⟩ := hload (Vector.replicate 16 0)
  refine ⟨hw, hw', ⟨m₁', hrun, ?_, ?_, m₂, hrun₂, ?_⟩, hapart, hswap _ _ hapart⟩
  · exact (hdump.written 0 (by decide)).trans (by decide)
  · exact (hdump.written 15 (by decide)).trans (by decide)
  · exact (hkept 15 (by decide)).trans (by decide)

end Machine

end Chip8
