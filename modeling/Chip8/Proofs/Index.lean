import Chip8.Device.FrameRecorder
import Chip8.Device.KeyScript
import Chip8.Device.NumberSources
import Chip8.Device.SilentBeeper
import Chip8.Proofs.Locality

/-! The index register. It holds sixteen bits, but the cells that an instruction reads or writes from it on are counted
    around the memory, and the sizes of both agree in their factor 4096. So only the low twelve bits of the index are
    ever to be seen, and a machine with an index of twelve bits would do the same. -/

namespace Chip8

namespace Machine

/-- The machines are the same but for their indices, whose low twelve bits are the same. -/
structure SameButIndex (m m' : Machine) : Prop where
  index : m'.i.toNat % 4096 = m.i.toNat % 4096
  others : m' = { m with i := m'.i }

variable {m m' : Machine} {i : UInt16}

/-! ### What is done at the index -/

section Cells
variable (h : i.toNat % 4096 = m.i.toNat % 4096)
include h

theorem read_index (k : Nat) : m.memory.read (i.toNat + k) = m.memory.read (m.i.toNat + k) := by
  have hcell : Memory.cell (i.toNat + k) = Memory.cell (m.i.toNat + k) := by
    rw [Memory.cell_eq_iff, Memory.cell_val]
    omega
  simp only [Memory.read, hcell]

theorem dump_index (bytes : List Byte) : dump { m with i } bytes = { m.dump bytes with i } := by
  have hrun : m.memory.writeRun i.toNat bytes = m.memory.writeRun m.i.toNat bytes := by
    rw [← Memory.writeRun_mod _ i.toNat, h, Memory.writeRun_mod]
  unfold dump
  rw [hrun]

theorem loadRegisters_index (x : Register) : loadRegisters { m with i } x = { m.loadRegisters x with i } := by
  unfold loadRegisters
  simp only [read_index h]

theorem drawSprite_index (x y : Register) (n : Nat) : drawSprite { m with i } x y n = { m.drawSprite x y n with i } := by
  have hsprite : sprite { m with i } x y n = m.sprite x y n := by
    unfold sprite Memory.readRun
    simp only [read_index h]
  unfold drawSprite
  rw [hsprite]

end Cells

theorem addIndex_mod (b : Byte) (h : i.toNat % 4096 = m.i.toNat % 4096) :
    (i + b.toUInt16).toNat % 4096 = (m.i + b.toUInt16).toNat % 4096 := by
  rw [UInt16.toNat_add, UInt16.toNat_add]
  omega

/-- What an instruction makes of the machine does not depend on the high bits of the index, which it may change. -/
theorem SameButIndex.perform (h : m.SameButIndex m') (ins : Instruction) (answer : Int) :
    Matches SameButIndex (ins.perform answer m) (ins.perform answer m') := by
  by_cases hsees : Part.index ∈ ins.sees m
  · obtain ⟨hindex, hothers⟩ := h
    generalize m'.i = i at hindex hothers
    subst hothers
    cases ins with
    | addIndex x => exact .ok ⟨addIndex_mod m.v[x] hindex, rfl⟩
    | draw x y n => exact .ok ⟨hindex, drawSprite_index hindex x y n⟩
    | decimal x => exact .ok ⟨hindex, dump_index hindex (decimalDigits m.v[x])⟩
    | store x => exact .ok ⟨hindex, dump_index hindex (m.registersUpTo x)⟩
    | load x => exact .ok ⟨by simpa only [loadRegisters] using hindex, loadRegisters_index hindex x⟩
    | skip condition => cases condition <;> simp [Instruction.sees, Condition.sees] at hsees
    | _ => simp [Instruction.sees] at hsees
  · have hbefore : SameBut (· = .index) m m' := sameBut_index_iff.mpr h.others
    have hseen : ∀ part ∈ ins.sees m, part.Kept 0 m m' :=
      fun part hpart => hbefore.kept part fun heq => hsees (heq ▸ hpart)
    refine (Instruction.perform_local hbefore.pc hseen answer).mono ?_
    rintro n n' ⟨hpc, hsettled⟩
    refine ⟨?_, sameBut_index_iff.mp (hbefore.of_settled hpc hsettled)⟩
    obtain hsame | ⟨hm, hm'⟩ := hsettled .index
    · exact congrArg (·.toNat % 4096) hsame
    · have hi : n.i = m.i := hm
      have hi' : n'.i = m'.i := hm'
      rw [hi, hi', h.index]

/-- Machines that differ in the high bits of the index go on to differ in nothing else. -/
theorem index_bisimulation : Bisimulation SameButIndex where
  pc h := by rw [h.others]
  fetched h := by
    rw [h.others]
    rfl
  keypad h := by rw [h.others]
  advance h := ⟨h.index, by rw [h.others]; rfl⟩
  perform ins answer h := h.perform ins answer
  finish keypad h := ⟨h.index, by rw [h.others]; rfl⟩
  load program h := by
    have hbefore := sameBut_index_iff.mpr h.others
    refine (loadProgram_local hbefore.pc (by rw [h.others]) program).mono ?_
    rintro _ _ ⟨memory, rfl, rfl⟩
    exact ⟨h.index, by rw [h.others]⟩

theorem index_showsAlike : ShowsAlike SameButIndex := by
  intro m m' h
  rw [h.others]
  exact ⟨rfl, rfl⟩

/-- The machine with the low twelve bits of its index. -/
def cutIndex (m : Machine) : Machine := { m with i := m.i &&& 0xFFF }

theorem SameButIndex.cutIndex (h : m.SameButIndex m') : m.SameButIndex m'.cutIndex where
  index := by
    have hmask : m'.cutIndex.i.toNat = m'.i.toNat &&& (2 ^ 12 - 1) := UInt16.toNat_and _ _
    rw [hmask, Nat.and_two_pow_sub_one_eq_mod, Nat.mod_mod, h.index]
  others := by
    unfold Machine.cutIndex
    rw [h.others]

end Machine

/-! ### Runs -/

namespace Computer
variable {H : Type}

/-- The computer with the low twelve bits of its index. -/
def cutIndex (c : Computer H) : Computer H := { c with machine := c.machine.cutIndex }

theorem Alike.cutIndex {c c' : Computer H} (h : Alike Machine.SameButIndex c c') :
    Alike Machine.SameButIndex c c'.cutIndex :=
  { h with machine := h.machine.cutIndex }

variable [Host H]

/-- Carries out the orders on a computer whose index keeps twelve bits. -/
def obeyAllCut (c : Computer H) : List Order → List Event × Computer H
  | [] => ([], c)
  | order :: orders =>
    let (event, c) := c.obey order
    let (events, c) := c.cutIndex.obeyAllCut orders
    (event :: events, c)

theorem obeyAllCut_cons (c : Computer H) (order : Order) (orders : List Order) :
    c.obeyAllCut (order :: orders) = ((c.obey order).1 :: ((c.obey order).2.cutIndex.obeyAllCut orders).1,
      ((c.obey order).2.cutIndex.obeyAllCut orders).2) := rfl

variable {c c' : Computer H}

theorem obeyAllCut_alike (h : Alike Machine.SameButIndex c c') (orders : List Order) :
    (c'.obeyAllCut orders).1 = (c.obeyAll orders).1 ∧
      Alike Machine.SameButIndex (c.obeyAll orders).2 (c'.obeyAllCut orders).2 := by
  induction orders generalizing c c' with
  | nil => exact ⟨rfl, h⟩
  | cons order orders ih =>
    obtain ⟨hevent, hnext⟩ := obey_alike Machine.index_bisimulation Machine.index_showsAlike h order
    -- Cutting the index is one more change that does not show.
    obtain ⟨hevents, hlast⟩ := ih hnext.cutIndex
    rw [obeyAllCut_cons, obeyAll_cons, hevent, hevents]
    exact ⟨rfl, hlast⟩

/-- Computers that are the same but for the high bits of their indices reply and fail alike to whatever is done with
    them, make the same calls, draw the same frames and print the same lines, and nothing but the high bits comes to
    differ. So it does in the run of a computer whose index keeps twelve bits. -/
theorem low_index_observed (h : Alike Machine.SameButIndex c c') (orders : List Order) :
    ((c'.obeyAll orders).1 = (c.obeyAll orders).1 ∧
      Alike Machine.SameButIndex (c.obeyAll orders).2 (c'.obeyAll orders).2) ∧
      (c'.obeyAllCut orders).1 = (c.obeyAll orders).1 ∧
        Alike Machine.SameButIndex (c.obeyAll orders).2 (c'.obeyAllCut orders).2 :=
  ⟨obeyAll_alike Machine.index_bisimulation Machine.index_showsAlike h orders, obeyAllCut_alike h orders⟩

/-- A computer about to add to its index, to write three digits there and to draw them. -/
def atIndex (i : UInt16) : Computer (Devices (FrameRecorder Frame) SilentBeeper KeyScript ListSource) :=
  let c := ((start { graphics := {}, audio := {}, keyboard := {}, numbers := ⟨[]⟩ }
    { name := "", threshold := some .debug, coloured := false, timestamps := false, startedAt := 0 } {}).load
      [0x60, 0x9F, 0xF0, 0x1E, 0xF0, 0x33, 0xD0, 0x05]).2
  { c with machine := { c.machine with i } }

/-- The one index goes past the end of the memory, the other one past the end of sixteen bits. -/
theorem low_index_observed_at_ends : Alike Machine.SameButIndex (atIndex 0x0FFF) (atIndex 0xFFFF) ∧
    ((atIndex 0x0FFF).obeyAll (List.replicate 4 .cycle)).2.machine.i = 0x109E ∧
      ((atIndex 0xFFFF).obeyAll (List.replicate 4 .cycle)).2.machine.i = 0x009E ∧
        ((atIndex 0xFFFF).obeyAll (List.replicate 4 .cycle)).1 = ((atIndex 0x0FFF).obeyAll (List.replicate 4 .cycle)).1 ∧
          ((atIndex 0xFFFF).obeyAllCut (List.replicate 4 .cycle)).1 =
            ((atIndex 0x0FFF).obeyAll (List.replicate 4 .cycle)).1 := by
  have h : Alike Machine.SameButIndex (atIndex 0x0FFF) (atIndex 0xFFFF) := ⟨⟨by decide, rfl⟩, rfl, rfl, rfl⟩
  obtain ⟨⟨hevents, -⟩, hcut, -⟩ := low_index_observed h (List.replicate 4 .cycle)
  exact ⟨h, by decide +kernel, by decide +kernel, hevents, hcut⟩

end Computer

end Chip8
