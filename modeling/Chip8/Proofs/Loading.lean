import Chip8.Proofs.MemoryRuns
import Chip8.Proofs.ProgramCounter

/-! Programs in memory. A program that fits comes to stand in the cells from the program counter on, and nothing else
    changes; fetching then gives its words back, one after the other, up to the end of the memory. So assembling a
    program, loading it and fetching its words are inverse to each other. -/

namespace Chip8

namespace Machine

/-! ### Fetching -/

/-- Fetches words one after the other. -/
def fetchAll (m : Machine) : Nat → List Word × Machine
  | 0 => ([], m)
  | n + 1 => (m.fetched :: (m.advance.fetchAll n).1, (m.advance.fetchAll n).2)

/-- The fetched words are those of the bytes from the program counter on, in the order of the memory. -/
theorem fetchAll_bytes (m : Machine) (n : Nat) :
    (m.fetchAll n).1.flatMap Word.bytes = m.memory.readRun m.pc.toNat (2 * n) := by
  induction n generalizing m with
  | zero => rfl
  | succ n ih =>
    have hpc : m.advance.pc.toNat = (m.pc.toNat + 2) % 4096 := toNat_next m.pc
    have hrest : (m.advance.fetchAll n).1.flatMap Word.bytes = m.memory.readRun (m.pc.toNat + 2) (2 * n) := by
      rw [ih, hpc]
      exact Memory.readRun_mod _ _ _
    show m.fetched.bytes ++ (m.advance.fetchAll n).1.flatMap Word.bytes = _
    rw [hrest, fetched, Memory.readWord, Word.bytes_ofBytes, Nat.mul_succ, Memory.readRun_succ, Memory.readRun_succ]
    rfl

/-- Fetching moves the program counter alone. -/
theorem fetchAll_machine {m : Machine} (hp : m.pc.toNat < 4096) (n : Nat) :
    (m.fetchAll n).2 = { m with pc := UInt16.ofNat ((m.pc.toNat + 2 * n) % 4096) } := by
  induction n generalizing m with
  | zero =>
    have hpc : UInt16.ofNat ((m.pc.toNat + 2 * 0) % 4096) = m.pc := by
      rw [Nat.mul_zero, Nat.add_zero, Nat.mod_eq_of_lt hp, UInt16.ofNat_toNat]
    rw [hpc]
    rfl
  | succ n ih =>
    have hpc : m.advance.pc.toNat = (m.pc.toNat + 2) % 4096 := toNat_next m.pc
    have hend : (m.advance.pc.toNat + 2 * n) % 4096 = (m.pc.toNat + 2 * (n + 1)) % 4096 := by omega
    show (m.advance.fetchAll n).2 = _
    rw [ih (by omega), hend]
    rfl

/-! ### Loading -/

/-- The machine `m'` is `m` with the program in the cells from the program counter on. -/
structure Loaded (m : Machine) (program : Program) (m' : Machine) : Prop where
  inside : ∀ (a : Address) (i : Nat) (hi : i < program.length), a.val = m.pc.toNat + i →
    m'.memory.get a = program[i]
  outside : ∀ a : Address, (∀ i < program.length, a.val ≠ m.pc.toNat + i) → m'.memory.get a = m.memory.get a
  others : m' = { m with memory := m'.memory }

variable {m : Machine} {program : Program}

theorem loadProgram_of_fits (hfits : m.pc.toNat + program.length ≤ 4096) :
    m.loadProgram program = .ok { m with memory := m.memory.writeRun m.pc.toNat program } := by
  refine loadProgram_eq_ok.mpr ⟨?_, rfl⟩
  simp only [capacity, Memory.cellCount]
  omega

theorem loadProgram_of_not_fits (hp : m.pc.toNat < 4096) (hfits : 4096 - m.pc.toNat < program.length) :
    m.loadProgram program = .error (.programTooLarge program.length (4096 - m.pc.toNat)) := by
  unfold loadProgram
  refine if_neg ?_
  simp only [capacity, Memory.cellCount]
  omega

theorem loaded_writeRun (hfits : m.pc.toNat + program.length ≤ 4096) :
    m.Loaded program { m with memory := m.memory.writeRun m.pc.toNat program } where
  inside a i hi ha := by
    have hcell : a = Memory.cell (m.pc.toNat + i) := by
      rw [Memory.cell_eq_iff]
      omega
    subst hcell
    exact Memory.read_writeRun (by omega) hi
  outside a ha := by
    refine Memory.get_writeRun_of_ne fun i hi heq => ha i hi ?_
    rw [Memory.cell_eq_iff] at heq
    omega
  others := rfl

/-- After loading, fetching gives the bytes of the program. -/
theorem fetchAll_bytes_of_loaded {n : Nat} (hlen : program.length = 2 * n) (hfits : m.pc.toNat + program.length ≤ 4096) :
    (fetchAll { m with memory := m.memory.writeRun m.pc.toNat program } n).1.flatMap Word.bytes = program := by
  rw [fetchAll_bytes, ← hlen]
  exact Memory.readRun_writeRun (by omega)

theorem fetchAll_of_assembled {ws : List Int} (hfits : m.pc.toNat + (Program.assemble ws).length ≤ 4096) :
    (fetchAll { m with memory := m.memory.writeRun m.pc.toNat (Program.assemble ws) } ws.length).1 = ws.map Word.ofInt := by
  refine Word.flatMap_bytes_inj ?_
  rw [fetchAll_bytes_of_loaded (Program.assemble_length ws) hfits, Program.assemble_eq]

/-- A machine that fetches from within its memory takes a program exactly if it fits behind the program counter, and
    then has its bytes there and nowhere else. Of numbers that were assembled and loaded the words are fetched back in
    order, and the words that are fetched assemble to the program that was loaded. -/
theorem assemble_load_fetch (m : Machine) (hp : m.pc.toNat < 4096) :
    (∀ ws : List Int, 4096 - m.pc.toNat < 2 * ws.length →
      m.loadProgram (Program.assemble ws) = .error (.programTooLarge (2 * ws.length) (4096 - m.pc.toNat)) ∧
        ∀ (H : Type) (c : Computer H), c.machine = m → (c.load (Program.assemble ws)).2 = c) ∧
      (∀ ws : List Int, 2 * ws.length ≤ 4096 - m.pc.toNat → ∃ m', m.loadProgram (Program.assemble ws) = .ok m' ∧
        m.Loaded (Program.assemble ws) m' ∧
          (m'.fetchAll ws.length).1.map (fun w => (w.toNat : Int)) = ws.map (· % 65536) ∧
            ∀ k, (m'.fetchAll k).2 = { m' with pc := UInt16.ofNat ((m.pc.toNat + 2 * k) % 4096) }) ∧
        ∀ program : Program, program.length ≤ 4096 - m.pc.toNat → ∃ m', m.loadProgram program = .ok m' ∧
          m.Loaded program m' ∧ (program.length % 2 = 0 →
            Program.assemble ((m'.fetchAll (program.length / 2)).1.map fun w => (w.toNat : Int)) = program) := by
  refine ⟨fun ws hws => ?_, fun ws hws => ?_, fun program hfits => ?_⟩
  · have hlen : 4096 - m.pc.toNat < (Program.assemble ws).length := by rwa [Program.assemble_length]
    have herror := loadProgram_of_not_fits hp hlen
    rw [Program.assemble_length] at herror
    refine ⟨herror, ?_⟩
    rintro H c rfl
    unfold Computer.load
    rw [herror]
  · have hfits : m.pc.toNat + (Program.assemble ws).length ≤ 4096 := by
      rw [Program.assemble_length]
      omega
    refine ⟨_, loadProgram_of_fits hfits, loaded_writeRun hfits, ?_, fetchAll_machine hp⟩
    rw [fetchAll_of_assembled hfits, List.map_map]
    exact List.map_congr_left fun n _ => Word.toNat_ofInt n
  · have hfits : m.pc.toNat + program.length ≤ 4096 := by omega
    refine ⟨_, loadProgram_of_fits hfits, loaded_writeRun hfits, fun heven => ?_⟩
    rw [Program.assemble_toNat]
    exact fetchAll_bytes_of_loaded (by omega) hfits

/-- A machine that is four cells before the end of its memory. -/
def nearEnd : Machine := { initial with pc := 4092 }

/-- Two words fill the last four cells, and fetching starts over behind them; three words do not fit. -/
theorem assemble_load_fetch_at_end : nearEnd.pc.toNat < 4096 ∧
    nearEnd.loadProgram (Program.assemble [-1, 0x12345, 7]) = .error (.programTooLarge 6 4) ∧
      ∃ m', nearEnd.loadProgram (Program.assemble [-1, 0x12345]) = .ok m' ∧
        (m'.fetchAll 2).1.map (fun w => (w.toNat : Int)) = [0xFFFF, 0x2345] ∧ (m'.fetchAll 2).2.pc = 0 := by
  have hp : nearEnd.pc.toNat < 4096 := by decide
  obtain ⟨hlarge, hfits, -⟩ := assemble_load_fetch nearEnd hp
  obtain ⟨m', hm, -, hwords, hfetched⟩ := hfits [-1, 0x12345] (by decide)
  refine ⟨hp, (hlarge [-1, 0x12345, 7] (by decide)).1, m', hm, hwords, ?_⟩
  rw [hfetched 2]
  rfl

end Machine

end Chip8
