import Chip8.Memory

/-! Runs of memory cells. A run that is written wraps around at the end of the memory; as long as it is no longer than
    the memory, its bytes come to stand in different cells, so that each is read back, and the cells that it does not
    reach keep theirs. -/

namespace Chip8.Memory
variable {mem : Memory} {a : Nat} {bs : List Byte} {p : Address}

theorem cell_val (a : Nat) : (cell a).val = a % 4096 := rfl

theorem cell_eq_iff {a : Nat} : p = cell a ↔ p.val = a % 4096 := Fin.ext_iff

theorem read_write_self (a : Nat) (b : Byte) : (mem.write a b).read a = b := Vector.getElem_set_self _

theorem get_write_of_ne {b : Byte} (h : p ≠ cell a) : (mem.write a b).get p = mem.get p :=
  Vector.getElem_set_ne _ _ fun heq => h (Fin.ext heq.symm)

/-- A cell that the run does not reach keeps its byte. -/
theorem get_writeRun_of_ne (h : ∀ k < bs.length, p ≠ cell (a + k)) : (mem.writeRun a bs).get p = mem.get p := by
  induction bs generalizing mem a with
  | nil => rfl
  | cons b bs ih =>
    have hfirst : p ≠ cell a := h 0 (Nat.succ_pos _)
    have hrest : ∀ k < bs.length, p ≠ cell (a + 1 + k) := by
      intro k hk
      rw [Nat.add_assoc, Nat.add_comm 1 k]
      exact h (k + 1) (Nat.succ_lt_succ hk)
    exact (ih hrest).trans (get_write_of_ne hfirst)

/-- Each byte of a run that fits into the memory is read back. -/
theorem read_writeRun (hlen : bs.length ≤ 4096) {k : Nat} (hk : k < bs.length) :
    (mem.writeRun a bs).read (a + k) = bs[k] := by
  induction bs generalizing mem a k with
  | nil => cases hk
  | cons b bs ih =>
    rw [List.length_cons] at hlen hk
    cases k with
    | zero =>
      -- The rest of the run is too short to come round to the first cell again.
      have hrest : ∀ k < bs.length, cell a ≠ cell (a + 1 + k) := by
        intro k hk heq
        have := Fin.val_eq_of_eq heq
        simp only [cell_val] at this
        omega
      exact (get_writeRun_of_ne hrest).trans (read_write_self a b)
    | succ k =>
      rw [show a + (k + 1) = a + 1 + k by omega]
      exact ih (by omega) (by omega)

theorem readRun_succ (mem : Memory) (a n : Nat) : mem.readRun a (n + 1) = mem.read a :: mem.readRun (a + 1) n := by
  simp only [readRun, List.range_succ_eq_map, List.map_cons, List.map_map, Nat.add_zero]
  congr 2
  funext k
  rw [Function.comp_apply, Nat.succ_eq_add_one, Nat.add_comm k 1, Nat.add_assoc]

/-- A run may be told by any address of its first cell. -/
theorem readRun_mod (mem : Memory) (a n : Nat) : mem.readRun (a % 4096) n = mem.readRun a n := by
  have hcell (k : Nat) : cell (a % 4096 + k) = cell (a + k) := Fin.ext (Nat.mod_add_mod a 4096 k)
  simp only [readRun, read, hcell]

theorem writeRun_mod (mem : Memory) (a : Nat) (bs : List Byte) : mem.writeRun (a % 4096) bs = mem.writeRun a bs := by
  induction bs generalizing mem a with
  | nil => rfl
  | cons b bs ih =>
    have hcell : cell (a % 4096) = cell a := Fin.ext (Nat.mod_mod a 4096)
    have hwrite : mem.write (a % 4096) b = mem.write a b := by simp only [write, hcell]
    show (mem.write (a % 4096) b).writeRun (a % 4096 + 1) bs = (mem.write a b).writeRun (a + 1) bs
    rw [hwrite, ← ih _ (a % 4096 + 1), ← ih _ (a + 1), Nat.mod_add_mod]

theorem readRun_length (a n : Nat) : (mem.readRun a n).length = n := by
  simp [readRun]

theorem getElem_readRun {k n : Nat} (hk : k < (mem.readRun a n).length) : (mem.readRun a n)[k] = mem.read (a + k) := by
  simp [readRun]

theorem readRun_writeRun (hlen : bs.length ≤ 4096) : (mem.writeRun a bs).readRun a bs.length = bs := by
  apply List.ext_getElem
  · exact readRun_length a _
  · intro k _ hk
    rw [getElem_readRun]
    exact read_writeRun hlen hk

end Chip8.Memory
