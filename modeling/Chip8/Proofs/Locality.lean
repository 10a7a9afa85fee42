import Chip8.Device.FrameRecorder
import Chip8.Device.KeyScript
import Chip8.Device.NumberSources
import Chip8.Device.SilentBeeper
import Chip8.Proofs.Parts
import Chip8.Proofs.SideBySide

/-! What instructions see. The table of `Instruction.sees` gives the parts of a machine that an instruction looks at,
    and what it does depends on nothing else: on machines that are the same there it fails alike, or it leaves each
    part alone in both or makes it the same in both. So a cycle depends on no more of the memory than its own word, the
    rows of the sprite that it draws and the bytes that it loads. -/

namespace Chip8

/-! ### Parts of two machines -/

namespace Part
variable {m n k m' n' k' : Machine} {part : Part}

theorem Kept.symm (h : part.Kept 0 m m') : part.Kept 0 m' m := by
  cases part <;> exact Eq.symm h

/-- From `m` and `m'` to `n` and `n'` the part has become the same in both, or was left alone in both. -/
def Settled (part : Part) (m n m' n' : Machine) : Prop := part.Kept 0 n n' ∨ part.Kept 0 m n ∧ part.Kept 0 m' n'

namespace Settled

theorem kept (h : part.Settled m n m' n') (hbefore : part.Kept 0 m m') : part.Kept 0 n n' := by
  obtain hboth | ⟨hm, hm'⟩ := h
  · exact hboth
  · exact (hm.symm.trans hbefore).trans hm'

theorem trans (first : part.Settled m n m' n') (second : part.Settled n k n' k') : part.Settled m k m' k' := by
  obtain hboth | ⟨hn, hn'⟩ := second
  · exact .inl hboth
  obtain hboth | ⟨hm, hm'⟩ := first
  · exact .inl ((hn.symm.trans hboth).trans hn')
  · exact .inr ⟨hm.trans hn, hm'.trans hn'⟩

/-! ### Updates -/

theorem pc (pc pc' : UInt16) : part.Settled m { m with pc } m' { m' with pc := pc' } := .inr ⟨kept_pc pc, kept_pc pc'⟩

theorem setRegister (x : Register) (b : Byte) : part.Settled m (m.setRegister x b) m' (m'.setRegister x b) := by
  by_cases h : part = .register x
  · subst h
    exact .inl ((Machine.setRegister_self m' x b).trans (Machine.setRegister_self m x b).symm)
  · exact .inr ⟨kept_setRegister h, kept_setRegister h⟩

theorem dump {bytes : List Byte} (hlen : bytes.length ≤ 4096) (hi : m'.i = m.i) :
    part.Settled m (m.dump bytes) m' (m'.dump bytes) := by
  by_cases h : ∃ k < bytes.length, part = .cell (Memory.cell (m.i.toNat + k))
  · obtain ⟨k, hk, rfl⟩ := h
    have hread : (m.dump bytes).memory.read (m.i.toNat + k) = bytes[k] := Memory.read_writeRun hlen hk
    have hread' : (m'.dump bytes).memory.read (m.i.toNat + k) = bytes[k] := by
      rw [← hi]
      exact Memory.read_writeRun hlen hk
    exact .inl (hread'.trans hread.symm)
  · have hother : ∀ k < bytes.length, part ≠ .cell (Memory.cell (m.i.toNat + k)) := fun k hk heq => h ⟨k, hk, heq⟩
    refine .inr ⟨kept_writeRun hother, kept_writeRun ?_⟩
    rw [hi]
    exact hother

theorem compute {x y : Register} (op : Arithmetic) (hx : m'.v.get x = m.v.get x) (hy : m'.v.get y = m.v.get y)
    (hflag : m'.v.get Register.flag = m.v.get Register.flag) : part.Settled m (m.compute op x y) m' (m'.compute op x y) := by
  rw [Machine.compute_eq, Machine.compute_eq, hx, hy, hflag]
  exact .trans (.setRegister _ _) (.setRegister _ _)

theorem drawSprite {x y : Register} {rows : Nat} (hframe : m'.frame = m.frame)
    (hsprite : m'.sprite x y rows = m.sprite x y rows) :
    part.Settled m (m.drawSprite x y rows) m' (m'.drawSprite x y rows) := by
  unfold Machine.drawSprite
  rw [hframe, hsprite]
  -- The frame comes first, then the flag.
  have hdrawn : part.Settled m { m with frame := m.frame.draw (m.sprite x y rows) } m'
      { m' with frame := m.frame.draw (m.sprite x y rows) } := by
    cases part with
    | frame => exact .inl rfl
    | _ => exact .inr ⟨rfl, rfl⟩
  exact hdrawn.trans (.setRegister Register.flag _)

theorem loadRegisters {x : Register}
    (hread : ∀ r ≤ x, m'.memory.read (m'.i.toNat + r) = m.memory.read (m.i.toNat + r)) :
    part.Settled m (m.loadRegisters x) m' (m'.loadRegisters x) := by
  by_cases h : ∃ r ≤ x, part = .register r
  · obtain ⟨r, hr, rfl⟩ := h
    have hloaded : (m'.loadRegisters x).v.get r = (m.loadRegisters x).v.get r := by
      rw [Machine.loadRegisters_of_le hr, Machine.loadRegisters_of_le hr]
      exact hread r hr
    exact .inl hloaded
  · have hother : ∀ r, part = .register r → x < r := fun r heq => Fin.not_le.mp fun hr => h ⟨r, hr, heq⟩
    exact .inr ⟨kept_registers fun r heq => Machine.loadRegisters_of_lt (hother r heq),
      kept_registers fun r heq => Machine.loadRegisters_of_lt (hother r heq)⟩

end Settled
end Part

namespace Machine

/-- The machines are the same but for hidden parts. -/
structure SameBut (Hidden : Part → Prop) (m m' : Machine) : Prop where
  pc : m'.pc = m.pc
  kept : ∀ part, ¬ Hidden part → part.Kept 0 m m'

variable {Hidden : Part → Prop} {m n m' n' : Machine}

theorem SameBut.of_settled (h : SameBut Hidden m m') (hpc : n'.pc = n.pc)
    (hsettled : ∀ part : Part, part.Settled m n m' n') : SameBut Hidden n n' :=
  ⟨hpc, fun part hp => (hsettled part).kept (h.kept part hp)⟩

/-- The parts and the program counter are all there is to a machine. -/
theorem SameBut.eq (h : SameBut (fun _ => False) m m') : m' = m := by
  have hkept (part : Part) : part.Kept 0 m m' := h.kept part id
  have hpc : m'.pc = m.pc := h.pc
  have hmemory : m'.memory = m.memory := Vector.ext fun a ha => hkept (.cell ⟨a, ha⟩)
  have hv : m'.v = m.v := Vector.ext fun r hr => hkept (.register ⟨r, hr⟩)
  have hkeypad : m'.keypad = m.keypad := Vector.ext fun k hk => hkept (.key ⟨k, hk⟩)
  have hframe : m'.frame = m.frame := hkept .frame
  have hstack : m'.stack = m.stack := hkept .stack
  have hi : m'.i = m.i := hkept .index
  have hdelay : m'.delay = m.delay := UInt8.toNat_inj.mp (hkept .delay)
  have hsound : m'.sound = m.sound := UInt8.toNat_inj.mp (hkept .sound)
  cases m
  cases m'
  simp_all only

theorem sameBut_iff {left : Machine} (hpc : left.pc = m.pc) (hhidden : ∀ part, Hidden part → part.Kept 0 left m')
    (hothers : ∀ part, ¬ Hidden part → part.Kept 0 m left) : SameBut Hidden m m' ↔ m' = left := by
  constructor
  · intro h
    refine SameBut.eq ⟨h.pc.trans hpc.symm, fun part _ => ?_⟩
    by_cases hp : Hidden part
    · exact hhidden part hp
    · exact (hothers part hp).symm.trans (h.kept part hp)
  · rintro rfl
    exact ⟨hpc, hothers⟩

theorem sameBut_index_iff : SameBut (· = .index) m m' ↔ m' = { m with i := m'.i } := by
  refine sameBut_iff rfl (fun part hp => hp ▸ rfl) fun part hp => ?_
  cases part with
  | index => exact absurd rfl hp
  | _ => rfl

theorem sameBut_sound_iff : SameBut (· = .sound) m m' ↔ m' = { m with sound := m'.sound } := by
  refine sameBut_iff rfl (fun part hp => hp ▸ rfl) fun part hp => ?_
  cases part with
  | sound => exact absurd rfl hp
  | _ => rfl

theorem sameBut_cells_iff : SameBut (fun part => ∃ a, part = .cell a) m m' ↔ m' = { m with memory := m'.memory } := by
  refine sameBut_iff rfl (fun part ⟨a, hp⟩ => hp ▸ rfl) fun part hp => ?_
  cases part with
  | cell a => exact absurd ⟨a, rfl⟩ hp
  | _ => rfl

end Machine

/-! ### Sight -/

/-- The run of `n` cells from `a` on. -/
def Part.cells (a n : Nat) : List Part := (List.range n).map fun k => .cell (Memory.cell (a + k))

/-- The parts that the condition looks at. -/
def Condition.sees (condition : Condition) (m : Machine) : List Part :=
  match condition with
  | .equalsByte x _ | .differsFromByte x _ => [.register x]
  | .equalsRegister x y | .differsFromRegister x y => [.register x, .register y]
  | .keyDown x | .keyUp x => [.register x, .key (Key.ofInt (m.v.get x).toNat)]

/-- The parts that the instruction looks at. -/
def Instruction.sees (ins : Instruction) (m : Machine) : List Part :=
  match ins with
  | .clear | .jump _ | .set _ _ | .setIndex _ | .random _ _ | .waitKey _ => []
  | .ret | .call _ => [.stack]
  | .skip condition => condition.sees m
  | .add x _ | .setDelay x | .setSound x | .glyph x => [.register x]
  | .arithmetic _ x y => [.register x, .register y, .register Register.flag]
  | .jumpFromV0 _ => [.register 0]
  | .draw x y n => [.frame, .index, .register x, .register y] ++ Part.cells m.i.toNat n
  | .getDelay _ => [.delay]
  | .addIndex x | .decimal x => [.index, .register x]
  | .store x => .index :: ((List.finRange 16).filter (· ≤ x)).map .register
  | .load x => .index :: Part.cells m.i.toNat (x + 1)

section Sight
variable {m m' : Machine}

theorem Part.read_of_cells {a n k : Nat} (h : ∀ part ∈ cells a n, part.Kept 0 m m') (hk : k < n) :
    m'.memory.read (a + k) = m.memory.read (a + k) := h _ (List.mem_map.mpr ⟨k, List.mem_range.mpr hk, rfl⟩)

theorem Condition.holds_local {condition : Condition} (h : ∀ part ∈ condition.sees m, part.Kept 0 m m') :
    condition.holds m' = condition.holds m := by
  cases condition with
  | equalsByte x nn | differsFromByte x nn =>
    have hx : m'.v[x] = m.v[x] := h (.register x) (by simp [sees])
    simp only [holds, hx]
  | equalsRegister x y | differsFromRegister x y =>
    have hx : m'.v[x] = m.v[x] := h (.register x) (by simp [sees])
    have hy : m'.v[y] = m.v[y] := h (.register y) (by simp [sees])
    simp only [holds, hx, hy]
  | keyDown x | keyUp x =>
    have hx : m'.v[x] = m.v[x] := h (.register x) (by simp [sees])
    have hkey : m'.keypad[Key.ofInt m.v[x].toNat] = m.keypad[Key.ofInt m.v[x].toNat] :=
      h (.key (Key.ofInt (m.v.get x).toNat)) (by simp [sees])
    simp only [holds, hx, hkey]

theorem Machine.registersUpTo_local {x : Register} (h : ∀ r ≤ x, m'.v.get r = m.v.get r) :
    m'.registersUpTo x = m.registersUpTo x := by
  refine List.ext_getElem (by simp [registersUpTo]) fun k hk _ => ?_
  have hlt : k < min (x.val + 1) 16 := by simpa [registersUpTo] using hk
  have hle : (⟨k, by omega⟩ : Register) ≤ x := Fin.le_def.mpr (by simp only; omega)
  have hregister : m'.v[k] = m.v[k] := h _ hle
  simpa [registersUpTo] using hregister

/-- What an instruction does, but for what it leaves alone, is decided by the parts that it looks at. -/
theorem Instruction.perform_local {ins : Instruction} (hpc : m'.pc = m.pc)
    (hsees : ∀ part ∈ ins.sees m, part.Kept 0 m m') (answer : Int) :
    Matches (fun n n' => n'.pc = n.pc ∧ ∀ part : Part, part.Settled m n m' n') (ins.perform answer m)
      (ins.perform answer m') := by
  cases ins with
  | clear =>
    refine .ok ⟨hpc, fun part => ?_⟩
    cases part with
    | frame => exact .inl rfl
    | _ => exact .inr ⟨rfl, rfl⟩
  | ret =>
    have hstack : m'.stack = m.stack := hsees .stack (by simp [sees])
    show Matches _ (m.stack.pop >>= fun popped => pure { m with stack := popped.1, pc := popped.2 })
      (m'.stack.pop >>= fun popped => pure { m' with stack := popped.1, pc := popped.2 })
    rw [hstack]
    cases m.stack.pop with
    | error fault => exact .error fault
    | ok popped =>
      refine .ok ⟨rfl, fun part => ?_⟩
      cases part with
      | stack => exact .inl rfl
      | _ => exact .inr ⟨rfl, rfl⟩
  | call nnn =>
    have hstack : m'.stack = m.stack := hsees .stack (by simp [sees])
    show Matches _ (m.stack.push m.pc >>= fun stack => pure { m with stack, pc := UInt16.ofNat nnn })
      (m'.stack.push m'.pc >>= fun stack => pure { m' with stack, pc := UInt16.ofNat nnn })
    rw [hstack, hpc]
    cases m.stack.push m.pc with
    | error fault => exact .error fault
    | ok stack =>
      refine .ok ⟨rfl, fun part => ?_⟩
      cases part with
      | stack => exact .inl rfl
      | _ => exact .inr ⟨rfl, rfl⟩
  | skip condition =>
    refine .ok ?_
    rw [Condition.holds_local hsees]
    split
    · exact ⟨congrArg Machine.next hpc, fun part => .pc _ _⟩
    · exact ⟨hpc, fun part => .pc _ _⟩
  | jump nnn => exact .ok ⟨rfl, fun part => .pc _ _⟩
  | jumpFromV0 nnn =>
    have h0 : m'.v[0] = m.v[0] := hsees (.register 0) (by simp [sees])
    refine .ok ⟨?_, fun part => .pc _ _⟩
    dsimp only
    rw [h0]
  | set x b => exact .ok ⟨hpc, fun part => .setRegister x b⟩
  | random x nn => exact .ok ⟨hpc, fun part => .setRegister x _⟩
  | waitKey x => exact .ok ⟨hpc, fun part => .setRegister x _⟩
  | add x b =>
    have hx : m'.v[x] = m.v[x] := hsees (.register x) (by simp [sees])
    refine .ok ⟨hpc, fun part => ?_⟩
    rw [hx]
    exact .setRegister x _
  | getDelay x =>
    have hdelay : m'.delay = m.delay := UInt8.toNat_inj.mp (hsees .delay (by simp [sees]))
    refine .ok ⟨hpc, fun part => ?_⟩
    rw [hdelay]
    exact .setRegister x _
  | arithmetic op x y =>
    have hx : m'.v.get x = m.v.get x := hsees (.register x) (by simp [sees])
    have hy : m'.v.get y = m.v.get y := hsees (.register y) (by simp [sees])
    have hflag : m'.v.get Register.flag = m.v.get Register.flag := hsees (.register Register.flag) (by simp [sees])
    exact .ok ⟨hpc, fun part => .compute op hx hy hflag⟩
  | setIndex nnn =>
    refine .ok ⟨hpc, fun part => ?_⟩
    cases part with
    | index => exact .inl rfl
    | _ => exact .inr ⟨rfl, rfl⟩
  | addIndex x =>
    have hi : m'.i = m.i := hsees .index (by simp [sees])
    have hx : m'.v[x] = m.v[x] := hsees (.register x) (by simp [sees])
    refine .ok ⟨hpc, fun part => ?_⟩
    rw [hi, hx]
    cases part with
    | index => exact .inl rfl
    | _ => exact .inr ⟨rfl, rfl⟩
  | glyph x =>
    have hx : m'.v[x] = m.v[x] := hsees (.register x) (by simp [sees])
    refine .ok ⟨hpc, fun part => ?_⟩
    rw [hx]
    cases part with
    | index => exact .inl rfl
    | _ => exact .inr ⟨rfl, rfl⟩
  | setDelay x =>
    have hx : m'.v[x] = m.v[x] := hsees (.register x) (by simp [sees])
    refine .ok ⟨hpc, fun part => ?_⟩
    rw [hx]
    cases part with
    | delay => exact .inl rfl
    | _ => exact .inr ⟨rfl, rfl⟩
  | setSound x =>
    have hx : m'.v[x] = m.v[x] := hsees (.register x) (by simp [sees])
    refine .ok ⟨hpc, fun part => ?_⟩
    rw [hx]
    cases part with
    | sound => exact .inl rfl
    | _ => exact .inr ⟨rfl, rfl⟩
  | draw x y n =>
    have hframe : m'.frame = m.frame := hsees .frame (by simp [sees])
    have hi : m'.i = m.i := hsees .index (by simp [sees])
    have hx : m'.v[x] = m.v[x] := hsees (.register x) (by simp [sees])
    have hy : m'.v[y] = m.v[y] := hsees (.register y) (by simp [sees])
    have hrows : m'.memory.readRun m.i.toNat n = m.memory.readRun m.i.toNat n := by
      refine List.map_congr_left fun k hk => ?_
      exact Part.read_of_cells (fun part hp => hsees part (List.mem_append_right _ hp)) (List.mem_range.mp hk)
    have hsprite : m'.sprite x y n = m.sprite x y n := by
      unfold Machine.sprite
      rw [hx, hy, hi, hrows]
    exact .ok ⟨hpc, fun part => .drawSprite hframe hsprite⟩
  | decimal x =>
    have hi : m'.i = m.i := hsees .index (by simp [sees])
    have hx : m'.v[x] = m.v[x] := hsees (.register x) (by simp [sees])
    refine .ok ⟨hpc, fun part => ?_⟩
    rw [hx]
    exact .dump (by simp [Machine.decimalDigits]) hi
  | store x =>
    have hi : m'.i = m.i := hsees .index (by simp [sees])
    have hregisters : m'.registersUpTo x = m.registersUpTo x :=
      Machine.registersUpTo_local fun r hr => hsees (.register r) (by simp [sees, hr])
    refine .ok ⟨hpc, fun part => ?_⟩
    rw [hregisters]
    exact .dump (by simp [Machine.registersUpTo]; omega) hi
  | load x =>
    have hi : m'.i = m.i := hsees .index (by simp [sees])
    have hread : ∀ r ≤ x, m'.memory.read (m'.i.toNat + r) = m.memory.read (m.i.toNat + r) := by
      intro r hr
      rw [hi]
      exact Part.read_of_cells (fun part hp => hsees part (List.mem_cons_of_mem _ hp)) (Nat.lt_succ_of_le hr)
    exact .ok ⟨by simpa only [Machine.loadRegisters] using hpc, fun part => .loadRegisters hread⟩

end Sight

/-! ### Memory -/

namespace Instruction
variable {w : Word} {ins : Instruction} {m : Machine} {a : Address}

/-- The cells that are looked at are the rows of the sprite to be drawn or the bytes to be loaded. -/
theorem Reads.of_sees_cell (hr : Reads w ins) (h : .cell a ∈ ins.sees m) :
    (Form.draw.Fits w ∧ ∃ k < w.n.val, a = Memory.cell (m.i.toNat + k)) ∨
      (Form.load.Fits w ∧ ∃ k ≤ w.x.val, a = Memory.cell (m.i.toNat + k)) := by
  cases hr with
  | draw hf =>
    have hcell : ∃ k < w.n.val, a = Memory.cell (m.i.toNat + k) := by simpa [sees, Part.cells, eq_comm] using h
    exact .inl ⟨hf, hcell⟩
  | load hf =>
    have hcell : ∃ k < w.x.val + 1, a = Memory.cell (m.i.toNat + k) := by simpa [sees, Part.cells, eq_comm] using h
    exact .inr ⟨hf, hcell.imp fun k hk => ⟨Nat.le_of_lt_succ hk.1, hk.2⟩⟩
  | _ => simp [sees, Condition.sees] at h

end Instruction

namespace Machine
variable {H : Type} [Host H] {m m' : Machine}

/-- The machines are the same but for memory that the next word does not look at. -/
structure SameInSight (m m' : Machine) : Prop where
  others : m' = { m with memory := m'.memory }
  word : ∀ k < 2, m'.memory.read (m.pc.toNat + k) = m.memory.read (m.pc.toNat + k)
  sprite : Form.draw.Fits m.fetched →
    ∀ k < m.fetched.n.val, m'.memory.read (m.i.toNat + k) = m.memory.read (m.i.toNat + k)
  loaded : Form.load.Fits m.fetched →
    ∀ k ≤ m.fetched.x.val, m'.memory.read (m.i.toNat + k) = m.memory.read (m.i.toNat + k)

namespace SameInSight

theorem fetched (h : SameInSight m m') : m'.fetched = m.fetched := by
  have hpc : m'.pc = m.pc := (sameBut_cells_iff.mpr h.others).pc
  have hhigh : m'.memory.read m.pc.toNat = m.memory.read m.pc.toNat := h.word 0 (by decide)
  have hlow : m'.memory.read (m.pc.toNat + 1) = m.memory.read (m.pc.toNat + 1) := h.word 1 (by decide)
  unfold Machine.fetched Memory.readWord
  rw [hpc, hhigh, hlow]

theorem advance (h : SameInSight m m') : SameBut (fun part => ∃ a, part = .cell a) m.advance m'.advance :=
  sameBut_cells_iff.mpr (by rw [h.others]; rfl)

theorem sees {ins : Instruction} (h : SameInSight m m') (hr : Instruction.Reads m.fetched ins) :
    ∀ part ∈ ins.sees m.advance, part.Kept 0 m.advance m'.advance := by
  intro part hpart
  by_cases hcell : ∃ a, part = .cell a
  · obtain ⟨a, rfl⟩ := hcell
    obtain ⟨hf, k, hk, rfl⟩ | ⟨hf, k, hk, rfl⟩ := hr.of_sees_cell hpart
    · exact h.sprite hf k hk
    · exact h.loaded hf k hk
  · exact h.advance.kept part hcell

end SameInSight

/-- From `m` and `m'` to `n` and `n'` all came to be the same but memory, of which a cell was left alone in both machines
    or written alike. -/
structure SameOutcome (m n m' n' : Machine) : Prop where
  others : n' = { n with memory := n'.memory }
  cells : ∀ a : Address, (n.memory.get a = m.memory.get a ∧ n'.memory.get a = m'.memory.get a) ∨
    (m.fetched.Writes m.i (.cell a) ∧ n'.memory.get a = n.memory.get a)

theorem SameInSight.perform {ins : Instruction} (h : SameInSight m m') (hr : Instruction.Reads m.fetched ins)
    (answer : Int) :
    Matches (fun n n' => SameOutcome m n m' n') (ins.perform answer m.advance) (ins.perform answer m'.advance) := by
  refine (Instruction.perform_local h.advance.pc (h.sees hr) answer).attach.mono ?_
  rintro n n' ⟨hn, hn', hpc, hsettled⟩
  refine ⟨sameBut_cells_iff.mp (h.advance.of_settled hpc hsettled), fun a => ?_⟩
  by_cases hw : m.fetched.Writes m.i (.cell a)
  · obtain hsame | hleft := hsettled (.cell a)
    · exact .inr ⟨hw, hsame⟩
    · exact .inl hleft
  · have hw' : ¬ m.fetched.Writes m'.i (.cell a) := by
      rw [h.others]
      exact hw
    exact .inl ⟨hr.kept hn hw, hr.kept hn' hw'⟩

/-- The memory that a word does not look at counts for nothing when it is executed: whatever stands there, the word
    fails alike or does the same to all else, and each cell is left alone or written alike. -/
theorem execute_local (h : SameInSight m m') (host : H) :
    m'.fetched = m.fetched ∧
      Matches (fun n n' => SameOutcome m n m' n') ((m.advance.execute m.fetched).run host).1
        ((m'.advance.execute m'.fetched).run host).1 ∧
      ((m'.advance.execute m'.fetched).run host).2 = ((m.advance.execute m.fetched).run host).2 := by
  have hagree : Attempt.Agree (@Eq H) (fun n n' => SameOutcome m n m' n') (m.advance.execute m.fetched)
      (m'.advance.execute m.fetched) :=
    execute_agree (fun _ => .same _) fun ins answer hw => h.perform (Instruction.reads_of_ofWord? hw) answer
  obtain ⟨hresult, hhost⟩ := hagree host host rfl
  rw [h.fetched]
  exact ⟨rfl, hresult, hhost.symm⟩

/-- A machine about to load `V0` and `V1` from the last cell of the memory and the first one. -/
def loadingAround : Machine :=
  { Machine.initial with
    memory := (Memory.initial.write 0xFFF 0x2A).writeRun 0x200 [0xF1, 0x65]
    i := 0xFFF }

/-- The second cell of the memory is not loaded. -/
theorem execute_local_around : ∃ m' n n' : Machine, SameInSight loadingAround m' ∧
    ((loadingAround.advance.execute loadingAround.fetched).run
      (⟨{}, {}, {}, ⟨[]⟩⟩ : Devices (FrameRecorder Frame) SilentBeeper KeyScript ListSource)).1 = .ok n ∧
      SameOutcome loadingAround n m' n' ∧ n.v.get 0 = 0x2A ∧ n.v.get 1 = 0xF0 ∧ n.memory.get 1 = 0x90 ∧
        n'.memory.get 1 = 0xAA := by
  let m' : Machine := { loadingAround with memory := loadingAround.memory.write 1 0xAA }
  have h : SameInSight loadingAround m' := ⟨rfl, by decide +kernel, by decide +kernel, by decide +kernel⟩
  have hw : Instruction.ofWord? loadingAround.fetched = some (.load 1) := by decide +kernel
  obtain ⟨hfetched, hresult, -⟩ := execute_local h
    (⟨{}, {}, {}, ⟨[]⟩⟩ : Devices (FrameRecorder Frame) SilentBeeper KeyScript ListSource)
  have hrun (m : Machine) : ((m.execute loadingAround.fetched).run
      (⟨{}, {}, {}, ⟨[]⟩⟩ : Devices (FrameRecorder Frame) SilentBeeper KeyScript ListSource)).1 =
        .ok (m.loadRegisters 1) := by
    rw [execute_of_eq_some hw]
    rfl
  rw [hfetched, hrun, hrun] at hresult
  cases hresult with
  | ok houtcome =>
    exact ⟨m', _, _, h, hrun _, houtcome, by decide +kernel, by decide +kernel, by decide +kernel, by decide +kernel⟩

end Machine

end Chip8
