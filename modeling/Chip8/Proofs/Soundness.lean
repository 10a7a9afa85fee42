import Chip8.Proofs.Orders

/-! What a machine keeps, whatever programs are loaded into it and whatever its devices do. The program counter
    points into the memory because return addresses do; the slots of the stack that are not in use are zero;
    a screen cell is 0 or 1. The sizes of the parts and the ranges of the bytes hold by their types. -/

namespace Chip8

/-! ### Screens -/

/-- The frame has 2048 cells, and each is 0 or 1. -/
structure Frame.Binary (f : Frame) : Prop where
  size : f.toList.length = 2048
  bits : ∀ p : Fin 2048, f[p] = 0 ∨ f[p] = 1

namespace Frame
variable {f : Frame}

theorem blank_binary : blank.Binary := ⟨Vector.length_toList, fun p => Or.inl (by simp [blank])⟩

theorem Binary.toggle (h : f.Binary) (p : Fin 2048) : (f.toggle p).Binary := by
  refine ⟨Vector.length_toList, fun q => ?_⟩
  simp only [Frame.toggle, Fin.getElem_fin, Vector.getElem_set]
  split
  · rcases h.bits p with h0 | h1
    · exact Or.inr (by simp only [Fin.getElem_fin] at h0; rw [h0]; rfl)
    · exact Or.inl (by simp only [Fin.getElem_fin] at h1; rw [h1]; rfl)
  · exact h.bits q

theorem Binary.draw (h : f.Binary) (cells : List (Fin 2048)) : (f.draw cells).Binary := by
  induction cells generalizing f with
  | nil => exact h
  | cons p cells ih => exact ih (h.toggle p)

end Frame

/-! ### Call stacks -/

namespace CallStack

/-- The pointer counts slots, every slot holds the address of a cell, and a slot that is not in use holds
    zero. -/
structure Sound (s : CallStack) : Prop where
  pointer : 0 ≤ s.pointer ∧ s.pointer ≤ 16
  addresses : ∀ k : Fin 16, s.slots[k].toNat < 4096
  free : ∀ k : Fin 16, s.pointer ≤ k.val → s.slots[k] = 0

variable {s t : CallStack} {address : UInt16}

theorem empty_sound : empty.Sound where
  pointer := by decide
  addresses k := by simp [empty]
  free k _ := by simp [empty]

theorem toNat_and_lt (a : UInt16) : (a &&& 0xFFF).toNat < 4096 := by
  rw [UInt16.toNat_and]
  exact Nat.lt_succ_of_le Nat.and_le_right

theorem slot_val {p : Int} (h0 : 0 ≤ p) (h1 : p < 16) : ((slot p).val : Int) = p := by
  simp only [slot]
  omega

theorem Sound.push (h : s.Sound) (hp : s.push address = .ok t) : t.Sound := by
  obtain ⟨hpos, -⟩ := h.pointer
  obtain ⟨hlt, rfl⟩ := push_eq_ok.mp hp
  have hslot := slot_val hpos hlt
  refine ⟨⟨by simp only; omega, by simp only; omega⟩, fun k => ?_, fun k hk => ?_⟩
  · simp only [Fin.getElem_fin, Vector.getElem_set]
    split
    · exact toNat_and_lt address
    · exact h.addresses k
  · simp only at hk
    have hne : (slot s.pointer).val ≠ k.val := by omega
    simp only [Fin.getElem_fin, Vector.getElem_set_ne _ _ hne]
    exact h.free k (by omega)

theorem Sound.pop (h : s.Sound) (hp : s.pop = .ok (t, address)) : t.Sound ∧ address.toNat < 4096 := by
  obtain ⟨-, htop⟩ := h.pointer
  obtain ⟨hlt, rfl, rfl⟩ := pop_eq_ok.mp hp
  have hslot := slot_val (p := s.pointer - 1) (by omega) (by omega)
  -- The slot that is given back is the only one that comes free, and it is cleared.
  refine ⟨⟨⟨by simp only; omega, by simp only; omega⟩, fun k => ?_, fun k hk => ?_⟩, h.addresses (slot (s.pointer - 1))⟩
  · simp only [Fin.getElem_fin, Vector.getElem_set]
    split
    · decide
    · exact h.addresses k
  · simp only [Fin.getElem_fin, Vector.getElem_set]
    split
    · rfl
    · simp only at hk
      exact h.free k (by omega)

end CallStack

/-! ### Machines -/

namespace Machine

/-- The program counter points into the memory, the call stack is sound, and the screen is binary. -/
structure Sound (m : Machine) : Prop where
  pc : m.pc.toNat < 4096
  stack : m.stack.Sound
  frame : m.frame.Binary

variable {m m' : Machine}

theorem initial_sound : initial.Sound := ⟨by decide, CallStack.empty_sound, Frame.blank_binary⟩

/-- A machine is sound if it has its program counter, its stack and its screen from a sound one. -/
theorem Sound.of_eq (h : m.Sound) (hpc : m'.pc = m.pc) (hstack : m'.stack = m.stack) (hframe : m'.frame = m.frame) :
    m'.Sound := ⟨hpc ▸ h.pc, hstack ▸ h.stack, hframe ▸ h.frame⟩

theorem Sound.advance (h : m.Sound) : m.advance.Sound := ⟨CallStack.toNat_and_lt _, h.stack, h.frame⟩

theorem toNat_ofNat_lt {a : Nat} (h : a < 4096) : (UInt16.ofNat a).toNat < 4096 := by
  rw [UInt16.toNat_ofNat']
  omega

/-- An instruction keeps a machine sound, whatever it is answered. -/
theorem Sound.perform {ins : Instruction} {answer : Int} (h : m.Sound) (hp : ins.perform answer m = .ok m') :
    m'.Sound := by
  -- The named cases write the program counter, the stack or the screen; the others leave all three alone.
  cases ins with
  | clear =>
    cases hp
    exact ⟨h.pc, h.stack, Frame.blank_binary⟩
  | ret =>
    obtain ⟨stack, address, hpop, rfl⟩ := Instruction.perform_ret_eq_ok.mp hp
    obtain ⟨hstack, hpc⟩ := h.stack.pop hpop
    exact ⟨hpc, hstack, h.frame⟩
  | jump nnn =>
    cases hp
    exact ⟨toNat_ofNat_lt nnn.isLt, h.stack, h.frame⟩
  | call nnn =>
    obtain ⟨stack, hpush, rfl⟩ := Instruction.perform_call_eq_ok.mp hp
    exact ⟨toNat_ofNat_lt nnn.isLt, h.stack.push hpush, h.frame⟩
  | skip condition =>
    cases hp
    split
    · exact h.advance
    · exact h
  | jumpFromV0 nnn =>
    cases hp
    exact ⟨toNat_ofNat_lt (Nat.mod_lt _ (by decide)), h.stack, h.frame⟩
  | draw x y n =>
    cases hp
    exact ⟨h.pc, h.stack, h.frame.draw _⟩
  | load x =>
    cases hp
    unfold loadRegisters
    exact h.of_eq rfl rfl rfl
  | _ =>
    cases hp
    exact h.of_eq rfl rfl rfl

theorem Sound.move {move : Move} (h : m.Sound) (hm : m.move move = .ok m') : m'.Sound := by
  cases move with
  | load program =>
    obtain ⟨-, rfl⟩ := loadProgram_eq_ok.mp hm
    exact h.of_eq rfl rfl rfl
  | cycle answer keypad =>
    obtain ⟨ins, m₁, -, hp, rfl⟩ := complete_eq_ok.mp hm
    exact (h.advance.perform hp).of_eq rfl rfl rfl

/-- A frame that is drawn in a turn of a sound machine is binary, whether the turn goes through or not. -/
theorem Sound.drawn {w : Word} {calls : List Call} {r : Except Failure (Machine × Bool)} (h : m.Sound)
    (ht : m.Turn w calls r) {frame : Frame} {shown : Except Failure Unit} (hd : .draw frame shown ∈ calls) :
    frame.Binary := by
  obtain ⟨asked, m₁, hx, rfl⟩ := ht.drawn hd
  obtain ⟨ins, answer, -, hp, -⟩ := hx.perform
  exact (h.perform hp).frame

structure Sized (m : Machine) : Prop where
  memory : m.memory.toList.length = 4096 ∧ ∀ b ∈ m.memory.toList, b.toNat < 256
  registers : m.v.toList.length = 16 ∧ ∀ b ∈ m.v.toList, b.toNat < 256
  timers : m.delay.toNat < 256 ∧ m.sound.toNat < 256
  index : m.i.toNat < 65536
  slots : m.stack.slots.toList.length = 16
  keypad : m.keypad.toList.length = 16

theorem sized (m : Machine) : m.Sized where
  memory := ⟨Vector.length_toList, fun b _ => b.toNat_lt⟩
  registers := ⟨Vector.length_toList, fun b _ => b.toNat_lt⟩
  timers := ⟨m.delay.toNat_lt, m.sound.toNat_lt⟩
  index := m.i.toNat_lt
  slots := Vector.length_toList
  keypad := Vector.length_toList

end Machine

/-! ### Runs -/

namespace Computer
variable {H : Type} [Host H]

theorem start_sound (host : H) (logger : Logger) (console : Console) (orders : List Order) :
    ((start host logger console).obeyAll orders).2.machine.Sound :=
  obeyAll_keeps (fun _ _ _ h hm => h.move hm) _ orders Machine.initial_sound

/-- However a computer is used from its start on, and whatever its devices do, its machine is sound, and so is
    every frame that a device was ever to draw, also in a cycle that failed afterwards. -/
theorem start_keeps_machine_sound (host : H) (logger : Logger) (console : Console) (orders : List Order) :
    ((start host logger console).obeyAll orders).2.machine.Sound ∧
      ((start host logger console).obeyAll orders).2.machine.Sized ∧
      ∀ event ∈ ((start host logger console).obeyAll orders).1, ∀ frame shown, .draw frame shown ∈ event.calls →
        frame.Binary := by
  refine ⟨start_sound host logger console orders, Machine.sized _, fun event hevent frame shown hd => ?_⟩
  obtain ⟨earlier, order, -, -, rfl⟩ := exists_of_mem_events hevent
  have hsound := (start_sound host logger console earlier).advance
  cases order with
  | load program => cases hd
  | cycle =>
    cases ((start host logger console).obeyAll earlier).2.cycled with
    | committed hturn => exact hsound.drawn hturn hd
    | failed hturn => exact hsound.drawn hturn hd

end Computer

end Chip8
