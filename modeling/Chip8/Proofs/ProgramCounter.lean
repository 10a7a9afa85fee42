import Chip8.Device.FrameRecorder
import Chip8.Device.KeyScript
import Chip8.Device.NumberSources
import Chip8.Device.SilentBeeper
import Chip8.Proofs.History
import Chip8.Proofs.Words
import Mathlib.Control.Monad.Basic

/-! Where a machine goes on. Before a word is executed the program counter moves past it; the jumps, the call and the
    return then set it, a skip whose condition holds moves it past one more word, and the other instructions leave it
    alone. All of it wraps around at the end of the memory, also for a word of the last cell and the first one. -/

namespace Chip8

/-! ### Words in memory -/

namespace Machine

theorem toNat_next (pc : UInt16) : (next pc).toNat = (pc.toNat + 2) % 4096 := by
  have hmask : (next pc).toNat = (pc + 2).toNat &&& (2 ^ 12 - 1) := UInt16.toNat_and _ _
  rw [hmask, Nat.and_two_pow_sub_one_eq_mod, UInt16.toNat_add]
  show (pc.toNat + 2) % 65536 % 4096 = _
  omega

theorem toNat_ofAddress (a : Address) : (UInt16.ofNat a).toNat = a := by
  have := a.isLt
  rw [UInt16.toNat_ofNat']
  omega

/-- The fetched word is that of the two cells from the program counter on, the high byte first. -/
theorem toNat_fetched (m : Machine) : m.fetched.toNat =
    256 * m.memory[Fin.ofNat 4096 m.pc.toNat].toNat + m.memory[Fin.ofNat 4096 (m.pc.toNat + 1)].toNat :=
  Word.toNat_ofBytes _ _

end Machine

theorem Word.nnn_val (w : Word) : w.nnn.val = w.toNat % 4096 := rfl

/-! ### Skips -/

theorem Condition.holds_congr {m m' : Machine} (hv : m'.v = m.v) (hkeypad : m'.keypad = m.keypad) (condition : Condition) :
    condition.holds m' = condition.holds m := by
  cases condition <;> simp [holds, hv, hkeypad]

namespace Machine

/-- The address of the word behind the one at the program counter. -/
def following (m : Machine) : Nat := (m.pc.toNat + 2) % 4096

/-- The machine goes on as `m'` two words on if the condition holds, and one word on otherwise. -/
structure Skips (m m' : Machine) (condition : Prop) : Prop where
  taken : m'.pc.toNat = (m.following + 2) % 4096 ↔ condition
  notTaken : m'.pc.toNat = m.following ↔ ¬ condition

theorem following_lt (m : Machine) : m.following < 4096 := Nat.mod_lt _ (by decide)

theorem Skips.of_bool {m m' : Machine} {taken : Bool} {condition : Prop} (hcond : taken = true ↔ condition)
    (hpc : m'.pc.toNat = if taken then (m.following + 2) % 4096 else m.following) : m.Skips m' condition := by
  have hlt := m.following_lt
  cases taken with
  | true =>
    have hpc : m'.pc.toNat = (m.following + 2) % 4096 := hpc
    constructor
    · simp [hpc, ← hcond]
    · simp only [hpc, ← hcond, not_true_eq_false, iff_false]
      omega
  | false =>
    have hpc : m'.pc.toNat = m.following := hpc
    constructor
    · simp only [hpc, ← hcond, Bool.false_eq_true, iff_false]
      omega
    · simp [hpc, ← hcond]

end Machine

/-! ### Every word -/

/-- The forms of the words that may send a machine elsewhere than to the next word. -/
def Form.steering : List Form := [jump, call, ret, jumpFromV0, skipEqualsByte, skipDiffersFromByte, skipEqualsRegister,
  skipDiffersFromRegister, skipKeyDown, skipKeyUp]

/-- The machine executes the word at its program counter and goes on as `m'` where the word tells. -/
structure Machine.GoesOn (m m' : Machine) : Prop where
  word : m.fetched.toNat =
    256 * m.memory[Fin.ofNat 4096 m.pc.toNat].toNat + m.memory[Fin.ofNat 4096 (m.pc.toNat + 1)].toNat
  jump : Form.jump.Fits m.fetched ∨ Form.call.Fits m.fetched → m'.pc.toNat = m.fetched.toNat % 4096
  jumpFromV0 : Form.jumpFromV0.Fits m.fetched → m'.pc.toNat = (m.fetched.toNat % 4096 + m.v[0].toNat) % 4096
  /-- The slot below the pointer holds the address. -/
  ret : Form.ret.Fits m.fetched → ∃ k : Fin 16, (k.val : Int) = m.stack.pointer - 1 ∧ m'.pc = m.stack.slots[k]
  equalsByte : Form.skipEqualsByte.Fits m.fetched → m.Skips m' (m.v[m.fetched.x] = m.fetched.nn)
  differsFromByte : Form.skipDiffersFromByte.Fits m.fetched → m.Skips m' (m.v[m.fetched.x] ≠ m.fetched.nn)
  equalsRegister : Form.skipEqualsRegister.Fits m.fetched → m.Skips m' (m.v[m.fetched.x] = m.v[m.fetched.y])
  differsFromRegister : Form.skipDiffersFromRegister.Fits m.fetched →
    m.Skips m' (m.v[m.fetched.x] ≠ m.v[m.fetched.y])
  keyDown : Form.skipKeyDown.Fits m.fetched →
    m.Skips m' (m.keypad[Fin.ofNat 16 m.v[m.fetched.x].toNat] = true)
  keyUp : Form.skipKeyUp.Fits m.fetched → m.Skips m' (m.keypad[Fin.ofNat 16 m.v[m.fetched.x].toNat] = false)
  otherwise : (∀ f ∈ Form.steering, ¬ f.Fits m.fetched) → m'.pc.toNat = m.following

/-! ### Instructions -/

namespace CallStack
variable {s t : CallStack} {address : UInt16}

/-- The address that is taken from the stack stood in the slot below the pointer. -/
theorem Sound.top (h : s.Sound) (hp : s.pop = .ok (t, address)) :
    ∃ k : Fin 16, (k.val : Int) = s.pointer - 1 ∧ address = s.slots.get k := by
  obtain ⟨-, htop⟩ := h.pointer
  obtain ⟨hlt, -, rfl⟩ := pop_eq_ok.mp hp
  exact ⟨slot (s.pointer - 1), slot_val (by omega) (by omega), rfl⟩

end CallStack

namespace Instruction
variable {w : Word} {ins : Instruction} {answer : Int} {m m' : Machine}

/-- An instruction that neither jumps nor calls, returns or skips leaves the program counter alone. -/
theorem Reads.pc_eq (hr : Reads w ins) (hother : ∀ f ∈ Form.steering, ¬ f.Fits w)
    (hp : ins.perform answer m = .ok m') : m'.pc = m.pc := by
  cases hr with
  | jump hf | call hf | ret hf | jumpFromV0 hf | skipEqualsByte hf | skipDiffersFromByte hf | skipEqualsRegister hf
  | skipDiffersFromRegister hf | skipKeyDown hf | skipKeyUp hf =>
    exact absurd hf (hother _ (by simp [Form.steering]))
  | _ =>
    cases hp
    rfl

theorem pc_of_jump {nnn : Address} (hp : (jump nnn).perform answer m = .ok m') : m'.pc.toNat = nnn := by
  cases hp
  exact Machine.toNat_ofAddress nnn

theorem pc_of_call {nnn : Address} (hp : (call nnn).perform answer m = .ok m') : m'.pc.toNat = nnn := by
  obtain ⟨stack, -, rfl⟩ := perform_call_eq_ok.mp hp
  exact Machine.toNat_ofAddress nnn

theorem pc_of_jumpFromV0 {nnn : Address} (hp : (jumpFromV0 nnn).perform answer m = .ok m') :
    m'.pc.toNat = (nnn + (m.v.get 0).toNat) % 4096 := by
  cases hp
  show (UInt16.ofNat ((nnn + (m.v.get 0).toNat) % 4096)).toNat = _
  rw [UInt16.toNat_ofNat']
  omega

theorem pc_of_ret (hm : m.Sound) (hp : ret.perform answer m = .ok m') :
    ∃ k : Fin 16, (k.val : Int) = m.stack.pointer - 1 ∧ m'.pc = m.stack.slots.get k := by
  obtain ⟨stack, address, hpop, rfl⟩ := perform_ret_eq_ok.mp hp
  exact hm.stack.top hpop

theorem pc_of_skip {condition : Condition} (hp : (skip condition).perform answer m = .ok m') :
    m'.pc = if condition.holds m then Machine.next m.pc else m.pc := by
  cases hp
  split <;> rfl

/-- A skip sees the registers and the keypad as they were before the fetch. -/
theorem pc_of_fetched_skip {condition : Condition} (hp : (skip condition).perform answer m.advance = .ok m') :
    m'.pc.toNat = if condition.holds m then (m.following + 2) % 4096 else m.following := by
  have hfollowing : m.advance.pc.toNat = m.following := Machine.toNat_next _
  have hholds : condition.holds m.advance = condition.holds m := Condition.holds_congr rfl rfl condition
  rw [pc_of_skip hp, hholds]
  split
  · rw [Machine.toNat_next, hfollowing]
  · exact hfollowing

end Instruction

/-! ### Cycles -/

namespace Computer
variable {H : Type} [Host H] {c : Computer H} {signal : Signal} {ins : Instruction}

theorem pc_of_reads (hs : c.cycle.1 = .ok signal) (hr : Instruction.Reads c.machine.fetched ins) :
    ∃ answer m, ins.perform answer c.machine.advance = .ok m ∧ c.cycle.2.machine.pc = m.pc := by
  obtain ⟨answer, m, keypad, hp, hm⟩ := performed_of_reads hs hr
  exact ⟨answer, m, hp, by rw [hm]; rfl⟩

theorem pc_of_reads_skip {condition : Condition} (hs : c.cycle.1 = .ok signal)
    (hr : Instruction.Reads c.machine.fetched (.skip condition)) : c.cycle.2.machine.pc.toNat =
      if condition.holds c.machine then (c.machine.following + 2) % 4096 else c.machine.following := by
  obtain ⟨answer, m, hp, hpc⟩ := pc_of_reads hs hr
  rw [hpc, Instruction.pc_of_fetched_skip hp]

theorem skips (hs : c.cycle.1 = .ok signal) {condition : Condition} {P : Prop}
    (hr : Instruction.Reads c.machine.fetched (.skip condition)) (hP : condition.holds c.machine = true ↔ P) :
    c.machine.Skips c.cycle.2.machine P :=
  .of_bool hP (pc_of_reads_skip hs hr)

theorem goesOn (hc : c.Reached) (hs : c.cycle.1 = .ok signal) : c.machine.GoesOn c.cycle.2.machine where
  word := c.machine.toNat_fetched
  jump hform := by
    rcases hform with hf | hf
    · obtain ⟨answer, m, hp, hpc⟩ := pc_of_reads hs (.jump hf)
      rw [hpc, Instruction.pc_of_jump hp, Word.nnn_val]
    · obtain ⟨answer, m, hp, hpc⟩ := pc_of_reads hs (.call hf)
      rw [hpc, Instruction.pc_of_call hp, Word.nnn_val]
  jumpFromV0 hf := by
    obtain ⟨answer, m, hp, hpc⟩ := pc_of_reads hs (.jumpFromV0 hf)
    rw [hpc, Instruction.pc_of_jumpFromV0 hp, Word.nnn_val]
    rfl
  ret hf := by
    obtain ⟨answer, m, hp, hpc⟩ := pc_of_reads hs (.ret hf)
    obtain ⟨k, hk, hslot⟩ := Instruction.pc_of_ret hc.sound.advance hp
    exact ⟨k, hk, hpc.trans hslot⟩
  equalsByte hf := skips hs (.skipEqualsByte hf) beq_iff_eq
  differsFromByte hf := skips hs (.skipDiffersFromByte hf) bne_iff_ne
  equalsRegister hf := skips hs (.skipEqualsRegister hf) beq_iff_eq
  differsFromRegister hf := skips hs (.skipDiffersFromRegister hf) bne_iff_ne
  keyDown hf := skips hs (.skipKeyDown hf) Iff.rfl
  keyUp hf := by
    refine skips hs (.skipKeyUp hf) ?_
    simp only [Condition.holds, Bool.not_eq_true']
    exact Iff.rfl
  otherwise hother := by
    obtain ⟨ins, answer, m, keypad, hr, hp, hm, -⟩ := performed_of_ok hs
    have hpc : c.cycle.2.machine.pc = m.pc := by rw [hm]; rfl
    rw [hpc, hr.pc_eq hother hp]
    exact Machine.toNat_next _

end Computer

/-! ### Opposite skips -/

/-- Two skips with the same operands, of which one has the opposite condition of the other. -/
inductive Word.Opposite (w w' : Word) : Prop
  | byte : Form.skipEqualsByte.Fits w → Form.skipDiffersFromByte.Fits w' → w'.x = w.x → w'.nn = w.nn → Opposite w w'
  | register : Form.skipEqualsRegister.Fits w → Form.skipDiffersFromRegister.Fits w' → w'.x = w.x → w'.y = w.y →
      Opposite w w'
  | key : Form.skipKeyDown.Fits w → Form.skipKeyUp.Fits w' → w'.x = w.x → Opposite w w'

theorem Word.Opposite.reads {w w' : Word} (h : w.Opposite w') : ∃ condition condition',
    Instruction.Reads w (.skip condition) ∧ Instruction.Reads w' (.skip condition') ∧
      ∀ m, condition'.holds m = !condition.holds m := by
  cases h with
  | byte hf hf' hx hnn =>
    refine ⟨_, _, .skipEqualsByte hf, .skipDiffersFromByte hf', fun m => ?_⟩
    rw [hx, hnn]
    rfl
  | register hf hf' hx hy =>
    refine ⟨_, _, .skipEqualsRegister hf, .skipDiffersFromRegister hf', fun m => ?_⟩
    rw [hx, hy]
    rfl
  | key hf hf' hx =>
    refine ⟨_, _, .skipKeyDown hf, .skipKeyUp hf', fun m => ?_⟩
    rw [hx]
    rfl

namespace Computer
variable {H : Type} [Host H] {c d : Computer H} {signal signal' : Signal}

theorem skips_opposite (hs : c.cycle.1 = .ok signal) (hd : d.cycle.1 = .ok signal')
    (hw : c.machine.fetched.Opposite d.machine.fetched) (hpc : d.machine.pc = c.machine.pc)
    (hv : d.machine.v = c.machine.v) (hkeypad : d.machine.keypad = c.machine.keypad) :
    (c.cycle.2.machine.pc.toNat = (c.machine.following + 2) % 4096 ∧ d.cycle.2.machine.pc.toNat = c.machine.following) ∨
      (c.cycle.2.machine.pc.toNat = c.machine.following ∧
        d.cycle.2.machine.pc.toNat = (c.machine.following + 2) % 4096) := by
  obtain ⟨condition, condition', hr, hr', hopposite⟩ := hw.reads
  have hfollowing : d.machine.following = c.machine.following := by unfold Machine.following; rw [hpc]
  rw [pc_of_reads_skip hs hr, pc_of_reads_skip hd hr', hopposite, Condition.holds_congr hv hkeypad, hfollowing]
  cases condition.holds c.machine with
  | true => exact Or.inl ⟨rfl, rfl⟩
  | false => exact Or.inr ⟨rfl, rfl⟩

/-- After a cycle that goes through, a machine that was reached in any way goes on where the word tells, everything
    wrapping around at the end of the memory. Of two opposite skips exactly one skips, whatever the state. -/
theorem cycle_goes_on (hc : c.Reached) (hs : c.cycle.1 = .ok signal) : c.machine.GoesOn c.cycle.2.machine ∧
    ∀ (d : Computer H) (signal' : Signal), d.cycle.1 = .ok signal' → c.machine.fetched.Opposite d.machine.fetched →
      d.machine.pc = c.machine.pc → d.machine.v = c.machine.v → d.machine.keypad = c.machine.keypad →
        (c.cycle.2.machine.pc.toNat = (c.machine.following + 2) % 4096 ∧
            d.cycle.2.machine.pc.toNat = c.machine.following) ∨
          (c.cycle.2.machine.pc.toNat = c.machine.following ∧
            d.cycle.2.machine.pc.toNat = (c.machine.following + 2) % 4096) :=
  ⟨goesOn hc hs, fun _ _ hd hw hpc hv hkeypad => skips_opposite hs hd hw hpc hv hkeypad⟩

/-- A computer about to execute the word of the last memory cell and the first one. Its program writes `40` into the last
    cell and jumps there; the first cell is one of the font, `F0`. -/
def straddling : Computer (Devices (FrameRecorder Frame) SilentBeeper KeyScript ListSource) :=
  ((start { graphics := {}, audio := {}, keyboard := {}, numbers := ⟨[]⟩ }
    { name := "", threshold := none, coloured := false, timestamps := false, startedAt := 0 } {}).obeyAll
      (.load [0xAF, 0xFF, 0x60, 0x40, 0xF0, 0x55, 0x1F, 0xFF] :: List.replicate 4 .cycle)).2

/-- The word `40F0` skips, as `V0` is not `F0`, and both the fetch and the skip go past the end of the memory. -/
theorem cycle_goes_on_straddling : straddling.Reached ∧ straddling.cycle.1 = .ok .proceed ∧
    straddling.machine.pc.toNat = 0xFFF ∧ straddling.machine.fetched = 0x40F0 ∧
      straddling.cycle.2.machine.pc.toNat = 3 := by
  have hreached : straddling.Reached := ⟨_, _, _, _, rfl⟩
  obtain ⟨hs, hpc, hword, hdiffers⟩ : straddling.cycle.1 = .ok .proceed ∧ straddling.machine.pc.toNat = 0xFFF ∧
      straddling.machine.fetched = 0x40F0 ∧
        straddling.machine.v[straddling.machine.fetched.x] ≠ straddling.machine.fetched.nn := by decide +kernel
  have hskips := (cycle_goes_on hreached hs).1.differsFromByte (by rw [hword]; decide)
  have hnext : (straddling.machine.following + 2) % 4096 = 3 := by rw [Machine.following, hpc]
  exact ⟨hreached, hs, hpc, hword, (hskips.taken.mpr hdiffers).trans hnext⟩

end Computer

end Chip8
