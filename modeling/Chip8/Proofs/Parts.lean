import Chip8.Device.FrameRecorder
import Chip8.Device.NumberSources
import Chip8.Device.Rigged
import Chip8.Device.SilentBeeper
import Chip8.Proofs.History
import Chip8.Proofs.MemoryRuns
import Mathlib.Control.Monad.Basic

/-! The parts of a machine and what writes them. A word writes the parts that the table of `Word.Writes` gives to its
    form and its operands, a program that is loaded writes its cells, and a poll writes the keys that it changes; all
    else is kept, and the timers tick. So a part that nothing in a run writes is the same at the end. -/

namespace Chip8

/-! ### Registers -/

namespace Arithmetic

/-- The operations that may change the flag. -/
def flagging : List Arithmetic := [.add, .sub, .shiftRight, .subFrom, .shiftLeft]

theorem flag_of_not_mem {op : Arithmetic} (h : op ∉ flagging) (x y flag : Byte) : (op.compute x y flag).2 = flag := by
  cases op with
  | copy | or | and | xor => rfl
  | _ => exact absurd (by simp [flagging]) h

end Arithmetic

namespace Machine
variable {m : Machine} {x y r : Register}

theorem setRegister_self (m : Machine) (x : Register) (b : Byte) : (m.setRegister x b).v.get x = b :=
  Vector.getElem_set_self _

theorem setRegister_of_ne {b : Byte} (h : r ≠ x) : (m.setRegister x b).v.get r = m.v.get r :=
  Vector.getElem_set_ne x.isLt r.isLt fun heq => h (Fin.ext heq.symm)

theorem compute_eq (m : Machine) (op : Arithmetic) (x y : Register) : m.compute op x y =
    (m.setRegister Register.flag (op.compute (m.v.get x) (m.v.get y) (m.v.get Register.flag)).2).setRegister x
      (op.compute (m.v.get x) (m.v.get y) (m.v.get Register.flag)).1 := rfl

theorem compute_of_ne {op : Arithmetic} (hx : r ≠ x) (hflag : r = Register.flag → op ∉ Arithmetic.flagging) :
    (m.compute op x y).v.get r = m.v.get r := by
  rw [compute_eq]
  refine (setRegister_of_ne hx).trans ?_
  by_cases hr : r = Register.flag
  · subst hr
    exact (setRegister_self _ _ _).trans (Arithmetic.flag_of_not_mem (hflag rfl) _ _ _)
  · exact setRegister_of_ne hr

theorem loadRegisters_of_le (h : r ≤ x) : (m.loadRegisters x).v.get r = m.memory.read (m.i.toNat + r) :=
  (Vector.getElem_ofFn r.isLt).trans (if_pos h)

theorem loadRegisters_of_lt (h : x < r) : (m.loadRegisters x).v.get r = m.v.get r :=
  (Vector.getElem_ofFn r.isLt).trans (if_neg (Fin.not_le.mpr h))

end Machine

/-! ### Parts -/

inductive Part where
  | cell (a : Address)
  | frame
  | stack
  | index
  | register (r : Register)
  | delay
  | sound
  | key (k : Key)
  deriving DecidableEq

namespace Part

/-- The part is the same in `m'` as in `m`; a timer has ticked `n` times since. -/
def Kept (n : Nat) (m m' : Machine) : Part → Prop
  | cell a => m'.memory.get a = m.memory.get a
  | frame => m'.frame = m.frame
  | stack => m'.stack = m.stack
  | index => m'.i = m.i
  | register r => m'.v.get r = m.v.get r
  | delay => m'.delay.toNat = m.delay.toNat - n
  | sound => m'.sound.toNat = m.sound.toNat - n
  | key k => m'.keypad.get k = m.keypad.get k

variable {m m₁ m' : Machine} {part : Part}

theorem Kept.refl (m : Machine) (part : Part) : part.Kept 0 m m := by
  cases part <;> rfl

theorem Kept.trans {n k : Nat} (first : part.Kept n m m₁) (second : part.Kept k m₁ m') : part.Kept (n + k) m m' := by
  cases part with
  | delay | sound =>
    simp only [Kept] at first second ⊢
    omega
  | _ => exact Eq.trans second first

/-! ### Updates -/

theorem kept_pc (pc : UInt16) : part.Kept 0 m { m with pc } := by
  cases part <;> rfl

theorem kept_advance (m : Machine) (part : Part) : part.Kept 0 m m.advance := kept_pc _

theorem kept_keypad {keypad : Keypad} (h : ∀ k, part = .key k → keypad.get k = m.keypad.get k) :
    part.Kept 0 m { m with keypad } := by
  cases part with
  | key k => exact h k rfl
  | _ => rfl

theorem toNat_countDown (timer : Byte) : (Machine.countDown timer).toNat = timer.toNat - 1 := by
  unfold Machine.countDown
  split
  · rename_i h
    rw [h]
    rfl
  · rename_i h
    have hne : timer.toNat ≠ 0 := fun h0 => h (UInt8.toNat_inj.mp h0)
    have hle : (1 : Byte) ≤ timer := UInt8.le_iff_toNat_le.mpr (Nat.one_le_iff_ne_zero.mpr hne)
    rw [UInt8.toNat_sub_of_le _ _ hle]
    rfl

theorem kept_tick (m : Machine) (part : Part) : part.Kept 1 m m.tick := by
  cases part with
  | delay => exact toNat_countDown _
  | sound => exact toNat_countDown _
  | _ => rfl

theorem kept_registers {v : Registers} (h : ∀ r, part = .register r → v.get r = m.v.get r) : part.Kept 0 m { m with v } := by
  cases part with
  | register r => exact h r rfl
  | _ => rfl

theorem kept_setRegister {x : Register} {b : Byte} (h : part ≠ .register x) : part.Kept 0 m (m.setRegister x b) := by
  refine kept_registers ?_
  rintro r rfl
  exact Machine.setRegister_of_ne fun heq => h (by rw [heq])

theorem kept_writeRun {a : Nat} {bytes : List Byte} (h : ∀ k < bytes.length, part ≠ .cell (Memory.cell (a + k))) :
    part.Kept 0 m { m with memory := m.memory.writeRun a bytes } := by
  cases part with
  | cell p => exact Memory.get_writeRun_of_ne fun k hk heq => h k hk (by rw [heq])
  | _ => rfl

end Part

/-! ### Writers -/

namespace Form

/-- The form `8XYN`, of all operations on two registers. -/
def arithmetic : Form := ⟨0x8, .any, .any, .any⟩

/-- The forms whose words write the register that their second digit names. -/
def settingX : List Form := [set, add, arithmetic, random, getDelay, waitKey]

/-- The forms whose words write the flag. -/
def settingFlag : List Form := draw :: Arithmetic.flagging.map operation

end Form

/-- The part is a key that is down in one of the keypads and up in the other. -/
def Part.Differs (keypad keypad' : Keypad) : Part → Prop
  | .key k => keypad'.get k ≠ keypad.get k
  | _ => False

instance (keypad keypad' : Keypad) : (part : Part) → Decidable (part.Differs keypad keypad')
  | .key _ => inferInstanceAs (Decidable (_ ≠ _))
  | .cell _ | .frame | .stack | .index | .register _ | .delay | .sound => inferInstanceAs (Decidable False)

/-- The word writes the part, where the index stands at `i`. -/
def Word.Writes (w : Word) (i : UInt16) : Part → Prop
  | .cell a => (Form.decimal.Fits w ∧ ∃ k ≤ 2, a.val = (i.toNat + k) % 4096) ∨
      (Form.store.Fits w ∧ ∃ k ≤ w.x.val, a.val = (i.toNat + k) % 4096)
  | .frame => Form.clear.Fits w ∨ Form.draw.Fits w
  | .stack => Form.call.Fits w ∨ Form.ret.Fits w
  | .index => Form.setIndex.Fits w ∨ Form.addIndex.Fits w ∨ Form.glyph.Fits w
  | .register r => (r = w.x ∧ ∃ f ∈ Form.settingX, f.Fits w) ∨ (r = Register.flag ∧ ∃ f ∈ Form.settingFlag, f.Fits w) ∨
      (r ≤ w.x ∧ Form.load.Fits w)
  | .delay => Form.setDelay.Fits w
  | .sound => Form.setSound.Fits w
  | .key _ => False

instance (w : Word) (i : UInt16) : (part : Part) → Decidable (w.Writes i part)
  | .cell _ => inferInstanceAs (Decidable (_ ∧ _ ∨ _ ∧ _))
  | .frame | .stack => inferInstanceAs (Decidable (_ ∨ _))
  | .index => inferInstanceAs (Decidable (_ ∨ _ ∨ _))
  | .register _ => inferInstanceAs (Decidable (_ ∧ _ ∨ _ ∧ _ ∨ _ ∧ _))
  | .delay => inferInstanceAs (Decidable (Form.setDelay.Fits w))
  | .sound => inferInstanceAs (Decidable (Form.setSound.Fits w))
  | .key _ => inferInstanceAs (Decidable False)

/-! ### Instructions -/

namespace Instruction
variable {w : Word} {ins : Instruction} {answer : Int} {m m' : Machine} {part : Part}

theorem kept_setX {f : Form} (hf : f.Fits w) (hmem : f ∈ Form.settingX) (h : ¬ w.Writes m.i part) (b : Byte) :
    part.Kept 0 m (m.setRegister w.x b) := by
  refine Part.kept_setRegister ?_
  rintro rfl
  exact h (Or.inl ⟨rfl, f, hmem, hf⟩)

/-- What a word does not write its instruction keeps, whatever it is answered. -/
theorem Reads.kept (hr : Reads w ins) (hp : ins.perform answer m = .ok m') (h : ¬ w.Writes m.i part) :
    part.Kept 0 m m' := by
  -- Each case shows that the one part which the instruction writes is none that is kept.
  cases hr with
  | clear hf =>
    cases hp
    cases part with
    | frame => exact absurd (Or.inl hf) h
    | _ => rfl
  | ret hf =>
    obtain ⟨stack, address, -, rfl⟩ := perform_ret_eq_ok.mp hp
    cases part with
    | stack => exact absurd (Or.inr hf) h
    | _ => rfl
  | call hf =>
    obtain ⟨stack, -, rfl⟩ := perform_call_eq_ok.mp hp
    cases part with
    | stack => exact absurd (Or.inl hf) h
    | _ => rfl
  | jump | jumpFromV0 =>
    cases hp
    exact Part.kept_pc _
  | skipEqualsByte | skipDiffersFromByte | skipEqualsRegister | skipDiffersFromRegister | skipKeyDown | skipKeyUp =>
    cases hp
    split
    · exact Part.kept_pc _
    · exact Part.Kept.refl _ _
  | set hf | add hf | random hf | getDelay hf | waitKey hf =>
    cases hp
    exact kept_setX hf (by simp [Form.settingX]) h _
  | @arithmetic op hf =>
    cases hp
    refine Part.kept_registers ?_
    rintro r rfl
    refine Machine.compute_of_ne ?_ ?_
    · rintro rfl
      have hfamily : Form.arithmetic.Fits w := ⟨hf.first, trivial, trivial, trivial⟩
      exact h (Or.inl ⟨rfl, _, by simp [Form.settingX], hfamily⟩)
    · intro hflag hop
      exact h (Or.inr (Or.inl ⟨hflag, _, List.mem_cons_of_mem _ (List.mem_map_of_mem hop), hf⟩))
  | setIndex hf =>
    cases hp
    cases part with
    | index => exact absurd (Or.inl hf) h
    | _ => rfl
  | addIndex hf =>
    cases hp
    cases part with
    | index => exact absurd (Or.inr (Or.inl hf)) h
    | _ => rfl
  | glyph hf =>
    cases hp
    cases part with
    | index => exact absurd (Or.inr (Or.inr hf)) h
    | _ => rfl
  | draw hf =>
    cases hp
    cases part with
    | frame => exact absurd (Or.inr hf) h
    | register r =>
      refine Machine.setRegister_of_ne ?_
      rintro rfl
      exact h (Or.inr (Or.inl ⟨rfl, _, List.mem_cons_self, hf⟩))
    | _ => rfl
  | setDelay hf =>
    cases hp
    cases part with
    | delay => exact absurd hf h
    | _ => rfl
  | setSound hf =>
    cases hp
    cases part with
    | sound => exact absurd hf h
    | _ => rfl
  | decimal hf =>
    cases hp
    refine Part.kept_writeRun ?_
    rintro k hk rfl
    exact h (Or.inl ⟨hf, k, Nat.le_of_lt_succ hk, rfl⟩)
  | store hf =>
    cases hp
    refine Part.kept_writeRun ?_
    rintro k hk rfl
    have hk : k < w.x.val + 1 := Nat.lt_of_lt_of_le hk (List.length_take_le _ _)
    exact h (Or.inr ⟨hf, k, Nat.le_of_lt_succ hk, rfl⟩)
  | load hf =>
    cases hp
    refine Part.kept_registers ?_
    rintro r rfl
    refine Machine.loadRegisters_of_lt (Fin.not_le.mp fun hle => ?_)
    exact h (Or.inr (Or.inr ⟨hle, hf⟩))

theorem Reads.keypad_eq (hr : Reads w ins) (hp : ins.perform answer m = .ok m') : m'.keypad = m.keypad := by
  apply Vector.ext
  intro k hk
  have hkey : Part.Kept 0 m m' (.key ⟨k, hk⟩) := hr.kept hp id
  exact hkey

end Instruction

/-! ### Cycles and loads -/

namespace Computer
variable {H : Type} [Host H] {c : Computer H} {signal : Signal} {part : Part}

/-- The order writes the part if it succeeds: a program its cells, a cycle what the fetched word writes and the keys
    that the poll finds changed. -/
def Writes (c : Computer H) : Order → Part → Prop
  | .load program, part => ∃ k < program.length, part = .cell (Memory.cell (c.machine.pc.toNat + k))
  | .cycle, part => c.machine.fetched.Writes c.machine.i part ∨
      ∃ keypad ∈ c.calls.filterMap Call.keypad?, part.Differs c.machine.keypad keypad

instance (c : Computer H) : (order : Order) → (part : Part) → Decidable (c.Writes order part)
  | .load program, _ => inferInstanceAs (Decidable (∃ k < program.length, _))
  | .cycle, part => decidable_of_iff (c.machine.fetched.Writes c.machine.i part ∨ (c.calls.filterMap Call.keypad?).any
      (fun keypad => decide (part.Differs c.machine.keypad keypad)) = true)
      (by simp only [Writes, List.any_eq_true, decide_eq_true_eq])

/-- The last call of a cycle that goes through has the keypad polled, which nothing but the poll has changed. -/
theorem polled_of_ok (hs : c.cycle.1 = .ok signal) : ∃ calls leave,
    c.calls = calls ++ [.poll c.machine.keypad (.ok (c.cycle.2.machine.keypad, leave))] := by
  obtain ⟨ins, answer, m, keypad, hr, hp, hm, calls, leave, hcalls⟩ := performed_of_ok hs
  have hkeypad : m.keypad = c.machine.advance.keypad := hr.keypad_eq hp
  refine ⟨calls, leave, ?_⟩
  rw [hcalls, hm, hkeypad]
  rfl

theorem kept_of_ok (hs : c.cycle.1 = .ok signal) (h : ¬ c.Writes .cycle part) :
    part.Kept 1 c.machine c.cycle.2.machine := by
  obtain ⟨ins, answer, m, keypad, hr, hp, hm, calls, leave, hcalls⟩ := performed_of_ok hs
  have hkeypad : m.keypad = c.machine.advance.keypad := hr.keypad_eq hp
  have hperform : part.Kept 0 c.machine m := (Part.kept_advance _ _).trans (hr.kept hp fun hw => h (Or.inl hw))
  have htick : part.Kept 1 c.machine m.tick := hperform.trans (Part.kept_tick _ _)
  rw [hm]
  refine htick.trans (Part.kept_keypad ?_)
  rintro k rfl
  refine Classical.byContradiction fun hne => h (Or.inr ⟨keypad, ?_, ?_⟩)
  · rw [hcalls, List.filterMap_append]
    exact List.mem_append_right _ (List.mem_singleton_self _)
  · intro heq
    exact hne (heq.trans (congrArg (fun keys : Keypad => keys.get k) hkeypad).symm)

theorem kept_of_loaded {program : Program} {m : Machine} (hm : c.machine.loadProgram program = .ok m)
    (h : ¬ c.Writes (.load program) part) : part.Kept 0 c.machine m := by
  obtain ⟨-, rfl⟩ := Machine.loadProgram_eq_ok.mp hm
  exact Part.kept_writeRun fun k hk heq => h ⟨k, hk, heq⟩

/-! ### Runs -/

theorem run_kept (orders : List Order) (h : ∀ entry ∈ c.history orders, ¬ entry.1.Writes entry.2 part) :
    part.Kept (c.executed orders).length c.machine (c.obeyAll orders).2.machine := by
  -- The ticks are counted from the front, so the induction is for all computers.
  induction orders generalizing c with
  | nil => exact Part.Kept.refl _ _
  | cons order orders ih =>
    rw [obeyAll_cons]
    by_cases hsucceeded : (c.obey order).1.succeeded = true
    · rw [history_of_succeeded hsucceeded] at h
      have hfirst := h _ List.mem_cons_self
      have hrest := ih fun entry hentry => h entry (List.mem_cons_of_mem _ hentry)
      cases order with
      | load program =>
        rw [executed_load, ← Nat.zero_add (List.length _)]
        exact (kept_of_loaded (loadProgram_of_succeeded hsucceeded) hfirst).trans hrest
      | cycle =>
        obtain ⟨signal, hs⟩ := cycle_ok_of_succeeded hsucceeded
        rw [executed_cycle hsucceeded, List.length_cons, Nat.add_comm]
        exact (kept_of_ok hs hfirst).trans hrest
    · rw [history_of_not_succeeded hsucceeded] at h
      rw [executed_of_not_succeeded hsucceeded, ← machine_of_not_succeeded hsucceeded]
      exact ih h

/-- A cycle that goes through keeps every part that its word does not write, where a timer that is not set ticks, and
    has the keypad from the poll, which was given the one before. So at the end of a run every part that no order has
    written is as it was, and a timer that was never set has ticked once for every cycle that went through. -/
theorem unwritten_parts_kept (c : Computer H) :
    (∀ signal, c.cycle.1 = .ok signal →
      (∀ part, ¬ c.Writes .cycle part → part.Kept 1 c.machine c.cycle.2.machine) ∧
        ∃ calls leave, c.calls = calls ++ [.poll c.machine.keypad (.ok (c.cycle.2.machine.keypad, leave))]) ∧
      ∀ orders part, (∀ entry ∈ c.history orders, ¬ entry.1.Writes entry.2 part) →
        part.Kept (c.executed orders).length c.machine (c.obeyAll orders).2.machine :=
  ⟨fun _ hs => ⟨fun _ => kept_of_ok hs, polled_of_ok hs⟩, fun orders _ => run_kept orders⟩

/-- A computer whose delay timer was set to 9 and has ticked once, about to store `V0` at `300`. Every poll flips the
    key 3. -/
def counting : Computer (Devices (FrameRecorder Frame) SilentBeeper RiggedKeyboard ListSource) :=
  ((start
    { graphics := {}
      audio := {}
      keyboard := { script := {}, flipped := some [3] }
      numbers := ⟨[]⟩ }
    { name := "", threshold := none, coloured := false, timestamps := false, startedAt := 0 } {}).obeyAll
      [.load [0x60, 0x09, 0xF0, 0x15, 0xA3, 0x00, 0xF0, 0x55], .cycle, .cycle]).2

/-- The program and the key 0 stay as they are and the timer ticks, while the cell `300` and the key 3 are written. -/
theorem unwritten_parts_kept_counting :
    (counting.cycle.1 = .ok .proceed ∧ ¬ counting.Writes .cycle .delay ∧
      Part.delay.Kept 1 counting.machine counting.cycle.2.machine) ∧
    (∀ part ∈ ([.delay, .cell 0x200, .key 0] : List Part),
      part.Kept 2 counting.machine (counting.obeyAll [.cycle, .cycle]).2.machine) ∧
    ∀ part ∈ ([.index, .cell 0x300, .key 3] : List Part),
      ∃ entry ∈ counting.history [.cycle, .cycle], entry.1.Writes entry.2 part := by
  obtain ⟨hs, hdelay, hcount, hunwritten, hwritten⟩ : counting.cycle.1 = .ok .proceed ∧
      ¬ counting.Writes .cycle .delay ∧ (counting.executed [.cycle, .cycle]).length = 2 ∧
      (([.delay, .cell 0x200, .key 0] : List Part).all fun part => (counting.history [.cycle, .cycle]).all fun entry =>
        !decide (entry.1.Writes entry.2 part)) = true ∧
      (([.index, .cell 0x300, .key 3] : List Part).all fun part => (counting.history [.cycle, .cycle]).any fun entry =>
        decide (entry.1.Writes entry.2 part)) = true := by decide +kernel
  simp only [List.all_eq_true, List.any_eq_true, Bool.not_eq_true', decide_eq_false_iff_not, decide_eq_true_eq]
    at hunwritten hwritten
  obtain ⟨hcycle, hrun⟩ := unwritten_parts_kept counting
  refine ⟨⟨hs, hdelay, (hcycle _ hs).1 _ hdelay⟩, fun part hpart => ?_, hwritten⟩
  rw [← hcount]
  exact hrun _ part (hunwritten part hpart)

end Computer

end Chip8
