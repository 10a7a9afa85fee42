import Chip8.Device.Rigged
import Chip8.Proofs.Parts
import Chip8.Proofs.ProgramCounter
import Mathlib.Data.List.GetD

/-! Subroutines. A call is outstanding until the return that ends it, and the stack holds the return addresses of the
    outstanding calls: a call puts its own on top, a return takes that of the innermost one. Whatever is done while a
    call is outstanding leaves alone what lies below it, so the return that ends it finds it as it was. -/

namespace Chip8

/-! ### Call stacks -/

theorem getD_concat {α : Type} (l : List α) (a d : α) (k : Nat) :
    (l ++ [a]).getD k d = if l.length = k then a else l.getD k d := by
  rcases Nat.lt_trichotomy l.length k with hlt | rfl | hgt
  · rw [if_neg (Nat.ne_of_lt hlt), List.getD_eq_default _ _ (by rw [List.length_append]; exact hlt),
      List.getD_eq_default _ _ (Nat.le_of_lt hlt)]
  · simp
  · rw [if_neg (Nat.ne_of_gt hgt), List.getD_append _ _ _ _ hgt]

namespace CallStack

/-- The stack holds the addresses, the last one on top, and the slots above it are zero. -/
structure Holds (s : CallStack) (addresses : List Nat) : Prop where
  length : addresses.length ≤ 16
  pointer : s.pointer = addresses.length
  slots : ∀ k : Fin 16, s.slots[k].toNat = addresses.getD k 0

variable {s t : CallStack} {addresses : List Nat} {address : UInt16}

theorem empty_holds : empty.Holds [] where
  length := by decide
  pointer := rfl
  slots k := by simp [empty]

theorem Holds.unique (hs : s.Holds addresses) (ht : t.Holds addresses) : s = t := by
  have hslots : s.slots = t.slots := by
    apply Vector.ext
    intro k hk
    exact UInt16.toNat_inj.mp ((hs.slots ⟨k, hk⟩).trans (ht.slots ⟨k, hk⟩).symm)
  have hpointer : s.pointer = t.pointer := hs.pointer.trans ht.pointer.symm
  cases s
  cases t
  cases hslots
  cases hpointer
  rfl

theorem Holds.push (h : s.Holds addresses) (hp : s.push address = .ok t) :
    t.Holds (addresses ++ [address.toNat % 4096]) := by
  obtain ⟨hlt, rfl⟩ := push_eq_ok.mp hp
  have hpointer := h.pointer
  have hslot := slot_val (p := s.pointer) (by omega) hlt
  have hmask : (address &&& 0xFFF).toNat = address.toNat % 4096 :=
    (UInt16.toNat_and _ _).trans (Nat.and_two_pow_sub_one_eq_mod _ 12)
  refine ⟨?_, ?_, fun k => ?_⟩
  · simp only [List.length_append, List.length_singleton]
    omega
  · simp only [List.length_append, List.length_singleton]
    omega
  · have heq : (slot s.pointer).val = addresses.length := by omega
    simp only [Fin.getElem_fin, Vector.getElem_set, getD_concat, heq]
    split
    · exact hmask
    · exact h.slots k

theorem Holds.pop (h : s.Holds addresses) (hp : s.pop = .ok (t, address)) :
    ∃ rest, addresses = rest ++ [address.toNat] ∧ t.Holds rest := by
  obtain ⟨hlt, rfl, rfl⟩ := pop_eq_ok.mp hp
  have hpointer := h.pointer
  have hne : addresses ≠ [] := by
    rintro rfl
    rw [List.length_nil] at hpointer
    omega
  obtain ⟨rest, top, rfl⟩ : ∃ rest top, addresses = rest ++ [top] := ⟨_, _, (List.dropLast_concat_getLast hne).symm⟩
  have hlength := h.length
  simp only [List.length_append, List.length_singleton] at hpointer hlength
  have hslot := slot_val (p := s.pointer - 1) (by omega) (by omega)
  have heq : (slot (s.pointer - 1)).val = rest.length := by omega
  refine ⟨rest, ?_, by omega, by simp only; omega, fun k => ?_⟩
  · have htop : (s.slots.get (slot (s.pointer - 1))).toNat = _ := h.slots (slot (s.pointer - 1))
    rw [htop, getD_concat, if_pos heq.symm]
  · have hk := h.slots k
    simp only [getD_concat] at hk
    simp only [Fin.getElem_fin, Vector.getElem_set, heq]
    split
    · rename_i hfree
      rw [List.getD_eq_default _ _ (Nat.le_of_eq hfree)]
      rfl
    · rename_i hne
      exact hk.trans (if_neg hne)

end CallStack

/-! ### Outstanding calls -/

theorem Form.not_call_of_ret {w : Word} (h : Form.ret.Fits w) : ¬ Form.call.Fits w := by
  rw [Form.fits_given_iff.mp h]
  decide

namespace Machine

/-- The outstanding calls once the machine has executed its word, by those before; the innermost one is the last. A call
    is named by the machine that executes it. -/
def nest (calls : List Machine) (m : Machine) : List Machine :=
  if Form.call.Fits m.fetched then calls ++ [m] else if Form.ret.Fits m.fetched then calls.dropLast else calls

/-- The calls that are outstanding once the machines of the list have executed their words. -/
def outstanding (ms : List Machine) : List Machine := ms.foldl nest []

/-- These calls are outstanding: the stack holds the addresses behind them. -/
def Awaits (m : Machine) (calls : List Machine) : Prop := m.stack.Holds (calls.map following)

/-- The outermost of the outstanding calls are these. -/
def Within (m : Machine) (outer : List Machine) : Prop := ∃ calls, m.Awaits calls ∧ outer <+: calls

variable {m m' : Machine} {calls outer : List Machine}

theorem Awaits.pointer (h : m.Awaits calls) : m.stack.pointer = calls.length := by
  rw [CallStack.Holds.pointer h, List.length_map]

theorem Awaits.of_stack_eq (h : m.Awaits calls) (hstack : m'.stack = m.stack) : m'.Awaits calls := by
  unfold Awaits
  rw [hstack]
  exact h

theorem nest_call (h : Form.call.Fits m.fetched) : nest calls m = calls ++ [m] := if_pos h

theorem nest_ret (h : Form.ret.Fits m.fetched) : nest calls m = calls.dropLast :=
  (if_neg (Form.not_call_of_ret h)).trans (if_pos h)

theorem nest_other (hcall : ¬ Form.call.Fits m.fetched) (hret : ¬ Form.ret.Fits m.fetched) : nest calls m = calls :=
  (if_neg hcall).trans (if_neg hret)

theorem prefix_nest (h : outer <+: calls) (hlength : outer.length ≤ (nest calls m).length) : outer <+: nest calls m := by
  by_cases hcall : Form.call.Fits m.fetched
  · rw [nest_call hcall]
    exact h.trans (List.prefix_append _ _)
  · by_cases hret : Form.ret.Fits m.fetched
    · rw [nest_ret hret] at hlength ⊢
      exact List.prefix_of_prefix_length_le h (List.dropLast_prefix _) hlength
    · rw [nest_other hcall hret]
      exact h

theorem outstanding_concat (ms : List Machine) (m : Machine) :
    outstanding (ms ++ [m]) = nest (outstanding ms) m := by
  rw [outstanding, List.foldl_append]
  rfl

end Machine

/-- How many of the machines execute a word of the form. -/
def Form.count (f : Form) (ms : List Machine) : Int := ms.countP fun m => f.Fits m.fetched

theorem Form.count_append (f : Form) (ms ms' : List Machine) : f.count (ms ++ ms') = f.count ms + f.count ms' := by
  simp [count]

/-! ### Cycles on the stack -/

namespace Computer
variable {H : Type} [Host H] {c : Computer H} {signal : Signal} {calls outer : List Machine}

/-- What a cycle that goes through does to the stack: a call puts the address of the next word on it, a return goes on at
    the address that it takes from it, and any other word leaves it alone. -/
theorem stack_of_ok (hs : c.cycle.1 = .ok signal) :
    (Form.call.Fits c.machine.fetched ∧ c.machine.stack.push c.machine.advance.pc = .ok c.cycle.2.machine.stack) ∨
      (Form.ret.Fits c.machine.fetched ∧
        c.machine.stack.pop = .ok (c.cycle.2.machine.stack, c.cycle.2.machine.pc)) ∨
      (¬ Form.call.Fits c.machine.fetched ∧ ¬ Form.ret.Fits c.machine.fetched ∧
        c.cycle.2.machine.stack = c.machine.stack) := by
  by_cases hcall : Form.call.Fits c.machine.fetched
  · obtain ⟨answer, m, keypad, hp, hm⟩ := performed_of_reads hs (.call hcall)
    obtain ⟨stack, hpush, rfl⟩ := Instruction.perform_call_eq_ok.mp hp
    rw [hm]
    exact Or.inl ⟨hcall, hpush⟩
  · by_cases hret : Form.ret.Fits c.machine.fetched
    · obtain ⟨answer, m, keypad, hp, hm⟩ := performed_of_reads hs (.ret hret)
      obtain ⟨stack, address, hpop, rfl⟩ := Instruction.perform_ret_eq_ok.mp hp
      rw [hm]
      exact Or.inr (Or.inl ⟨hret, hpop⟩)
    · have hkept : Part.stack.Kept 1 c.machine c.cycle.2.machine := by
        refine kept_of_ok hs ?_
        rintro (hw | ⟨keypad, -, hdiffers⟩)
        · exact hw.elim hcall hret
        · exact hdiffers
      exact Or.inr (Or.inr ⟨hcall, hret, hkept⟩)

theorem awaits_of_ok (h : c.machine.Awaits calls) (hs : c.cycle.1 = .ok signal) :
    c.cycle.2.machine.Awaits (Machine.nest calls c.machine) := by
  rcases stack_of_ok hs with ⟨hcall, hpush⟩ | ⟨hret, hpop⟩ | ⟨hcall, hret, hstack⟩
  · have hpushed := CallStack.Holds.push h hpush
    have hfollowing : c.machine.advance.pc.toNat % 4096 = c.machine.following := by
      rw [show c.machine.advance.pc.toNat = c.machine.following from Machine.toNat_next _]
      exact Nat.mod_eq_of_lt c.machine.following_lt
    rw [Machine.nest_call hcall]
    unfold Machine.Awaits
    rw [List.map_append, List.map_singleton, ← hfollowing]
    exact hpushed
  · obtain ⟨rest, hcalls, hrest⟩ := CallStack.Holds.pop h hpop
    rw [Machine.nest_ret hret]
    unfold Machine.Awaits
    rw [List.map_dropLast, hcalls, List.dropLast_concat]
    exact hrest
  · rw [Machine.nest_other hcall hret]
    exact h.of_stack_eq hstack

theorem pointer_of_ok (hs : c.cycle.1 = .ok signal) : c.cycle.2.machine.stack.pointer =
    c.machine.stack.pointer + Form.call.count [c.machine] - Form.ret.count [c.machine] := by
  rcases stack_of_ok hs with ⟨hcall, hpush⟩ | ⟨hret, hpop⟩ | ⟨hcall, hret, hstack⟩
  · have hret : ¬ Form.ret.Fits c.machine.fetched := fun hret => Form.not_call_of_ret hret hcall
    obtain ⟨-, hstack⟩ := CallStack.push_eq_ok.mp hpush
    simp [Form.count, hcall, hret, hstack]
  · obtain ⟨-, hstack, -⟩ := CallStack.pop_eq_ok.mp hpop
    simp [Form.count, Form.not_call_of_ret hret, hret, hstack, Int.sub_eq_add_neg]
  · simp [Form.count, hcall, hret, hstack]

/-- Only a cycle that goes through changes the stack. -/
theorem stack_of_obey (c : Computer H) (order : Order) : (c.obey order).2.machine.stack = c.machine.stack ∨
    (order = .cycle ∧ ∃ signal, c.cycle.1 = .ok signal) := by
  by_cases hsucceeded : (c.obey order).1.succeeded = true
  · cases order with
    | load program =>
      obtain ⟨-, hm⟩ := Machine.loadProgram_eq_ok.mp (loadProgram_of_succeeded hsucceeded)
      rw [hm]
      exact Or.inl rfl
    | cycle => exact Or.inr ⟨rfl, cycle_ok_of_succeeded hsucceeded⟩
  · rw [machine_of_not_succeeded hsucceeded]
    exact Or.inl rfl

/-! ### Runs on the stack -/

theorem start_awaits (host : H) (logger : Logger) (console : Console) (orders : List Order) :
    ((start host logger console).obeyAll orders).2.machine.Awaits
      (Machine.outstanding ((start host logger console).executed orders)) := by
  have hstart : (start host logger console).machine.Awaits (Machine.outstanding []) := CallStack.empty_holds
  refine executed_induction (R := fun m ms => m.Awaits (Machine.outstanding ms)) ?_ ?_ orders hstart
  · intro m program m' ms h hm
    obtain ⟨-, rfl⟩ := Machine.loadProgram_eq_ok.mp hm
    exact h
  · intro c signal ms h hs
    rw [Machine.outstanding_concat]
    exact awaits_of_ok h hs

theorem start_pointer (host : H) (logger : Logger) (console : Console) (orders : List Order) :
    ((start host logger console).obeyAll orders).2.machine.stack.pointer =
      Form.call.count ((start host logger console).executed orders) -
        Form.ret.count ((start host logger console).executed orders) := by
  have hstart : (start host logger console).machine.stack.pointer = Form.call.count [] - Form.ret.count [] := rfl
  refine executed_induction (R := fun m ms => m.stack.pointer = Form.call.count ms - Form.ret.count ms) ?_ ?_ orders
    hstart
  · intro m program m' ms h hm
    obtain ⟨-, rfl⟩ := Machine.loadProgram_eq_ok.mp hm
    exact h
  · intro c signal ms h hs
    rw [pointer_of_ok hs, h, Form.count_append, Form.count_append]
    omega

/-- As long as the pointer does not go below them, the outermost calls stay outstanding, whatever is done. -/
theorem within_obey {order : Order} (h : c.machine.Within outer)
    (hp : outer.length ≤ (c.obey order).2.machine.stack.pointer) : (c.obey order).2.machine.Within outer := by
  obtain ⟨calls, hcalls, houter⟩ := h
  rcases stack_of_obey c order with hstack | ⟨rfl, signal, hs⟩
  · exact ⟨calls, hcalls.of_stack_eq hstack, houter⟩
  · have hnext := awaits_of_ok hcalls hs
    have hp : outer.length ≤ c.cycle.2.machine.stack.pointer := hp
    rw [hnext.pointer, Int.ofNat_le] at hp
    exact ⟨_, hnext, Machine.prefix_nest houter hp⟩

/-- The stack stays higher than `d` from the begin of the run to its end. -/
def StaysAbove (c : Computer H) (d : Int) (orders : List Order) : Prop :=
  ∀ n ≤ orders.length, d < (c.obeyAll (orders.take n)).2.machine.stack.pointer

theorem within_obeyAll {d : Int} {orders : List Order} (h : c.machine.Within outer) (hd : outer.length ≤ d + 1)
    (hstay : c.StaysAbove d orders) : (c.obeyAll orders).2.machine.Within outer := by
  -- `Within` does not say which calls are outstanding above the outermost ones, so each order may add some or end some.
  induction orders generalizing c with
  | nil => exact h
  | cons order orders ih =>
    rw [obeyAll_cons]
    have hrest : (c.obey order).2.StaysAbove d orders := fun n hn => hstay (n + 1) (Nat.succ_le_succ hn)
    refine ih (within_obey h ?_) hrest
    have hfirst := hrest 0 (Nat.zero_le _)
    exact Int.le_trans hd hfirst

/-- The cycle of `d` returns from the subroutine that the cycle of `c` has called: the machine goes on behind the call
    with the stack from before it. -/
structure Returns (c d : Computer H) : Prop where
  succeeds : ∃ signal, d.cycle.1 = .ok signal
  word : d.machine.fetched = 0x00EE
  pc : d.cycle.2.machine.pc.toNat = c.machine.following
  stack : d.cycle.2.machine.stack = c.machine.stack

/-- The order that brings the pointer back to where it was before the call returns from it. -/
theorem returns_of_within {d : Computer H} {order : Order} (hc : c.machine.Awaits calls)
    (h : d.machine.Within (calls ++ [c.machine]))
    (hp : (d.obey order).2.machine.stack.pointer ≤ c.machine.stack.pointer) : order = .cycle ∧ c.Returns d := by
  obtain ⟨all, hall, houter⟩ := h
  have hlength := houter.length_le
  rw [List.length_append, List.length_singleton] at hlength
  have hbefore := hc.pointer
  have hhere := hall.pointer
  rcases stack_of_obey d order with hstack | ⟨rfl, signal, hs⟩
  · rw [hstack] at hp
    omega
  have hp : d.cycle.2.machine.stack.pointer ≤ c.machine.stack.pointer := hp
  rcases stack_of_ok hs with ⟨-, hpush⟩ | ⟨hret, hpop⟩ | ⟨-, -, hstack⟩
  · obtain ⟨-, hstack⟩ := CallStack.push_eq_ok.mp hpush
    rw [hstack] at hp
    simp only at hp
    omega
  · obtain ⟨rest, haddresses, hrest⟩ := CallStack.Holds.pop hall hpop
    -- The call is the innermost one: no other is outstanding above it.
    have hinnermost : calls ++ [c.machine] = all := by
      refine houter.eq_of_length_le ?_
      have hcount := congrArg List.length haddresses
      have hpointer := hrest.pointer
      simp only [List.length_map, List.length_append, List.length_singleton] at hcount ⊢
      omega
    rw [← hinnermost, List.map_append, List.map_singleton, List.append_singleton_inj] at haddresses
    obtain ⟨rfl, hpc⟩ := haddresses
    exact ⟨rfl, ⟨signal, hs⟩, Form.fits_given_iff.mp hret, hpc.symm, hrest.unique hc⟩
  · rw [hstack] at hp
    omega

/-- A subroutine returns to its caller: after a call that went through, whatever is done while the stack is higher than
    before it, the first order that brings the pointer back is a return, and the machine goes on behind the call with
    the stack from before it. The pointer is the number of calls less that of returns, and the slots hold the addresses
    behind the outstanding calls. -/
theorem calls_return {host : H} {logger : Logger} {console : Console} {orders : List Order}
    (hc : ((start host logger console).obeyAll orders).2 = c) :
    (∀ signal, c.cycle.1 = .ok signal → Form.call.Fits c.machine.fetched → ∀ inner order,
      c.cycle.2.StaysAbove c.machine.stack.pointer inner →
        ((c.cycle.2.obeyAll inner).2.obey order).2.machine.stack.pointer ≤ c.machine.stack.pointer →
          order = .cycle ∧ c.Returns (c.cycle.2.obeyAll inner).2) ∧
      c.machine.stack.pointer = Form.call.count ((start host logger console).executed orders) -
        Form.ret.count ((start host logger console).executed orders) ∧
      c.machine.Awaits (Machine.outstanding ((start host logger console).executed orders)) := by
  subst hc
  have hawaits := start_awaits host logger console orders
  refine ⟨fun signal hs hcall inner order hstay hp => ?_, start_pointer host logger console orders, hawaits⟩
  have hnext := awaits_of_ok hawaits hs
  rw [Machine.nest_call hcall] at hnext
  refine returns_of_within hawaits (within_obeyAll ⟨_, hnext, List.prefix_refl _⟩ ?_ hstay) hp
  rw [hawaits.pointer, List.length_append]
  exact Int.le_refl _

/-- A computer about to call a subroutine that calls another one, whose keyboard fails at the third poll. -/
def calling : Computer (Devices (FrameRecorder Frame) SilentBeeper RiggedKeyboard ListSource) :=
  ((start
    { graphics := {}
      audio := {}
      keyboard := { script := {}, polls := { failures := [(3, .host (.breakdown "poll"))] } }
      numbers := ⟨[]⟩ }
    { name := "", threshold := none, coloured := false, timestamps := false, startedAt := 0 } {}).obeyAll
      [.load [0x22, 0x06, 0x00, 0x00, 0x00, 0x00, 0x22, 0x0A, 0x00, 0xEE, 0x00, 0xEE]]).2

/-- The inner call, the failure and the inner return leave the outer call outstanding; the next return goes on at `202`. -/
theorem calls_return_nested : calling.cycle.1 = .ok .proceed ∧ calling.machine.fetched = 0x2206 ∧
    calling.cycle.2.StaysAbove calling.machine.stack.pointer (List.replicate 3 .cycle) ∧
      calling.Returns (calling.cycle.2.obeyAll (List.replicate 3 .cycle)).2 ∧ calling.machine.following = 0x202 := by
  obtain ⟨hs, hword, hstay, hback, hfollowing⟩ : calling.cycle.1 = .ok .proceed ∧ calling.machine.fetched = 0x2206 ∧
      (∀ n ≤ 3, calling.machine.stack.pointer <
        (calling.cycle.2.obeyAll ((List.replicate 3 .cycle).take n)).2.machine.stack.pointer) ∧
      ((calling.cycle.2.obeyAll (List.replicate 3 .cycle)).2.obey .cycle).2.machine.stack.pointer ≤
        calling.machine.stack.pointer ∧ calling.machine.following = 0x202 := by decide +kernel
  have hcall : Form.call.Fits calling.machine.fetched := by
    rw [hword]
    decide
  have hreturns := (calls_return (c := calling) rfl).1 _ hs hcall (List.replicate 3 .cycle) .cycle hstay hback
  exact ⟨hs, hword, hstay, hreturns.2, hfollowing⟩

end Computer

end Chip8
