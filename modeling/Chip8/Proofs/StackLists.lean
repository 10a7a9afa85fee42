import Chip8.Proofs.Refusals
import Chip8.Proofs.Subroutines
import Mathlib.Data.List.Induction

/-! The call stack as a list of addresses. Whatever is pushed and popped, a stack that was empty replies as a list of at
    most sixteen entries does, and it is that list, followed by zeros: no slot keeps an address that was popped. -/

namespace Chip8
namespace CallStack
variable {l : List UInt16} {address : UInt16}

/-! ### Operations -/

inductive Operation where
  | push (address : UInt16)
  | pop
  deriving DecidableEq

/-- A fault, or the address that a pop has taken. -/
abbrev Reply := Except Fault (Option UInt16)

/-- The reply of a stack, and the stack afterwards. -/
def reply (s : CallStack) : Operation → Reply × CallStack
  | .push address =>
    match s.push address with
    | .ok t => (.ok none, t)
    | .error fault => (.error fault, s)
  | .pop =>
    match s.pop with
    | .ok (t, address) => (.ok (some address), t)
    | .error fault => (.error fault, s)

/-- The reply of a list that has room for sixteen addresses of the memory, and the list afterwards. -/
def listReply (l : List UInt16) : Operation → Reply × List UInt16
  | .push address => if l.length < 16 then (.ok none, l ++ [address % 4096]) else (.error (.stackOverflow 16), l)
  | .pop =>
    match l.getLast? with
    | some address => (.ok (some address), l.dropLast)
    | none => (.error .stackUnderflow, l)

def replies (s : CallStack) : List Operation → List Reply × CallStack
  | [] => ([], s)
  | op :: ops => ((s.reply op).1 :: ((s.reply op).2.replies ops).1, ((s.reply op).2.replies ops).2)

def listReplies (l : List UInt16) : List Operation → List Reply × List UInt16
  | [] => ([], l)
  | op :: ops =>
    ((listReply l op).1 :: (listReplies (listReply l op).2 ops).1, (listReplies (listReply l op).2 ops).2)

/-! ### Lists of addresses -/

theorem length_concat_le_iff : (l ++ [address]).length ≤ 16 ↔ l.length < 16 := by
  rw [List.length_append, List.length_singleton]
  rfl

/-- What a list holds that only these operations have changed. -/
structure Bounded (l : List UInt16) : Prop where
  length : l.length ≤ 16
  entries : ∀ address ∈ l, address % 4096 = address

theorem nil_bounded : Bounded [] where
  length := Nat.zero_le _
  entries _ h := nomatch h

theorem Bounded.concat (h : Bounded l) (hlt : l.length < 16) : Bounded (l ++ [address % 4096]) where
  length := length_concat_le_iff.mpr hlt
  entries a ha := by
    rcases List.mem_append.mp ha with hold | hnew
    · exact h.entries a hold
    · rw [List.mem_singleton.mp hnew]
      exact UInt16.toNat_inj.mp (Nat.mod_mod _ _)

theorem Bounded.init (h : Bounded (l ++ [address])) : Bounded l where
  length := Nat.le_trans (List.prefix_append l [address]).length_le h.length
  entries a ha := h.entries a (List.mem_append_left _ ha)

theorem listReply_concat_pop : listReply (l ++ [address]) .pop = (.ok (some address), l) := by
  simp [listReply]

theorem Bounded.listReply (h : Bounded l) (op : Operation) : Bounded (listReply l op).2 := by
  cases op with
  | push address =>
    by_cases hlt : l.length < 16
    · simp only [CallStack.listReply, if_pos hlt]
      exact h.concat hlt
    · simp only [CallStack.listReply, if_neg hlt]
      exact h
  | pop =>
    cases l using List.reverseRecOn with
    | nil => exact h
    | append_singleton rest top =>
      rw [listReply_concat_pop]
      exact h.init

theorem Bounded.listReplies (h : Bounded l) (ops : List Operation) : Bounded (listReplies l ops).2 := by
  induction ops generalizing l with
  | nil => exact h
  | cons op ops ih => exact ih (h.listReply op)

/-! ### The stack of a list -/

/-- The stack that holds the addresses, the last one on top. -/
def ofList (l : List UInt16) : CallStack := ⟨Vector.ofFn fun k : Fin 16 => l.getD k 0, l.length⟩

theorem ofList_holds (h : l.length ≤ 16) : (ofList l).Holds (l.map UInt16.toNat) where
  length := by
    rw [List.length_map]
    exact h
  pointer := by
    rw [List.length_map]
    rfl
  slots k := by
    rw [← UInt16.toNat_zero, List.getD_map]
    simp [ofList]

theorem toList_slots_ofList (h : l.length ≤ 16) :
    (ofList l).slots.toList = l ++ List.replicate (16 - l.length) 0 := by
  apply List.ext_getElem
  · rw [Vector.length_toList, List.length_append, List.length_replicate, Nat.add_sub_cancel' h]
  · intro k hk _
    rw [Vector.getElem_toList, List.getElem_append]
    split
    · rename_i hlt
      simp [ofList, hlt]
    · rename_i hge
      simp [ofList, hge]

theorem push_ofList (h : l.length < 16) : (ofList l).push address = .ok (ofList (l ++ [address % 4096])) := by
  obtain ⟨t, hp⟩ : ∃ t, (ofList l).push address = .ok t := ⟨_, push_eq_ok.mpr ⟨Int.ofNat_lt.mpr h, rfl⟩⟩
  have hpushed := (ofList_holds (Nat.le_of_lt h)).push hp
  have hnext : (ofList (l ++ [address % 4096])).Holds ((l ++ [address % 4096]).map UInt16.toNat) :=
    ofList_holds (length_concat_le_iff.mpr h)
  rw [List.map_append, List.map_singleton, UInt16.toNat_mod] at hnext
  rw [hp, hpushed.unique hnext]

theorem push_ofList_full (h : ¬ l.length < 16) : (ofList l).push address = .error (.stackOverflow 16) :=
  push_eq_error_iff.mpr ⟨Int.ofNat_le.mpr (Nat.not_lt.mp h), rfl⟩

theorem pop_ofList_concat (h : l.length < 16) : (ofList (l ++ [address])).pop = .ok (ofList l, address) := by
  have hholds : (ofList (l ++ [address])).Holds ((l ++ [address]).map UInt16.toNat) :=
    ofList_holds (length_concat_le_iff.mpr h)
  have hpos : 0 < (ofList (l ++ [address])).pointer := by
    rw [hholds.pointer, List.length_map, List.length_append]
    exact Int.natCast_pos.mpr (Nat.succ_pos _)
  obtain ⟨t, a, hp⟩ : ∃ t a, (ofList (l ++ [address])).pop = .ok (t, a) := ⟨_, _, pop_eq_ok.mpr ⟨hpos, rfl, rfl⟩⟩
  obtain ⟨rest, haddresses, hrest⟩ := hholds.pop hp
  rw [List.map_append, List.map_singleton, List.append_singleton_inj] at haddresses
  obtain ⟨rfl, ha⟩ := haddresses
  rw [hp, hrest.unique (ofList_holds (Nat.le_of_lt h)), UInt16.toNat_inj.mp ha]

theorem pop_ofList_nil : (ofList []).pop = .error .stackUnderflow := pop_eq_error_iff.mpr ⟨Int.le_refl _, rfl⟩

/-! ### Replies -/

theorem reply_ofList (h : l.length ≤ 16) (op : Operation) :
    (ofList l).reply op = ((listReply l op).1, ofList (listReply l op).2) := by
  cases op with
  | push address =>
    by_cases hlt : l.length < 16
    · simp only [reply, listReply, push_ofList hlt, if_pos hlt]
    · simp only [reply, listReply, push_ofList_full hlt, if_neg hlt]
  | pop =>
    cases l using List.reverseRecOn with
    | nil =>
      simp only [reply, pop_ofList_nil]
      rfl
    | append_singleton rest top =>
      simp only [reply, pop_ofList_concat (length_concat_le_iff.mp h), listReply_concat_pop]

theorem replies_ofList (h : Bounded l) (ops : List Operation) :
    (ofList l).replies ops = ((listReplies l ops).1, ofList (listReplies l ops).2) := by
  induction ops generalizing l with
  | nil => rfl
  | cons op ops ih => simp only [replies, listReplies, reply_ofList h.length op, ih (h.listReply op)]

/-- The stack is the list: what it looks like, and what it does next. -/
structure Mirrors (s : CallStack) (l : List UInt16) : Prop where
  length : l.length ≤ 16
  pointer : s.pointer = l.length
  slots : s.slots.toList = l ++ List.replicate (16 - l.length) 0
  overflows : ∀ address fault, s.push address = .error fault ↔ l.length = 16 ∧ fault = .stackOverflow 16
  underflows : ∀ fault, s.pop = .error fault ↔ l = [] ∧ fault = .stackUnderflow
  pops_pushed : ∀ address t, s.push address = .ok t → t.pop = .ok (s, address % 4096)
  pushes_popped : ∀ address t, s.pop = .ok (t, address) → t.push address = .ok s

theorem Bounded.mirrors (h : Bounded l) : (ofList l).Mirrors l where
  length := h.length
  pointer := rfl
  slots := toList_slots_ofList h.length
  overflows address fault := by
    have hlength := h.length
    rw [push_eq_error_iff]
    refine and_congr_left fun _ => ?_
    show (16 : Int) ≤ l.length ↔ _
    omega
  underflows fault := by
    rw [pop_eq_error_iff]
    refine and_congr_left fun _ => ?_
    show (l.length : Int) ≤ 0 ↔ _
    rw [← List.length_eq_zero_iff]
    omega
  pops_pushed address t hp := by
    by_cases hlt : l.length < 16
    · rw [push_ofList hlt] at hp
      obtain rfl := Except.ok.inj hp
      exact pop_ofList_concat hlt
    · rw [push_ofList_full hlt] at hp
      cases hp
  pushes_popped address t hp := by
    cases l using List.reverseRecOn with
    | nil =>
      rw [pop_ofList_nil] at hp
      cases hp
    | append_singleton rest top =>
      have hlt := length_concat_le_iff.mp h.length
      rw [pop_ofList_concat hlt] at hp
      obtain ⟨rfl, rfl⟩ := Prod.mk.inj (Except.ok.inj hp)
      rw [push_ofList hlt, h.entries top (List.mem_append_right _ (List.mem_singleton_self _))]

/-- Whatever is pushed on an empty stack and popped from it, it replies as a list with room for sixteen addresses and
    becomes that list, so two stacks that hold the same addresses are equal. -/
theorem follows_list (ops : List Operation) :
    (empty.replies ops).1 = (listReplies [] ops).1 ∧ (empty.replies ops).2.Mirrors (listReplies [] ops).2 ∧
      ∀ ops', (listReplies [] ops').2 = (listReplies [] ops).2 → (empty.replies ops').2 = (empty.replies ops).2 := by
  have hempty : empty = ofList [] := by decide
  have hreplies (ops : List Operation) := replies_ofList nil_bounded ops
  rw [hempty]
  refine ⟨congrArg Prod.fst (hreplies ops), ?_, fun ops' hsame => ?_⟩
  · rw [hreplies]
    exact (nil_bounded.listReplies ops).mirrors
  · rw [hreplies, hreplies, hsame]

/-- What was refused, and what was popped again, leaves no trace. -/
theorem follows_list_masked :
    let pushed : List Operation := [.push 0x1ABC]
    let detour : List Operation := [.pop, .push 0xABC, .push 5, .pop]
    (empty.replies detour).1 = [.error .stackUnderflow, .ok none, .ok none, .ok (some 5)] ∧
      (listReplies [] detour).2 = (listReplies [] pushed).2 ∧ (empty.replies detour).2 = (empty.replies pushed).2 ∧
      (empty.replies pushed).2.slots.toList = 0xABC :: List.replicate 15 0 := by
  intro pushed detour
  have hlist : (listReplies [] detour).2 = (listReplies [] pushed).2 := by decide
  obtain ⟨-, hmirrors, hsame⟩ := follows_list pushed
  exact ⟨(follows_list detour).1, hlist, hsame detour hlist, hmirrors.slots⟩

end CallStack

end Chip8
