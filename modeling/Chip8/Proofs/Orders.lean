import Chip8.Proofs.Turn

/-! Runs of a computer. Programs are loaded into it and cycles are gone through, in any order and whether they
    succeed or fail. An order that succeeds moves the machine; the machine after a run is the one before it,
    moved by the orders that succeeded, so an invariant of the moves is one of all runs. -/

namespace Chip8

/-! ### Moves -/

namespace Call

/-- What a device answered to a request. -/
def answer? : Call → Option Int
  | .wait (.ok answer) | .generate (.ok answer) => some answer
  | _ => none

/-- The keypad that a poll gave. -/
def keypad? : Call → Option Keypad
  | .poll _ (.ok (keypad, _)) => some keypad
  | _ => none

end Call

/-- The answer to the request among the calls; zero if there was none. -/
def answerIn (calls : List Call) : Int := (calls.findSome? Call.answer?).getD 0

/-- The keypad that was polled among the calls. -/
def keypadIn (calls : List Call) : Keypad := (calls.findSome? Call.keypad?).getD (Vector.replicate 16 false)

/-- What an order does to the machine when it succeeds. -/
inductive Move where
  | load (program : Program)
  /-- A cycle with the answer to its request, if it made one, and the keypad of its poll. -/
  | cycle (answer : Int) (keypad : Keypad)

namespace Machine

/-- The machine after a cycle in which no device fails. -/
def complete (m : Machine) (answer : Int) (keypad : Keypad) : Except Fault Machine :=
  match Instruction.ofWord? m.fetched with
  | none => .error (.invalidOpcode m.fetched.toNat)
  | some ins => (ins.perform answer m.advance).map fun m => { m.tick with keypad }

/-- The machine after a move. -/
def move (m : Machine) : Move → Except Fault Machine
  | .load program => m.loadProgram program
  | .cycle answer keypad => m.complete answer keypad

theorem loadProgram_eq_ok {m m' : Machine} {program : Program} : m.loadProgram program = .ok m' ↔
    program.length ≤ m.capacity ∧ m' = { m with memory := m.memory.writeRun m.pc.toNat program } := by
  unfold loadProgram
  split
  · rename_i h
    constructor
    · intro hm
      exact ⟨h, (Except.ok.inj hm).symm⟩
    · rintro ⟨-, rfl⟩
      rfl
  · rename_i h
    constructor
    · intro hm
      cases hm
    · intro hm
      exact absurd hm.1 h

theorem complete_eq_ok {m m' : Machine} {answer : Int} {keypad : Keypad} : m.complete answer keypad = .ok m' ↔
    ∃ ins m₁, Instruction.ofWord? m.fetched = some ins ∧ ins.perform answer m.advance = .ok m₁ ∧
      m' = { m₁.tick with keypad } := by
  unfold complete
  cases Instruction.ofWord? m.fetched with
  | none => simp
  | some ins =>
    cases hp : ins.perform answer m.advance with
    | error fault => simp [hp, Except.map]
    | ok m₁ => simp [hp, Except.map, eq_comm]

theorem answerIn_asked {asked rest : List Call} {answer : Int} {ins : Instruction}
    (h : (ins.request? = none ∧ asked = [] ∧ answer = 0) ∨
      ∃ request, ins.request? = some request ∧ asked = [request.call (.ok answer)])
    (hrest : rest.findSome? Call.answer? = none) : answerIn (asked ++ rest) = answer := by
  rcases h with ⟨-, rfl, rfl⟩ | ⟨request, -, rfl⟩
  · simp [answerIn, hrest]
  · cases request <;> rfl

theorem keypad?_asked {asked : List Call} {answer : Int} {ins : Instruction}
    (h : (ins.request? = none ∧ asked = [] ∧ answer = 0) ∨
      ∃ request, ins.request? = some request ∧ asked = [request.call (.ok answer)]) :
    asked.findSome? Call.keypad? = none := by
  rcases h with ⟨-, rfl, -⟩ | ⟨request, -, rfl⟩
  · rfl
  · cases request <;> rfl

/-- A turn that goes through completes the cycle. -/
theorem complete_of_turn {m m' : Machine} {calls : List Call} {leave : Bool}
    (h : m.advance.Turn m.fetched calls (.ok (m', leave))) :
    m.complete (answerIn calls) (keypadIn calls) = .ok m' := by
  obtain ⟨asked, m₁, keypad, hx, rfl, rfl⟩ := h.stages
  obtain ⟨ins, answer, hw, hp, ha⟩ := hx.perform
  have hanswer : answerIn (asked ++ .draw m₁.frame (.ok ()) :: (m₁.tone ++
      [.poll m₁.keypad (.ok (keypad, leave))])) = answer := by
    refine answerIn_asked ha ?_
    unfold tone
    split <;> rfl
  have hkeypad : keypadIn (asked ++ .draw m₁.frame (.ok ()) :: (m₁.tone ++
      [.poll m₁.keypad (.ok (keypad, leave))])) = keypad := by
    unfold keypadIn tone
    rw [List.findSome?_append, keypad?_asked ha]
    split <;> rfl
  rw [hanswer, hkeypad]
  exact complete_eq_ok.mpr ⟨ins, m₁, hw, hp, rfl⟩

end Machine

/-! ### Instructions on the stack -/

namespace CallStack
variable {s t : CallStack} {address : UInt16}

theorem push_eq_ok : s.push address = .ok t ↔
    s.pointer < 16 ∧ t = ⟨s.slots.set _ (address &&& 0xFFF) (slot s.pointer).isLt, s.pointer + 1⟩ := by
  unfold push
  split
  · rename_i h
    have h : s.pointer < 16 := h
    simp [h, eq_comm]
  · rename_i h
    have h : ¬ s.pointer < 16 := h
    simp [h]

theorem pop_eq_ok : s.pop = .ok (t, address) ↔ 0 < s.pointer ∧
    t = ⟨s.slots.set _ 0 (slot (s.pointer - 1)).isLt, s.pointer - 1⟩ ∧ address = s.slots.get (slot (s.pointer - 1)) := by
  unfold pop
  split
  · rename_i h
    constructor
    · intro hp
      cases hp
      exact ⟨h, rfl, rfl⟩
    · rintro ⟨-, rfl, rfl⟩
      rfl
  · rename_i h
    simp [h]

end CallStack

namespace Instruction
variable {answer : Int} {m m' : Machine}

theorem perform_ret_eq_ok : ret.perform answer m = .ok m' ↔
    ∃ stack address, m.stack.pop = .ok (stack, address) ∧ m' = { m with stack, pc := address } := by
  unfold perform
  cases m.stack.pop with
  | error fault => simp [bind, Except.bind]
  | ok popped =>
    constructor
    · intro h
      exact ⟨popped.1, popped.2, rfl, (Except.ok.inj h).symm⟩
    · rintro ⟨stack, address, hpop, rfl⟩
      cases hpop
      rfl

theorem perform_call_eq_ok {nnn : Address} : (call nnn).perform answer m = .ok m' ↔
    ∃ stack, m.stack.push m.pc = .ok stack ∧ m' = { m with stack, pc := UInt16.ofNat nnn } := by
  unfold perform
  cases m.stack.push m.pc with
  | error fault => simp [bind, Except.bind]
  | ok stack => simp [bind, Except.bind, pure, Except.pure, eq_comm]

end Instruction

/-! ### Orders -/

/-- What is done with a computer. -/
inductive Order where
  | load (program : Program)
  | cycle

/-- An order that was carried out: what came of it and, for a cycle, which calls it made. Loading makes none. -/
inductive Event where
  | loaded (program : Program) (result : Except Fault Unit)
  | cycled (calls : List Call) (result : Except Failure Signal)

namespace Event

/-- The calls of the devices. -/
def calls : Event → List Call
  | loaded _ _ => []
  | cycled calls _ => calls

/-- The move of an order that succeeded. -/
def move? : Event → Option Move
  | loaded program (.ok _) => some (.load program)
  | cycled calls (.ok _) => some (.cycle (answerIn calls) (keypadIn calls))
  | _ => none

end Event

namespace Computer
variable {H : Type} [Host H]

/-- Carries out an order. -/
def obey (c : Computer H) : Order → Event × Computer H
  | .load program => (.loaded program (c.load program).1, (c.load program).2)
  | .cycle => (.cycled c.calls c.cycle.1, c.cycle.2)

/-- Carries out the orders one after the other, whether they succeed or fail. -/
def obeyAll (c : Computer H) : List Order → List Event × Computer H
  | [] => ([], c)
  | order :: orders =>
    let (event, c) := c.obey order
    let (events, c) := c.obeyAll orders
    (event :: events, c)

theorem obeyAll_cons (c : Computer H) (order : Order) (orders : List Order) :
    c.obeyAll (order :: orders) =
      ((c.obey order).1 :: ((c.obey order).2.obeyAll orders).1, ((c.obey order).2.obeyAll orders).2) := rfl

/-! ### What a run does -/

/-- An order that succeeds makes its move, and one that fails leaves the machine as it was. -/
theorem obey_machine (c : Computer H) (order : Order) :
    match (c.obey order).1.move? with
    | some move => c.machine.move move = .ok (c.obey order).2.machine
    | none => (c.obey order).2.machine = c.machine := by
  cases order with
  | load program =>
    simp only [obey, load]
    cases hl : c.machine.loadProgram program with
    | ok m => exact hl
    | error fault => rfl
  | cycle =>
    show match Event.move? (.cycled c.calls c.cycle.1) with
      | some move => c.machine.move move = .ok c.cycle.2.machine
      | none => c.cycle.2.machine = c.machine
    cases c.cycled with
    | committed hturn _ hr hm =>
      rw [hr, hm]
      exact Machine.complete_of_turn hturn
    | failed _ _ hr hm =>
      rw [hr]
      exact hm

/-- The moves of the orders that succeeded, in order, take the machine from the begin of a run to its end. -/
theorem obeyAll_machine (c : Computer H) (orders : List Order) :
    ((c.obeyAll orders).1.filterMap Event.move?).foldlM Machine.move c.machine =
      .ok (c.obeyAll orders).2.machine := by
  -- Each order is given to the computer that the one before left, so the induction is for all computers.
  induction orders generalizing c with
  | nil => rfl
  | cons order orders ih =>
    have hone := c.obey_machine order
    rw [obeyAll_cons, List.filterMap_cons]
    cases hmove : (c.obey order).1.move? with
    | none =>
      rw [hmove] at hone
      rw [← show _ = c.machine from hone]
      exact ih _
    | some move =>
      rw [hmove] at hone
      rw [List.foldlM_cons, show c.machine.move move = _ from hone]
      exact ih _

theorem obey_answers (c : Computer H) (order : Order) :
    Answers c.host (c.obey order).1.calls (c.obey order).2.host := by
  cases order with
  | load program =>
    show c.host = (c.load program).2.host
    unfold load
    cases c.machine.loadProgram program <;> rfl
  | cycle =>
    cases c.cycled with
    | committed _ ha => exact ha
    | failed _ ha => exact ha

/-- The calls of a run are what takes the host from its begin to its end, through failed cycles as well. -/
theorem obeyAll_answers (c : Computer H) (orders : List Order) :
    Answers c.host ((c.obeyAll orders).1.flatMap Event.calls) (c.obeyAll orders).2.host := by
  induction orders generalizing c with
  | nil => rfl
  | cons order orders ih =>
    rw [obeyAll_cons, List.flatMap_cons]
    exact (c.obey_answers order).append (ih (c.obey order).2)

/-- What every move keeps is kept by every run. -/
theorem obeyAll_keeps {P : Machine → Prop}
    (hP : ∀ m move m', P m → m.move move = .ok m' → P m') (c : Computer H) (orders : List Order)
    (hc : P c.machine) : P (c.obeyAll orders).2.machine := by
  induction orders generalizing c with
  | nil => exact hc
  | cons order orders ih =>
    refine ih (c.obey order).2 ?_
    have hone := c.obey_machine order
    cases hmove : (c.obey order).1.move? with
    | none =>
      rw [hmove] at hone
      rwa [show _ = c.machine from hone]
    | some move =>
      rw [hmove] at hone
      exact hP _ _ _ hc hone

/-- Every event of a run is that of an order, given to the computer after the ones before it. -/
theorem exists_of_mem_events {c : Computer H} {orders : List Order} {event : Event}
    (h : event ∈ (c.obeyAll orders).1) : ∃ earlier order later, orders = earlier ++ order :: later ∧
      event = ((c.obeyAll earlier).2.obey order).1 := by
  induction orders generalizing c with
  | nil => cases h
  | cons order orders ih =>
    rw [obeyAll_cons] at h
    rcases List.mem_cons.mp h with rfl | h
    · exact ⟨[], order, orders, rfl, rfl⟩
    · obtain ⟨earlier, later, rest, rfl, rfl⟩ := ih h
      exact ⟨order :: earlier, later, rest, rfl, rfl⟩

end Computer

end Chip8
