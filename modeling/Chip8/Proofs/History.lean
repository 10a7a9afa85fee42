import Chip8.Proofs.Reading
import Chip8.Proofs.Soundness

/-! What was done with a computer. A computer is reached if it was started and used in any way. The history of a
    run holds the orders that succeeded, each with the computer that it was given to; the other orders left the
    machine as it was. A cycle that goes through has performed the instruction of the fetched word. -/

namespace Chip8

/-- The order was carried out without a failure. -/
def Event.succeeded : Event → Bool
  | loaded _ (.ok _) | cycled _ (.ok _) => true
  | _ => false

/-- A word whose instruction makes no request is executed without the host. -/
theorem Machine.execute_of_reads {H : Type} [Host H] {m : Machine} {w : Word} {ins : Instruction} (hr : ins.Reads w)
    (hsilent : ins.request? = none) (h : H) : (m.execute w).run h = ((ins.perform 0 m).mapError .fault, h) := by
  rw [execute_of_eq_some hr.ofWord?_eq, hsilent]
  exact (Attempt.run_bind_ok rfl).trans (Attempt.run_ofExcept _ _)

namespace Computer
variable {H : Type} [Host H] {c : Computer H}

/-! ### Orders that succeed -/

/-- What a cycle that goes through has done: the instruction of the fetched word was performed past it, the timers
    ticked, and the last call took the keypad from the keyboard. -/
theorem performed_of_ok {signal : Signal} (hs : c.cycle.1 = .ok signal) :
    ∃ ins answer m keypad, Instruction.Reads c.machine.fetched ins ∧ ins.perform answer c.machine.advance = .ok m ∧
      c.cycle.2.machine = { m.tick with keypad } ∧
        ∃ calls leave, c.calls = calls ++ [.poll m.keypad (.ok (keypad, leave))] := by
  cases c.cycled with
  | committed hturn _ _ hm =>
    obtain ⟨asked, m, keypad, hx, hcalls, rfl⟩ := hturn.stages
    obtain ⟨ins, answer, hw, hp, -⟩ := hx.perform
    refine ⟨ins, answer, m, keypad, Instruction.reads_of_ofWord? hw, hp, hm, asked ++ .draw m.frame (.ok ()) :: m.tone, ?_⟩
    exact ⟨_, by rw [hcalls, List.append_assoc, List.cons_append]⟩
  | failed _ _ hr _ =>
    rw [hr] at hs
    cases hs

/-- The instruction that was performed is the one that the word stands for. -/
theorem performed_of_reads {signal : Signal} {ins : Instruction} (hs : c.cycle.1 = .ok signal)
    (hr : Instruction.Reads c.machine.fetched ins) : ∃ answer m keypad,
      ins.perform answer c.machine.advance = .ok m ∧ c.cycle.2.machine = { m.tick with keypad } := by
  obtain ⟨ins', answer, m, keypad, hr', hp, hm, -⟩ := performed_of_ok hs
  have hins : some ins' = some ins := hr'.ofWord?_eq.symm.trans hr.ofWord?_eq
  cases hins
  exact ⟨answer, m, keypad, hp, hm⟩

theorem cycle_ok_of_succeeded (h : (c.obey .cycle).1.succeeded = true) : ∃ signal, c.cycle.1 = .ok signal := by
  cases hr : c.cycle.1 with
  | ok signal => exact ⟨signal, rfl⟩
  | error e => simp [obey, hr, Event.succeeded] at h

theorem loadProgram_of_succeeded {program : Program} (h : (c.obey (.load program)).1.succeeded = true) :
    c.machine.loadProgram program = .ok (c.obey (.load program)).2.machine := by
  have hone := c.obey_machine (.load program)
  cases hr : (c.load program).1 with
  | ok done =>
    rw [show (c.obey (.load program)).1 = .loaded program (.ok done) by rw [obey, hr]] at hone
    exact hone
  | error fault => simp [obey, hr, Event.succeeded] at h

theorem machine_of_not_succeeded {order : Order} (h : ¬ (c.obey order).1.succeeded = true) :
    (c.obey order).2.machine = c.machine := by
  have hone := c.obey_machine order
  cases order with
  | load program =>
    cases hr : (c.load program).1 with
    | ok done => simp [obey, hr, Event.succeeded] at h
    | error fault => simpa [obey, hr, Event.move?] using hone
  | cycle =>
    cases hr : c.cycle.1 with
    | ok signal => simp [obey, hr, Event.succeeded] at h
    | error e => simpa [obey, hr, Event.move?] using hone

/-! ### Histories -/

/-- The orders of a run that succeeded, each with the computer that it was given to. -/
def history (c : Computer H) : List Order → List (Computer H × Order)
  | [] => []
  | order :: orders =>
    let rest := (c.obey order).2.history orders
    if (c.obey order).1.succeeded then (c, order) :: rest else rest

/-- The machines that the cycles of a run started from, as far as these went through. -/
def executed (c : Computer H) (orders : List Order) : List Machine :=
  (c.history orders).filterMap fun
    | (c, .cycle) => some c.machine
    | (_, .load _) => none

section Cons
variable {order : Order} {orders : List Order}

theorem history_of_succeeded (h : (c.obey order).1.succeeded = true) :
    c.history (order :: orders) = (c, order) :: (c.obey order).2.history orders := by
  simp [history, h]

theorem history_of_not_succeeded (h : ¬ (c.obey order).1.succeeded = true) :
    c.history (order :: orders) = (c.obey order).2.history orders := by
  simp [history, h]

theorem executed_of_not_succeeded (h : ¬ (c.obey order).1.succeeded = true) :
    c.executed (order :: orders) = (c.obey order).2.executed orders := by
  simp [executed, history_of_not_succeeded h]

theorem executed_cycle (h : (c.obey .cycle).1.succeeded = true) :
    c.executed (.cycle :: orders) = c.machine :: (c.obey .cycle).2.executed orders := by
  simp [executed, history_of_succeeded h]

theorem executed_load {program : Program} :
    c.executed (.load program :: orders) = (c.obey (.load program)).2.executed orders := by
  by_cases h : (c.obey (.load program)).1.succeeded = true
  · simp [executed, history_of_succeeded h]
  · exact executed_of_not_succeeded h

end Cons

/-- What holds of a machine and the machines that it went through, if loading keeps it and every cycle that goes through
    keeps it when it adds its own, holds along every run. -/
theorem executed_induction {R : Machine → List Machine → Prop}
    (hload : ∀ m program m' ms, R m ms → m.loadProgram program = .ok m' → R m' ms)
    (hcycle : ∀ (c : Computer H) signal ms, R c.machine ms → c.cycle.1 = .ok signal →
      R c.cycle.2.machine (ms ++ [c.machine]))
    (orders : List Order) {ms : List Machine} (h : R c.machine ms) :
    R (c.obeyAll orders).2.machine (ms ++ c.executed orders) := by
  induction orders generalizing c ms with
  | nil =>
    rw [show c.executed [] = [] from rfl, List.append_nil]
    exact h
  | cons order orders ih =>
    rw [obeyAll_cons]
    by_cases hsucceeded : (c.obey order).1.succeeded = true
    · cases order with
      | load program =>
        rw [executed_load]
        exact ih (hload _ _ _ _ h (loadProgram_of_succeeded hsucceeded))
      | cycle =>
        obtain ⟨signal, hs⟩ := cycle_ok_of_succeeded hsucceeded
        rw [executed_cycle hsucceeded, List.append_cons]
        exact ih (hcycle _ _ _ h hs)
    · rw [executed_of_not_succeeded hsucceeded]
      refine ih ?_
      rw [machine_of_not_succeeded hsucceeded]
      exact h

/-! ### Reached computers -/

/-- The computer was started and then used in some way. -/
def Reached (c : Computer H) : Prop :=
  ∃ host logger console orders, c = ((start host logger console).obeyAll orders).2

theorem Reached.sound (hc : c.Reached) : c.machine.Sound := by
  obtain ⟨host, logger, console, orders, rfl⟩ := hc
  exact start_sound host logger console orders

end Computer

end Chip8
