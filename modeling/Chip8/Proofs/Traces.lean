import Chip8.Device.KeyScript
import Chip8.Proofs.Transcript

/-! The trace of the cycles. Whatever the devices do, a cycle tells the log the word at the program counter before it
    does anything else, and at last the fault by which it fails, if it fails by one. So the most talkative log traces the
    run call by call, while every log counts the faults (`log_traces_every_cycle`). -/

namespace Chip8

/-- A log that shows the least urgent messages shows them all. -/
theorem Logger.lines_of_debug {lg : Logger} (h : lg.threshold = some .debug) (c : Console) (messages : List Message) :
    lg.lines c messages = (lg.stamped c messages).map Prod.snd := by
  have hall : ∀ entry ∈ lg.stamped c messages, lg.shows entry.1 = true := by
    intro entry _
    simp [shows, h, Level.rank]
  rw [lines, List.filter_eq_self.mpr hall]

namespace Computer

section Time
variable {H : Type}

def pass (c : Computer H) (ticks : Int) : Computer H := { c with console := c.console.pass ticks }

variable [Host H]

/-- The computer after one cycle behind each of the pauses. -/
def paced (c : Computer H) : List Int → Computer H
  | [] => c
  | pause :: pauses => (c.pass pause).cycle.2.paced pauses

/-- The computers that these cycles start from. -/
def starts (c : Computer H) : List Int → List (Computer H)
  | [] => []
  | pause :: pauses => c.pass pause :: (c.pass pause).cycle.2.starts pauses

/-- The cycle at hand fails by a fault of the machine or of a device. -/
def faults (c : Computer H) : Bool :=
  match c.cycle.1 with
  | .error (.fault _) => true
  | _ => false

end Time

variable {H : Type} [Host H]

/-! ### Single cycles -/

theorem cycle_faultCount (c : Computer H) :
    c.cycle.2.journal.faultCount = c.journal.faultCount + if c.faults then 1 else 0 := by
  rcases hrun : (c.machine.advance.turn c.machine.fetched).run c.host with ⟨e | ⟨m, leave⟩, h⟩
  · rw [faults, cycle_of_error hrun]
    cases e <;> rfl
  · rw [faults, cycle_of_ok hrun]
    rfl

theorem cycle_printed (c : Computer H) : c.cycle.2.console.printed.toList =
    c.console.printed.toList ++ c.journal.logger.lines c.console c.report := by
  obtain ⟨-, hconsole⟩ := c.cycle_logs
  rw [hconsole, Logger.printed_write]

/-! ### Cycles in a row -/

theorem paced_faultCount (c : Computer H) (pauses : List Int) :
    (c.paced pauses).journal.faultCount = c.journal.faultCount + (c.starts pauses).countP faults := by
  induction pauses generalizing c with
  | nil => rfl
  | cons pause pauses ih =>
    have hone : (c.pass pause).cycle.2.journal.faultCount =
        c.journal.faultCount + if (c.pass pause).faults then 1 else 0 := cycle_faultCount _
    rw [paced, ih, hone, starts, List.countP_cons]
    omega

theorem paced_printed (c : Computer H) (pauses : List Int) : (c.paced pauses).console.printed.toList =
    c.console.printed.toList ++ (c.starts pauses).flatMap fun d => c.journal.logger.lines d.console d.report := by
  induction pauses generalizing c with
  | nil => exact (List.append_nil _).symm
  | cons pause pauses ih =>
    -- No cycle changes the logger, so the later lines are those of the first one as well.
    have hlogger : (c.pass pause).cycle.2.journal.logger = c.journal.logger := (cycle_logs _).1
    have hone : (c.pass pause).cycle.2.console.printed.toList = c.console.printed.toList ++
        c.journal.logger.lines (c.pass pause).console (c.pass pause).report := cycle_printed _
    rw [paced, ih, hone, hlogger, starts, List.flatMap_cons, List.append_assoc]

/-- However the cycles of a run end and whatever time passes between them and within them, a log with the level `DEBUG` prints of each of
    them, one after the other, the word at the program counter from before it and then, if it fails by a fault and only
    then, this fault at the same address; and every log counts the cycles that fail by a fault. -/
theorem log_traces_every_cycle (c : Computer H) (pauses : List Int) :
    (c.paced pauses).journal.faultCount = c.journal.faultCount + (c.starts pauses).countP faults ∧
      (c.journal.logger.threshold = some .debug →
        (c.paced pauses).console.printed.toList = c.console.printed.toList ++
          (c.starts pauses).flatMap fun d => (c.journal.logger.stamped d.console d.report).map Prod.snd) := by
  refine ⟨c.paced_faultCount pauses, fun hdebug => ?_⟩
  rw [c.paced_printed pauses]
  simp only [Logger.lines_of_debug hdebug]

/-- A computer that draws badly twice, by a breakdown and by a fault, and whose second word stands for no instruction. It
    takes a quarter of a second to come to the second failure. -/
def blundering (level : String) : Computer (Devices (Rigged (FrameRecorder Frame)) SilentBeeper KeyScript ListSource) :=
  ((start
    { graphics :=
        { device := {}
          plan := .ofNames [(1, "RuntimeError", [.text "draw"]), (2, "PeripheralError", [.text "no light"])] }
      audio := {}
      keyboard := {}
      numbers := ⟨[]⟩ }
    (Logger.start { name := "vm", level } {}) { pauses := [0, 0, 0, 2] }).load [0x00, 0xE0, 0xFF, 0xFF]).2

/-- The breakdown is traced but neither reported nor counted, and the log that prints nothing counts the same. -/
theorem log_traces_every_cycle_blundering :
    (blundering "Debug").journal.logger.threshold = some .debug ∧
      ((blundering "Debug").paced [0, 4, 4, 3]).console.printed.toList =
        ["[    0.00s][    INFO][vm] Loaded 4 bytes at 0x200",
          "[    0.00s][   DEBUG][vm] pc=0x200 opcode=0x00E0",
          "[    0.50s][   DEBUG][vm] pc=0x200 opcode=0x00E0",
          "[    0.75s][   ERROR][vm] Cycle at pc=0x200 aborted: no light",
          "[    1.25s][   DEBUG][vm] pc=0x200 opcode=0x00E0",
          "[    1.62s][   DEBUG][vm] pc=0x202 opcode=0xFFFF",
          "[    1.62s][   ERROR][vm] Cycle at pc=0x202 aborted: Invalid opcode: 0xFFFF"] ∧
      ∀ level ∈ ["Debug", "silent"], ((blundering level).paced [0, 4, 4, 3]).journal.faultCount = 2 := by
  have hdebug : (blundering "Debug").journal.logger.threshold = some .debug := by decide +kernel
  refine ⟨hdebug, ((log_traces_every_cycle _ _).2 hdebug).trans (by decide +kernel), ?_⟩
  intro level hlevel
  have hcount : (blundering level).journal.faultCount + ((blundering level).starts [0, 4, 4, 3]).countP faults = 2 := by
    simp only [List.mem_cons, List.not_mem_nil, or_false] at hlevel
    rcases hlevel with rfl | rfl <;> decide +kernel
  exact (log_traces_every_cycle _ _).1.trans hcount

end Computer

end Chip8
