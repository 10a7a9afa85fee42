import Chip8.Computer
import Chip8.Progress

/-! A run: cycles until the host wants to leave, a cycle fails or a limit is reached. -/

namespace Chip8

structure Summary where
  cycles : Nat
  exitRequested : Bool
  deriving DecidableEq

/-- A run while it goes on, and when it ended. -/
structure Drive (H : Type) where
  computer : Computer H
  /-- The number of cycles that did not fail. -/
  cycles : Nat := 0
  /-- What is told of each cycle, if anything is. -/
  meter : Option (Meter Empty) := none

namespace Drive

variable {H : Type} [Host H]

def count (d : Drive H) (computer : Computer H) : Drive H where
  computer := computer
  cycles := d.cycles + 1
  meter := d.meter.map (·.update (d.cycles + 1))

/-- Goes on for at most the given number of cycles; tells whether the host wanted to leave. -/
def go : Nat → Drive H → Except Failure Bool × Drive H
  | 0, d => (.ok false, d)
  | n + 1, d =>
    match d.computer.cycle with
    | (.error failure, computer) => (.error failure, { d with computer })
    | (.ok .exit, computer) => (.ok true, d.count computer)
    | (.ok .proceed, computer) => go n (d.count computer)

end Drive

namespace Computer

variable {H : Type}

/-- The computer once the end of a run is logged. -/
def finished (c : Computer H) (cycles : Nat) (leave : Bool) : Computer H :=
  { c with console := c.journal.logger.writeEnd c.console cycles leave }

variable [Host H]

/-- Runs for at most `limit` cycles, with a bar if there is to be one, which is closed however the run
    ends. The end is logged unless a cycle failed. -/
def run (c : Computer H) (limit : Int) (progress : Bool) (description : Option String) :
    Except Failure Summary × Computer H × Option (Bar Empty) :=
  let meter := if progress then some (Meter.start limit none description []) else none
  let (result, d) := Drive.go limit.toNat { computer := c, meter }
  let bar := d.meter.map fun m => (m.close d.cycles).bar
  match result with
  | .error failure => (.error failure, d.computer, bar)
  | .ok leave => (.ok ⟨d.cycles, leave⟩, d.computer.finished d.cycles leave, bar)

end Computer

end Chip8
