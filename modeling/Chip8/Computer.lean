import Chip8.Host
import Chip8.Log.Logger

/-! A computer: a machine, its host, its journal and the console they print on. A cycle either takes the
    machine all the way to its next state or leaves it as it was; what the devices did stays done. -/

namespace Chip8

inductive Signal where
  | proceed
  | exit
  deriving DecidableEq

/-- A machine with all that it needs to run; `H` is the type of its host. -/
structure Computer (H : Type) where
  machine : Machine
  host : H
  journal : Journal
  console : Console

namespace Computer

variable {H : Type}

def defaultLevel : String := "WARNING"

def start (host : H) (logger : Logger) (console : Console) : Computer H where
  machine := Machine.initial
  host := host
  journal := { logger }
  console := console

def log (c : Computer H) (messages : List Message) : Computer H :=
  { c with console := c.journal.logger.write c.console messages }

/-- Logs a failed cycle at `pc`, if it failed by a fault. -/
def logFailure (c : Computer H) (pc : UInt16) : Failure → Computer H
  | .fault fault =>
    let (journal, console) := c.journal.report c.console pc.toNat fault.message
    { c with journal, console }
  | .host _ => c

/-- Loads a program into the machine, if it fits. -/
def load (c : Computer H) (program : Program) : Except Fault Unit × Computer H :=
  match c.machine.loadProgram program with
  | .ok machine => (.ok (), { c with machine }.log [.loaded program.length machine.pc.toNat])
  | .error fault => (.error fault, c)

def cycle [Host H] (c : Computer H) : Except Failure Signal × Computer H :=
  let pc := c.machine.pc
  let word := c.machine.fetched
  let traced := c.log [.traced pc.toNat word.toNat]
  match (c.machine.advance.turn word).run c.host with
  | (.ok (machine, leave), host) =>
    (.ok (if leave then .exit else .proceed), { traced with machine, host })
  | (.error failure, host) => (.error failure, { traced with host }.logFailure pc failure)

end Computer

end Chip8
