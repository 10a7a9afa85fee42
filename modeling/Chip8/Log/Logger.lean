import Chip8.Log.Console
import Chip8.Log.Message

/-! Loggers. A logger prints the messages that are urgent enough, each on a line of its own behind the
    time, the level and the logger's name. A journal is a logger that also counts the faults it reports. -/

namespace Chip8

structure LogSettings where
  name : String := "Chip8"
  /-- The name of the least urgent level to print; with any other name nothing is printed. -/
  level : String := "INFO"
  colours : Bool := true
  timestamps : Bool := true

structure Logger where
  name : String
  /-- The least urgent level to print; without it nothing is printed. -/
  threshold : Option Level
  coloured : Bool
  timestamps : Bool
  /-- The time when the logger was set up. -/
  startedAt : Int
  deriving DecidableEq

namespace Logger

/-- Colours are used only on a terminal. -/
def start (settings : LogSettings) (c : Console) : Logger where
  name := settings.name
  threshold := Level.ofSetting? settings.level
  coloured := settings.colours && c.terminal
  timestamps := settings.timestamps
  startedAt := c.now

def shows (lg : Logger) (level : Level) : Bool := lg.threshold.any (·.rank ≤ level.rank)

/-- The time since the logger was set up. -/
def elapsed (lg : Logger) (c : Console) : Duration := c.since lg.startedAt

def label (lg : Logger) (level : Level) : String :=
  let text := "[" ++ Text.alignRight 8 level.name ++ "]"
  if lg.coloured then level.colour ++ text ++ Level.colourEnd else text

def stamp (lg : Logger) (c : Console) : String :=
  if lg.timestamps then "[" ++ Text.alignRight 8 ((lg.elapsed c).seconds 2) ++ "s]" else ""

def line (lg : Logger) (c : Console) (m : Message) : String :=
  lg.stamp c ++ lg.label m.level ++ "[" ++ lg.name ++ "] " ++ m.text

/-- Prints a message if it is urgent enough; it comes at its time in either case. -/
def say (lg : Logger) (c : Console) (m : Message) : Console :=
  if lg.shows m.level then c.tick.print (lg.line c.tick m) else c.tick

def write (lg : Logger) (c : Console) (messages : List Message) : Console := messages.foldl lg.say c

/-- Tells of the end of a run, with the time that it took. -/
def writeEnd (lg : Logger) (c : Console) (cycles : Int) (leave : Bool) : Console :=
  lg.write c.tick (Message.runEnded cycles (lg.elapsed c.tick) leave)

def writeNamed (lg : Logger) (c : Console) (level text : String) : Except HostError Console := do
  let level ← Level.named level
  return lg.write c [⟨level, text⟩]

end Logger

structure Journal where
  logger : Logger
  faultCount : Nat := 0
  deriving DecidableEq

namespace Journal

/-- Reports that the cycle at an address was given up; counts it even if nothing is printed. -/
def report (j : Journal) (c : Console) (pc : Int) (reason : String) : Journal × Console :=
  ({ j with faultCount := j.faultCount + 1 }, j.logger.write c [.aborted pc reason])

end Journal

end Chip8
