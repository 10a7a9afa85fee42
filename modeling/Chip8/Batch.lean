import Chip8.Device.FrameRecorder
import Chip8.Device.KeyScript
import Chip8.Device.NumberSources
import Chip8.Device.SilentBeeper
import Chip8.Run
import Chip8.Settings.Reference

/-! Runs without a player: a program from a file, or a small one that is built in, on a host of silent and
    scripted devices. The outcome tells what was printed, also of a run that failed. -/

namespace Chip8

/-- The libraries that a run relies on: one that follows the references between settings, and one for random numbers. -/
structure Libraries (K : Type) where
  resolve : Settings → Except HostError Settings
  keys : KeyLibrary K

def Libraries.standard : Libraries Threefry.Pair := ⟨Settings.resolved, Threefry.library⟩

abbrev BatchHost {K : Type} (keys : KeyLibrary K) :=
  Devices (FrameRecorder Frame) SilentBeeper UncheckedScript (DrawnSource keys)

structure Outcome where
  result : Except Failure Unit
  console : Console
  bar : Option (Bar Empty) := none

namespace Batch

variable {K : Type} {keys : KeyLibrary K}

def failed (console : Console) (failure : Failure) : Outcome := { result := .error failure, console }

def lastText (h : BatchHost keys) : Option String := h.graphics.lastFrame.map fun f => (Picture.ofFrame f).text "#" "."

/-! ### From the settings -/

def host (keys : KeyLibrary K) (s : Settings) : Except HostError (BatchHost keys) := do
  let graphics ← FrameRecorder.start 0 s.colourScheme
  let script ← KeySettings.ofValue s.keys
  let keyboard := UncheckedScript.start script.presses script.held script.exitAfter
  let numbers ← DrawnSource.start keys s.seed
  return { graphics, audio := {}, keyboard, numbers }

abbrev Reader := String → Except HostError Program

/-- The host that the settings ask for and the program that they name. -/
def prepare (keys : KeyLibrary K) (s : Settings) (reader : Reader) : Except HostError (BatchHost keys × Program) := do
  let host ← host keys s
  let program ← reader (← s.path)
  return (host, program)

/-- What is printed after a run that did not fail: the last frame, if it is to be shown, and the number of
    cycles. -/
def closing (s : Settings) (h : BatchHost keys) (cycles : Nat) : List String :=
  (if s.showFrame.holds then (lastText h).toList else []) ++ [s!"Executed {cycles} cycles"]

/-- Runs the loaded computer for at most `limit` cycles, and else as the settings ask. The bar shows the
    limit as the settings give it. -/
def finish (s : Settings) (limit : Int) (c : Computer (BatchHost keys)) : Outcome :=
  let (result, c, bar) := c.run limit s.progress.holds (some s.rom.shown)
  let bar := bar.map fun b => { b with total := s.cycles }
  match result with
  | .error failure => { result := .error failure, console := c.console, bar }
  | .ok summary => { result := .ok (), console := c.console.printAll (closing s c.host summary.cycles), bar }

/-- Logs the settings under the level of the given name, and runs the program that they name. -/
def runAt (keys : KeyLibrary K) (level : String) (s : Settings) (reader : Reader) (console : Console) : Outcome :=
  let logger := Logger.start { level } console
  let console := logger.write console (Message.runStarted s.entries)
  match prepare keys s reader with
  | .error e => failed console e
  | .ok (host, program) =>
    match (Computer.start host logger console).load program with
    | (.error fault, c) => failed c.console fault
    | (.ok (), c) =>
      match s.limit with
      | .error e => failed c.console e
      | .ok limit => finish s limit c

/-- Runs the program that the settings name, once all references between the settings are followed. -/
def runWith (lib : Libraries K) (s : Settings) (reader : Reader) (console : Console) : Outcome :=
  let checked : Except HostError (Settings × String) := do
    let s ← lib.resolve s
    return (s, ← Level.nameOf s.logLevel)
  match checked with
  | .error e => failed console e
  | .ok (s, level) => runAt lib.keys level s reader console

def run : Settings → Reader → Console → Outcome := runWith .standard

/-! ### The demonstration -/

/-- Draws the digits from 0 to 9 side by side and stops in a loop. -/
def demonstration : Program := Program.assemble [
  0x00E0, -- clear the screen
  0x6000, -- V0, the column, is 0
  0x6100, -- V1, the row, is 0
  0x6200, -- V2, the digit, is 0
  0xF229, -- point at the glyph of the digit
  0xD015, -- draw it
  0x7006, -- six columns on
  0x7201, -- the next digit
  0x320A, -- past 9 leave the loop
  0x1208, -- back to the glyph
  0x1214] -- stay here

def demonstrate (console : Console) : Outcome :=
  let logger := Logger.start { level := "INFO" } console
  match KeyStream.start 0 with
  | .error e => failed console e
  | .ok numbers =>
    let host : BatchHost Threefry.library := { graphics := {}, audio := {}, keyboard := {}, numbers }
    match (Computer.start host logger console).load demonstration with
    | (.error fault, c) => failed c.console fault
    | (.ok (), c) =>
      match c.run 200 true none with
      | (.error failure, c, bar) => { result := .error failure, console := c.console, bar }
      | (.ok _, c, bar) => { result := .ok (), console := c.console.printAll (lastText c.host).toList, bar }

end Batch

end Chip8
