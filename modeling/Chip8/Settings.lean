import Chip8.HostError
import Chip8.Text.Integer

/-! The settings of a run, with the values that hold where nothing else is set. A setting may be given any
    value, and the log shows it as it was given; whether it is of any use turns out where it is used. -/

namespace Chip8

/-! ### Keys -/

structure KeySettings where
  held : List Int := []
  presses : List Int := []
  exitAfter : Value := .none
  deriving DecidableEq

namespace KeySettings

/-- The settings as a value, in the order in which the log shows them. -/
def toValue (s : KeySettings) : Value := .table [
  (.text "held", .list (s.held.map .number)),
  (.text "presses", .list (s.presses.map .number)),
  (.text "exit_after", s.exitAfter)]

/-- The members of a value: of a list its values, of a text its characters, of a table its keys. -/
def members : Value → Except HostError (List Value)
  | .list values => .ok values
  | .text s => .ok (s.toList.map fun c => .text (String.ofList [c]))
  | .table entries => .ok (entries.map (·.1))
  | v => .error (.unusable .members v)

/-- The number of a key: a number, a flag or the digits of a number. -/
def keyNumber (v : Value) : Except HostError Int :=
  match v.number? with
  | some n => .ok n
  | none =>
    match v with
    | .text s => (Text.integer? s).elim (.error (.unusable .number v)) .ok
    | _ => .error (.unusable .number v)

def keyNumbers (v : Value) : Except HostError (List Int) := do
  if v.holds then (← members v).mapM keyNumber else return []

/-- The settings that a value stands for; the defaults if it does not count as true. The time to leave is taken
    as it is, since it is not looked at before the first poll. -/
def ofValue (v : Value) : Except HostError KeySettings :=
  if v.holds then
    match v with
    | .table entries => do
      let setting (name : String) : Value := (Table.find? entries name).getD .none
      let presses ← keyNumbers (setting "presses")
      let held ← keyNumbers (setting "held")
      return { held, presses, exitAfter := setting "exit_after" }
    | v => .error (.unusable (.operation "get") v)
  else .ok {}

end KeySettings

/-! ### Settings -/

structure Settings where
  rom : Value := .text "???"
  cycles : Value := .number 5000
  seed : Value := .number 0
  logLevel : Value := .text "INFO"
  progress : Value := .flag true
  showFrame : Value := .flag true
  colourScheme : Value := .text "classic"
  keys : Value := ({} : KeySettings).toValue
  deriving DecidableEq

namespace Settings

/-- The settings with their names, in the order in which the log shows them. -/
def entries (s : Settings) : Table := [
  (.text "rom", s.rom),
  (.text "cycles", s.cycles),
  (.text "seed", s.seed),
  (.text "log_level", s.logLevel),
  (.text "progress", s.progress),
  (.text "show_frame", s.showFrame),
  (.text "color_scheme", s.colourScheme),
  (.text "keys", s.keys)]

/-! ### Changes -/

def unset : String := "???"

/-- The table with the value of a key replaced, unless the new one is still to be set. -/
def replaceEntry (t : Table) (key value : Value) : Table :=
  if value = .text unset then t else Table.insert t key value

/-- A value in the place of an old one: a table changes an old table entry by entry, and what is still to
    be set changes nothing. -/
def replace : Value → Value → Value
  | .table old, .table new => .table (new.foldl (fun t (key, value) => replaceEntry t key value) old)
  | old, new => if new = .text unset then old else new

/-- The settings with one of them replaced; a name that is none of theirs changes nothing. -/
def change (s : Settings) (name : String) (value : Value) : Settings :=
  match name with
  | "rom" => { s with rom := replace s.rom value }
  | "cycles" => { s with cycles := replace s.cycles value }
  | "seed" => { s with seed := replace s.seed value }
  | "log_level" => { s with logLevel := replace s.logLevel value }
  | "progress" => { s with progress := replace s.progress value }
  | "show_frame" => { s with showFrame := replace s.showFrame value }
  | "color_scheme" => { s with colourScheme := replace s.colourScheme value }
  | "keys" => { s with keys := replace s.keys value }
  | _ => s

def changeAll (s : Settings) (changes : List (String × Value)) : Settings :=
  changes.foldl (fun s (name, value) => s.change name value) s

/-! ### Use -/

def path (s : Settings) : Except HostError String :=
  match s.rom with
  | .text path => .ok path
  | v => .error (.unusable .path v)

/-- The number of cycles to run at most. The bar would take a part of it, and the run compares with it. -/
def limit (s : Settings) : Except HostError Int :=
  match s.cycles.number? with
  | some n => .ok n
  | none => .error (.unusable (if s.progress.holds then .divided else .limit "<") s.cycles)

end Settings

end Chip8
