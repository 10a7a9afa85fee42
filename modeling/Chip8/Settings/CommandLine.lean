import Chip8.Settings

/-! Settings from arguments of the form `name=value`. -/

namespace Chip8.Settings

def flag? : String → Option Bool
  | "true" => some true
  | "false" => some false
  | _ => none

/-- The value that a text spells for the setting of a name; nothing if there is none of that name or the
    text has not the right form. -/
def value? (name text : String) : Option Value :=
  match name with
  | "rom" | "log_level" | "color_scheme" => some (.text text)
  | "cycles" | "seed" => (Text.integer? text).map .number
  | "progress" | "show_frame" => (flag? text).map .flag
  | _ => none

/-- The name and the value of an argument. -/
def splitArgument (argument : List Char) : String × String :=
  (String.ofList (argument.takeWhile (· != '=')), String.ofList ((argument.dropWhile (· != '=')).drop 1))

/-- The setting that an argument names and its value, or the argument if it does not fit. -/
def ofArgument (argument : String) : Except String (String × Value) :=
  let (name, text) := splitArgument argument.toList
  match value? name text with
  | some value => .ok (name, value)
  | none => .error argument

/-- The settings after all the arguments, or the first argument that does not fit. -/
def ofArguments (arguments : List String) : Except String Settings :=
  return ({} : Settings).changeAll (← arguments.mapM ofArgument)

end Chip8.Settings
