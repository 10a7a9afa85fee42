import Chip8.Value

/-! Failures that are not the machine's own: of a device, of the log, of pictures, files and settings. Each
    names its cause; `message?` holds the wording and `category` tells what sort of failure it is. -/

namespace Chip8

/-! ### Causes -/

/-- What a value is used for where not every value will do. -/
inductive Use where
  /-- For an operation that it has not, by its name. -/
  | operation (name : String)
  | path
  /-- As a list of which each member is taken. -/
  | members
  | number
  /-- As a number of cycles of which a part is taken. -/
  | divided
  /-- As a limit to which a number stands in the given relation. -/
  | limit (relation : String)
  | key
  | hexadecimal
  | seed
  deriving DecidableEq

/-- Why a file cannot be read. -/
inductive FileError where
  | missing
  | isFolder
  /-- The name goes on behind a file, as if it were a folder. -/
  | notFolder
  | tooLong
  /-- The name holds the character that ends names. -/
  | holdsNull
  deriving DecidableEq

/-- Why a reference from one setting to another one leads nowhere. -/
inductive ReferenceError where
  /-- There is nothing at the end of it. -/
  | notFound (path : String)
  | unset (path : String)
  /-- It leads through a setting that has no parts. -/
  | noParts (path whole part : String)
  | outside (path : String)
  | circular
  /-- It is a call of a function, of which there are none. -/
  | noFunction (name : String)
  | malformed (text : String)
  deriving DecidableEq

/-- A failure that is not the machine's own. -/
inductive HostError where
  /-- A device broke down, and the machine does not count it among its faults. -/
  | breakdown (text : String)
  /-- A device could not use a value, and the machine does not count it among its faults. -/
  | badValue (text : String)
  | tooManyDetails (kind : String) (expected given : Nat)
  | detailsMissing (kind : String) (names : List String)
  | unknownLevel
  /-- An option was given that is set already. -/
  | repeatedOption (name : String)
  /-- A picture was asked of a number of cells that does not fill the screen. -/
  | cellCount (expected got : Nat)
  | noFrame
  | unknownScheme (name : String) (available : List String)
  /-- A colour was given by a number of parts that is neither one nor three. -/
  | colourParts (parts points : Nat)
  | colourRange (part : Int)
  /-- A number does not fit into the host's integers of a kind. -/
  | tooWide (kind : String)
  | unusable (use : Use) (value : Value)
  | file (error : FileError) (path : String)
  /-- A setting refers to another one in vain; the setting and what it is a part of. -/
  | reference (error : ReferenceError) (setting whole : String)
  deriving DecidableEq

/-- The first number that is too wide for 64 bits with a sign. -/
def HostError.wide : Int := 0x8000000000000000

/-! ### Wording -/

def Use.message : Use → Value → String
  | .operation name, v => s!"'{v.typeName}' object has no attribute '{name}'"
  | .path, v =>
    s!"argument should be a str or an os.PathLike object where __fspath__ returns a str, not '{v.typeName}'"
  | .members, v => s!"'{v.typeName}' object is not iterable"
  | .number, .text s => "invalid literal for int() with base 10: " ++ Text.quoted s
  | .number, v =>
    s!"int() argument must be a string, a bytes-like object or a real number, not '{v.typeName}'"
  | .divided, v => s!"unsupported operand type(s) for //: '{v.typeName}' and 'int'"
  | .limit relation, v => s!"'{relation}' not supported between instances of 'int' and '{v.typeName}'"
  | .key, v => s!"unhashable type: '{v.typeName}'"
  | .hexadecimal, .text _ => "Unknown format code 'X' for object of type 'str'"
  | .hexadecimal, v => s!"unsupported format string passed to {v.typeName}.__format__"
  | .seed, .none => "None is not a valid value for jnp.array"
  | .seed, .list values =>
    s!"PRNGKey accepts a scalar seed, but was given an array of shape ({values.length},) != (). "
      ++ "Use jax.vmap for batching"
  | .seed, v =>
    let elements := match v with
      | .text s => s!"<U{max 1 s.length}"
      | _ => "object"
    "Value '" ++ v.shown ++ "' with dtype " ++ elements ++ " is not a valid JAX array type. "
      ++ "Only arrays of numeric types are supported by JAX."

def ReferenceError.message : ReferenceError → String
  | .notFound path => "Interpolation key '" ++ path ++ "' not found"
  | .unset path =>
    "MissingMandatoryValue while resolving interpolation: Missing mandatory value: " ++ path
  | .noParts path whole part =>
    "ConfigTypeError raised while resolving interpolation: Error trying to access " ++ path ++ ": node \x60"
      ++ whole ++ "\x60 is not a container and thus cannot contain \x60" ++ part ++ "\x60\x60"
  | .outside path => "ConfigKeyError while resolving interpolation: Error resolving key '" ++ path ++ "'"
  | .circular => "Recursive interpolation detected"
  | .noFunction name => "Unsupported interpolation type " ++ name
  | .malformed text => "no viable alternative at input '" ++ text ++ "'"

/-- Names joined for a sentence. -/
def enumeration : List String → String
  | [] => ""
  | [a] => a
  | [a, b] => a ++ " and " ++ b
  | a :: rest => a ++ ", " ++ enumeration rest

def HostError.message? : HostError → Option String
  | .breakdown text | .badValue text => some text
  | .tooManyDetails kind expected given =>
    let arguments := if expected = 0 then "argument" else "arguments"
    some s!"{kind}.__init__() takes {expected + 1} positional {arguments} but {given + 1} were given"
  | .detailsMissing kind names =>
    let arguments := if names.length = 1 then "argument" else "arguments"
    some (s!"{kind}.__init__() missing {names.length} required positional {arguments}: "
      ++ enumeration (names.map fun name => "'" ++ name ++ "'"))
  | .unknownLevel => some "tuple.index(x): x not in tuple"
  | .repeatedOption name => some ("tqdm.std.tqdm() got multiple values for keyword argument '" ++ name ++ "'")
  | .cellCount expected got => some s!"Expected {expected} cells, got {got}"
  | .noFrame => some "No frame has been drawn yet"
  | .unknownScheme name available =>
    some ("Unknown color scheme '" ++ name ++ "'. Available: " ++ Text.quotedList available)
  | .colourParts parts points =>
    some (s!"shape mismatch: value array of shape ({parts},) could not be broadcast to "
      ++ s!"indexing result of shape ({points},3)")
  | .colourRange part => some s!"Python integer {part} out of bounds for uint8"
  | .tooWide kind => some ("Python int too large to convert to C " ++ kind)
  | .unusable use value => some (use.message value)
  | .file .holdsNull _ => some "embedded null byte"
  | .file _ _ => none
  | .reference error setting whole =>
    some (error.message ++ "\n    full_key: " ++ setting ++ "\n    object_type=" ++ whole)

/-! ### Sorts -/

inductive HostError.Category where
  | breakdown
  | badValue
  | badType
  | noOperation
  | outOfRange
  | file (error : FileError)
  | reference (error : ReferenceError)
  deriving DecidableEq

def Use.category : Use → Value → HostError.Category
  | .operation _, _ => .noOperation
  | .number, .text _ | .hexadecimal, .text _ | .seed, .none => .badValue
  | _, _ => .badType

def HostError.category : HostError → HostError.Category
  | .breakdown _ => .breakdown
  | .badValue _ | .unknownLevel | .cellCount _ _ | .noFrame | .unknownScheme _ _ | .colourParts _ _
  | .file .holdsNull _ => .badValue
  | .tooManyDetails _ _ _ | .detailsMissing _ _ | .repeatedOption _ => .badType
  | .colourRange _ | .tooWide _ => .outOfRange
  | .unusable use value => use.category value
  | .file error _ => .file error
  | .reference error _ _ => .reference error

end Chip8
