import Chip8.HostError
import Chip8.Text.Digits

/-! Faults: failures of the machine or of one of its devices, which the machine reports in its log. The
    machine's own faults name their cause. A device may report a fault of any kind in its own words; some
    kinds have details of their own, and then the words follow from the details. -/

namespace Chip8

/-- The kinds of faults, from the most general one down. -/
inductive Fault.Kind where
  | machine | programTooLarge | invalidOpcode
  | stack | stackOverflow | stackUnderflow
  | peripheral | graphics | audio | keyboard | numberSource
  deriving DecidableEq

/-- A failure of the machine or of a device that it uses. -/
inductive Fault where
  | programTooLarge (size capacity : Int)
  | invalidOpcode (opcode : Int)
  | stackOverflow (depth : Int)
  | stackUnderflow
  /-- A fault of any kind, in words, and its details by their names. -/
  | reported (kind : Fault.Kind) (text : String) (details : List (String × Value))
  deriving DecidableEq

namespace Fault

/-! ### Kinds -/

/-- The kind itself and the kinds that include it, the most general one last. -/
def Kind.lineage : Kind → List Kind
  | .machine => [.machine]
  | .programTooLarge => [.programTooLarge, .machine]
  | .invalidOpcode => [.invalidOpcode, .machine]
  | .stack => [.stack, .machine]
  | .stackOverflow => [.stackOverflow, .stack, .machine]
  | .stackUnderflow => [.stackUnderflow, .stack, .machine]
  | .peripheral => [.peripheral, .machine]
  | .graphics => [.graphics, .peripheral, .machine]
  | .audio => [.audio, .peripheral, .machine]
  | .keyboard => [.keyboard, .peripheral, .machine]
  | .numberSource => [.numberSource, .peripheral, .machine]

def Kind.name : Kind → String
  | .machine => "Chip8Error"
  | .programTooLarge => "ProgramTooLargeError"
  | .invalidOpcode => "InvalidOpcodeError"
  | .stack => "StackError"
  | .stackOverflow => "StackOverflowError"
  | .stackUnderflow => "StackUnderflowError"
  | .peripheral => "PeripheralError"
  | .graphics => "GraphicsError"
  | .audio => "AudioError"
  | .keyboard => "KeyboardError"
  | .numberSource => "NumberSourceError"

def Kind.all : List Kind := [.machine, .programTooLarge, .invalidOpcode, .stack, .stackOverflow,
  .stackUnderflow, .peripheral, .graphics, .audio, .keyboard, .numberSource]

def Kind.named? (name : String) : Option Kind := Kind.all.find? (·.name = name)

def kind : Fault → Kind
  | .programTooLarge _ _ => .programTooLarge
  | .invalidOpcode _ => .invalidOpcode
  | .stackOverflow _ => .stackOverflow
  | .stackUnderflow => .stackUnderflow
  | .reported kind _ _ => kind

/-! ### Wording -/

def tooLargeText (size capacity : String) : String :=
  "Unable to load program: " ++ size ++ " bytes exceeds the " ++ capacity ++ " bytes available"

def invalidOpcodeText (digits : String) : String := "Invalid opcode: 0x" ++ digits

def overflowText (depth : String) : String :=
  "Stack exhausted: cannot call beyond " ++ depth ++ " nested subroutines"

def message : Fault → String
  | .programTooLarge size capacity => tooLargeText (toString size) (toString capacity)
  | .invalidOpcode opcode => invalidOpcodeText (Text.hex 4 opcode)
  | .stackOverflow depth => overflowText (toString depth)
  | .stackUnderflow => "Stack underflow: return with no active subroutine"
  | .reported _ text _ => text

def details : Fault → List (String × Value)
  | .programTooLarge size capacity => [("size", .number size), ("capacity", .number capacity)]
  | .invalidOpcode opcode => [("opcode", .number opcode)]
  | .stackOverflow depth => [("depth", .number depth)]
  | .stackUnderflow => []
  | .reported _ _ details => details

/-! ### Reports -/

def plain (kind : Kind) (text : String) : Fault := .reported kind text []

def noKeyboard : Fault := plain .keyboard "No keyboard attached"

def noNumberSource : Fault := plain .numberSource "No number source attached"

/-- What a report of a kind has to give, by name; nothing where any number of things may be given. -/
def Kind.required? : Kind → Option (List String)
  | .programTooLarge => some ["size", "capacity"]
  | .invalidOpcode => some ["opcode"]
  | .stackOverflow => some ["depth"]
  | .stackUnderflow => some []
  | .graphics => some ["message"]
  | _ => none

/-- Checks that neither more nor less is given than a report of the kind has to give. -/
def Kind.checkCount (kind : Kind) (given : Nat) : Except HostError Unit :=
  match kind.required? with
  | none => .ok ()
  | some names =>
    if names.length < given then .error (.tooManyDetails kind.name names.length given)
    else if given < names.length then .error (.detailsMissing kind.name (names.drop given))
    else .ok ()

/-- The fault of a kind in the words of the given values. -/
def Kind.compose : Kind → List Value → Except HostError Fault
  | .programTooLarge, [.number size, .number capacity] => .ok (.programTooLarge size capacity)
  | .programTooLarge, [size, capacity] =>
    .ok (.reported .programTooLarge (tooLargeText size.shown capacity.shown)
      [("size", size), ("capacity", capacity)])
  | .invalidOpcode, [.number opcode] => .ok (.invalidOpcode opcode)
  | .invalidOpcode, [opcode] =>
    match opcode.number? with
    | some n => .ok (.reported .invalidOpcode (invalidOpcodeText (Text.hex 4 n)) [("opcode", opcode)])
    | none => .error (.unusable .hexadecimal opcode)
  | .stackOverflow, [.number depth] => .ok (.stackOverflow depth)
  | .stackOverflow, [depth] => .ok (.reported .stackOverflow (overflowText depth.shown) [("depth", depth)])
  | .stackUnderflow, [] => .ok .stackUnderflow
  | .graphics, [text] => .ok (plain .graphics ("Error while drawing graphics: " ++ text.shown))
  | kind, values => .ok (plain kind (Value.shownTogether values))

/-- The fault that a report of the kind is about, unless the report itself fails. -/
def Kind.report (kind : Kind) (values : List Value) : Except HostError Fault := do
  kind.checkCount values.length
  kind.compose values

end Fault

end Chip8
