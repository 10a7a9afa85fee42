import Chip8.Failure
import Chip8.Log.Console

/-! What the log of a machine can say, and how urgent it is. -/

namespace Chip8

/-! ### Levels -/

/-- How urgent a message is, from the least urgent up. -/
inductive Level where
  | debug | info | warning | error
  deriving DecidableEq

namespace Level

def name : Level → String
  | .debug => "DEBUG"
  | .info => "INFO"
  | .warning => "WARNING"
  | .error => "ERROR"

def rank : Level → Nat
  | .debug => 0
  | .info => 1
  | .warning => 2
  | .error => 3

def all : List Level := [.debug, .info, .warning, .error]

def ofName? (s : String) : Option Level := all.find? (·.name == s)

/-- The level of exactly this name, or the error of naming one that does not exist. -/
def named (s : String) : Except HostError Level :=
  match ofName? s with
  | some level => .ok level
  | none => .error .unknownLevel

/-- The capital of a letter, wherever it is one from `A` to `Z`: two letters outside that alphabet have
    such a capital as well. -/
def capital (c : Char) : Char := if c = 'ı' then 'I' else if c = 'ſ' then 'S' else c.toUpper

/-- The name of a level that a value gives, which has to be a text. -/
def nameOf : Value → Except HostError String
  | .text name => .ok name
  | v => .error (.unusable (.operation "upper") v)

/-- The level of this name in any mixture of small and capital letters. -/
def ofSetting? (s : String) : Option Level := ofName? (s.map capital)

/-- The terminal's escape sequence for the colour of the level. -/
def colour : Level → String
  | .debug => "\x1b[36m"
  | .info => "\x1b[32m"
  | .warning => "\x1b[33m"
  | .error => "\x1b[31m"

def colourEnd : String := "\x1b[0m"

end Level

/-! ### Messages -/

structure Message where
  level : Level
  text : String
  deriving DecidableEq

namespace Message

def address (a : Int) : String := "0x" ++ Text.hex 3 a

def rule : Message := ⟨.info, String.ofList (List.replicate 60 '=')⟩

def loaded (size a : Int) : Message := ⟨.info, s!"Loaded {size} bytes at " ++ address a⟩

def traced (pc word : Int) : Message := ⟨.debug, "pc=" ++ address pc ++ " opcode=0x" ++ Text.hex 4 word⟩

def aborted (pc : Int) (reason : String) : Message :=
  ⟨.error, "Cycle at pc=" ++ address pc ++ " aborted: " ++ reason⟩

def runStarted (settings : Table) : List Message :=
  [rule, ⟨.info, "Starting run with configuration:"⟩]
    ++ settings.map (fun (key, value) => ⟨.info, "  " ++ key.shown ++ ": " ++ value.shown⟩)
    ++ [rule]

def ending (leave : Bool) : String := if leave then "exit requested by host" else "cycle limit reached"

def runEnded (cycles : Int) (elapsed : Duration) (leave : Bool) : List Message :=
  [rule,
    ⟨.info, s!"Run finished after {cycles} cycles in " ++ elapsed.seconds 1 ++ "s (" ++ ending leave ++ ")"⟩,
    rule]

end Message

end Chip8
