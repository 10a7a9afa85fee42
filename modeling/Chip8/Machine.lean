import Chip8.CallStack
import Chip8.Frame
import Chip8.Memory

/-! The machine: memory, registers, screen, call stack, timers and keypad, and what happens to it outside
    the instructions: fetching a word, loading a program, and the count-down of the timers. -/

namespace Chip8

abbrev Key := Fin 16

/-- The key named by the low four bits of a number, in two's complement. -/
def Key.ofInt (n : Int) : Key := ⟨(n % 16).toNat, toNat_emod_lt n⟩

abbrev Keypad := Vector Bool 16

abbrev Registers := Vector Byte 16

abbrev Registers.count : Nat := 16

abbrev Register.flag : Register := 0xF

abbrev Keypad.count : Nat := 16

/-- The state of a machine between two instructions. -/
structure Machine where
  memory : Memory
  pc : UInt16
  frame : Frame
  stack : CallStack
  delay : Byte
  sound : Byte
  keypad : Keypad
  v : Registers
  i : UInt16
  deriving DecidableEq

namespace Machine

def programStart : UInt16 := 0x200

/-- A machine before its first instruction: the font in memory, all else zero. -/
def initial : Machine where
  memory := Memory.initial
  pc := programStart
  frame := Frame.blank
  stack := CallStack.empty
  delay := 0
  sound := 0
  keypad := Vector.replicate Keypad.count false
  v := Vector.replicate Registers.count 0
  i := 0

/-! ### Fetching -/

/-- The address of the next word, within the memory. -/
def next (pc : UInt16) : UInt16 := (pc + 2) &&& 0xFFF

def fetched (m : Machine) : Word := m.memory.readWord m.pc.toNat

def advance (m : Machine) : Machine := { m with pc := next m.pc }

/-! ### Loading -/

/-- The number of cells from the program counter to the end of the memory. -/
def capacity (m : Machine) : Int := (Memory.cellCount : Int) - m.pc.toNat

/-- Writes a program into memory from the program counter on, if it fits. -/
def loadProgram (m : Machine) (program : Program) : Except Fault Machine :=
  if program.length ≤ m.capacity then
    .ok { m with memory := m.memory.writeRun m.pc.toNat program }
  else .error (.programTooLarge program.length m.capacity)

/-! ### Timers -/

/-- A timer one tick later; it stops at zero. -/
def countDown (timer : Byte) : Byte := if timer = 0 then 0 else timer - 1

def tick (m : Machine) : Machine := { m with delay := countDown m.delay, sound := countDown m.sound }

/-- The sound timer runs out with the next tick. -/
def beeps (m : Machine) : Bool := m.sound == 1

end Machine

end Chip8
