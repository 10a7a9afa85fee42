import Chip8.Instruction
import Chip8.Machine

/-! What instructions do to the machine. Two instructions ask the host for a number, a key or a byte; their
    effect is a function of the answer. The program counter already points past the instruction. -/

namespace Chip8

def Condition.holds (c : Condition) (m : Machine) : Bool :=
  match c with
  | .equalsByte x nn => m.v[x] == nn
  | .differsFromByte x nn => m.v[x] != nn
  | .equalsRegister x y => m.v[x] == m.v[y]
  | .differsFromRegister x y => m.v[x] != m.v[y]
  | .keyDown x => m.keypad[Key.ofInt m.v[x].toNat]
  | .keyUp x => !m.keypad[Key.ofInt m.v[x].toNat]

namespace Machine

/-! ### Registers -/

def setRegister (m : Machine) (x : Register) (b : Byte) : Machine := { m with v := m.v.set x b }

def registersUpTo (m : Machine) (x : Register) : List Byte := m.v.toList.take (x + 1)

/-- Does an operation on two registers. The flag is written first, so an operation on the flag register
    leaves its result there. -/
def compute (m : Machine) (op : Arithmetic) (x y : Register) : Machine :=
  let (result, flag) := op.compute m.v[x] m.v[y] m.v[Register.flag]
  (m.setRegister Register.flag flag).setRegister x result

/-! ### Memory -/

def dump (m : Machine) (bytes : List Byte) : Machine :=
  { m with memory := m.memory.writeRun m.i.toNat bytes }

/-- The digits of a byte in decimal: hundreds, tens and ones. -/
def decimalDigits (b : Byte) : List Byte := [b / 100, b / 10 % 10, b % 10]

/-- Reads `V0` to `VX` from memory from the index on. -/
def loadRegisters (m : Machine) (x : Register) : Machine :=
  { m with v := Vector.ofFn fun k => if k ≤ x then m.memory.read (m.i.toNat + k) else m.v[k] }

/-! ### Screen -/

/-- The screen cells under the sprite of height `n` at the index, drawn at `VX` and `VY`. -/
def sprite (m : Machine) (x y : Register) (n : Nat) : List (Fin 2048) :=
  Frame.spriteCells m.v[x].toNat m.v[y].toNat (m.memory.readRun m.i.toNat n)

/-- Draws a sprite; the flag tells whether it met a lit cell. -/
def drawSprite (m : Machine) (x y : Register) (n : Nat) : Machine :=
  let cells := m.sprite x y n
  { m with
    frame := m.frame.draw cells
    v := m.v.set Register.flag (if m.frame.collides cells then 1 else 0) }

end Machine

/-! ### Instructions -/

inductive Request where
  | key
  | byte
  deriving DecidableEq

namespace Instruction

def request? : Instruction → Option Request
  | .waitKey _ => some .key
  | .random _ _ => some .byte
  | _ => none

/-- The machine after the instruction, given the host's answer, which counts only if it was asked for. -/
def perform (ins : Instruction) (answer : Int) (m : Machine) : Except Fault Machine :=
  match ins with
  | .clear => .ok { m with frame := Frame.blank }
  | .ret => do
    let (stack, address) ← m.stack.pop
    return { m with stack, pc := address }
  | .jump nnn => .ok { m with pc := UInt16.ofNat nnn }
  | .call nnn => do
    let stack ← m.stack.push m.pc
    return { m with stack, pc := UInt16.ofNat nnn }
  | .skip condition => .ok (if condition.holds m then m.advance else m)
  | .set x nn => .ok (m.setRegister x nn)
  | .add x nn => .ok (m.setRegister x (m.v[x] + nn))
  | .arithmetic op x y => .ok (m.compute op x y)
  | .setIndex nnn => .ok { m with i := UInt16.ofNat nnn }
  | .jumpFromV0 nnn => .ok { m with pc := UInt16.ofNat ((nnn + m.v[0].toNat) % Memory.cellCount) }
  | .random x nn => .ok (m.setRegister x (UInt8.ofInt answer &&& nn))
  | .draw x y n => .ok (m.drawSprite x y n)
  | .getDelay x => .ok (m.setRegister x m.delay)
  | .waitKey x => .ok (m.setRegister x (UInt8.ofNat (Key.ofInt answer)))
  | .setDelay x => .ok { m with delay := m.v[x] }
  | .setSound x => .ok { m with sound := m.v[x] }
  | .addIndex x => .ok { m with i := m.i + m.v[x].toUInt16 }
  | .glyph x => .ok { m with i := UInt16.ofNat (Font.start + Font.glyphSize * m.v[x].toNat) }
  | .decimal x => .ok (m.dump (Machine.decimalDigits m.v[x]))
  | .store x => .ok (m.dump (m.registersUpTo x))
  | .load x => .ok (m.loadRegisters x)

end Instruction

end Chip8
