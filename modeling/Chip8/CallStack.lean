import Chip8.Failure
import Chip8.Word

/-! The stack of return addresses: sixteen slots, filled from slot 0. The pointer is the number of slots
    in use. -/

namespace Chip8

/-- Return addresses and how many of them there are. -/
structure CallStack where
  slots : Vector UInt16 16
  pointer : Int
  deriving DecidableEq

namespace CallStack

abbrev depth : Nat := 16

def empty : CallStack := ⟨Vector.replicate 16 0, 0⟩

/-- The slot that a pointer names; pointers count around the slots. -/
def slot (pointer : Int) : Fin 16 := ⟨(pointer % 16).toNat, toNat_emod_lt pointer⟩

/-- Puts the low twelve bits of an address on the stack. -/
def push (s : CallStack) (address : UInt16) : Except Fault CallStack :=
  if s.pointer < depth then
    .ok ⟨s.slots.set (slot s.pointer) (address &&& 0xFFF), s.pointer + 1⟩
  else .error (.stackOverflow depth)

/-- Takes the last address from the stack and clears its slot. -/
def pop (s : CallStack) : Except Fault (CallStack × UInt16) :=
  if 0 < s.pointer then
    .ok (⟨s.slots.set (slot (s.pointer - 1)) 0, s.pointer - 1⟩, s.slots[slot (s.pointer - 1)])
  else .error .stackUnderflow

end CallStack

end Chip8
