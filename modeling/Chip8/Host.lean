import Chip8.Execution
import Chip8.Failure

/-! The host of a machine: what it shows frames on, what it beeps with, where its keys and its random
    bytes come from. Every device may fail, and what a device did before it failed stays done. -/

namespace Chip8

/-! ### Attempts -/

/-- An action on a device that may fail; the device goes on from where it was left in either case. -/
abbrev Attempt (D α : Type) := ExceptT Failure (StateM D) α

namespace Attempt

variable {D E S α : Type}

def within (part : S → D) (put : S → D → S) (a : Attempt D α) : Attempt S α :=
  ExceptT.mk fun s => let (result, d) := a.run (part s); (result, put s d)

/-- An attempt on a device that may be missing, and the outcome without it. -/
def ifPresent (missing : Except Failure α) (a : Attempt D α) : Attempt (Option D) α :=
  ExceptT.mk fun
    | some d => let (result, d) := a.run d; (result, some d)
    | none => (missing, none)

def either (a : Attempt D α) (b : Attempt E α) : Attempt (D ⊕ E) α :=
  ExceptT.mk fun
    | .inl d => let (result, d) := a.run d; (result, .inl d)
    | .inr e => let (result, e) := b.run e; (result, .inr e)

/-- An attempt on a device and a value, made on a copy of the value. What became of the copy is given back, and
    is lost if the attempt fails. -/
def onCopy (s : S) (a : Attempt (D × S) α) : Attempt D (S × α) :=
  ExceptT.mk fun d => let (result, d, s) := a.run (d, s); (result.map fun x => (s, x), d)

/-- A result of the machine, as an attempt that leaves the device alone. -/
def ofExcept : Except Fault α → Attempt D α
  | .ok a => pure a
  | .error fault => throw (.fault fault)

end Attempt

/-! ### Devices -/

class Graphics (D : Type) where
  draw : Frame → Attempt D Unit

class Audio (D : Type) where
  play : Attempt D Unit
  stop : Attempt D Unit

class Keyboard (D : Type) where
  /-- Writes the keys that are down now into the keypad, which shows those that were, and tells whether the run is
      to end. What was written before a failure stays there. -/
  update : Attempt (D × Keypad) Bool
  /-- The code of the next key that is pressed. -/
  wait : Attempt D Int

/-- The keys that are down now, given those that were, and whether the run is to end. -/
def Keyboard.poll {D : Type} [Keyboard D] (keypad : Keypad) : Attempt D (Keypad × Bool) :=
  Attempt.onCopy keypad Keyboard.update

class NumberSource (D : Type) where
  generate : Attempt D Int

/-! ### Devices that may be missing

Only a beeper is not missed. An instruction that asks for a key or a byte fails by a fault without the device,
while nothing guards the drawing of a frame and the poll of the keys: these are asked of nothing, which has no
such operations. -/

section Missing

variable {D E : Type}

/-- The failure to ask an operation of a device that is missing. -/
def missing (operation : String) : Failure := .host (.unusable (.operation operation) .none)

instance [Graphics D] : Graphics (Option D) where
  draw frame := Attempt.ifPresent (.error (missing "draw")) (Graphics.draw frame)

instance [Audio D] : Audio (Option D) where
  play := Attempt.ifPresent (.ok ()) Audio.play
  stop := Attempt.ifPresent (.ok ()) Audio.stop

instance [Keyboard D] : Keyboard (Option D) where
  update := ExceptT.mk fun
    | (some d, keypad) => let (result, d, keypad) := Keyboard.update.run (d, keypad); (result, some d, keypad)
    | (none, keypad) => (.error (missing "update_state"), none, keypad)
  wait := Attempt.ifPresent (.error (.fault .noKeyboard)) Keyboard.wait

instance [NumberSource D] : NumberSource (Option D) where
  generate := Attempt.ifPresent (.error (.fault .noNumberSource)) NumberSource.generate

instance [NumberSource D] [NumberSource E] : NumberSource (D ⊕ E) where
  generate := Attempt.either NumberSource.generate NumberSource.generate

end Missing

/-! ### Hosts -/

class Host (H : Type) where
  draw : Frame → Attempt H Unit
  play : Attempt H Unit
  stop : Attempt H Unit
  update : Attempt (H × Keypad) Bool
  wait : Attempt H Int
  generate : Attempt H Int

/-- A host made of one device for each purpose. -/
structure Devices (G A K N : Type) where
  graphics : G
  audio : A
  keyboard : K
  numbers : N

instance {G A K N : Type} [Graphics G] [Audio A] [Keyboard K] [NumberSource N] : Host (Devices G A K N) where
  draw frame := Attempt.within (·.graphics) (fun s d => { s with graphics := d }) (Graphics.draw frame)
  play := Attempt.within (·.audio) (fun s d => { s with audio := d }) Audio.play
  stop := Attempt.within (·.audio) (fun s d => { s with audio := d }) Audio.stop
  update := Attempt.within (fun s => (s.1.keyboard, s.2)) (fun s d => ({ s.1 with keyboard := d.1 }, d.2)) Keyboard.update
  wait := Attempt.within (·.keyboard) (fun s d => { s with keyboard := d }) Keyboard.wait
  generate := Attempt.within (·.numbers) (fun s d => { s with numbers := d }) NumberSource.generate

/-! ### A machine on its host -/

variable {H : Type} [Host H]

/-- The host's answer to a request; nothing is asked and zero answered where there is no request. -/
def Host.answer : Option Request → Attempt H Int
  | none => pure 0
  | some .key => Host.wait
  | some .byte => Host.generate

/-- Asks for the keys with a copy of the keypad. -/
def Host.poll (keypad : Keypad) : Attempt H (Keypad × Bool) := Attempt.onCopy keypad Host.update

namespace Machine

/-- Executes a word that stands for an instruction, once its request is answered. -/
def execute (m : Machine) (w : Word) : Attempt H Machine :=
  match Instruction.ofWord? w with
  | none => throw (.fault (.invalidOpcode w.toNat))
  | some ins => do
    let answer ← Host.answer ins.request?
    Attempt.ofExcept (ins.perform answer m)

/-- Lets both timers tick; the tone is played on the tick that brings the sound timer to zero. -/
def tickOnHost (m : Machine) : Attempt H Machine := do
  if m.beeps then Host.play
  return m.tick

/-- One cycle after the fetch: execute the word, show the frame, tick the timers, ask for the keys. Gives
    the machine after it and whether the run is to end. -/
def turn (m : Machine) (w : Word) : Attempt H (Machine × Bool) := do
  let m ← m.execute w
  Host.draw m.frame
  let m ← m.tickOnHost
  let (keypad, leave) ← Host.poll m.keypad
  return ({ m with keypad }, leave)

end Machine

end Chip8
