import Chip8.Device.KeyScript

/-! Devices that misbehave on purpose, to see how a machine bears it. They fail at calls that are set
    beforehand, before they do anything; a rigged keyboard can also give key codes of any size and flip
    keys instead of reporting them. -/

namespace Chip8

/-! ### Planned failures -/

/-- Which calls are to fail, counted from 1, and how many there were. -/
structure FailurePlan where
  failures : List (Int × Failure) := []
  calls : Nat := 0
  deriving DecidableEq

namespace FailurePlan

/-- The plan of failures that are each given by a call, the name of a kind and values. -/
def ofNames (failures : List (Int × String × List Value)) : FailurePlan where
  failures := failures.map fun (call, name, values) => (call, .ofName name values)

def due (p : FailurePlan) : Option Failure := p.failures.lookup (p.calls : Int)

def call : Attempt FailurePlan Unit := do
  modify fun p => { p with calls := p.calls + 1 }
  match (← get).due with
  | some failure => throw failure
  | none => return ()

end FailurePlan

/-! ### Devices with a plan -/

structure Rigged (D : Type) where
  device : D
  plan : FailurePlan := {}

namespace Rigged

variable {D α : Type}

/-- Does what the device does, unless this call is planned to fail. -/
def byPlan (a : Attempt D α) : Attempt (Rigged D) α := do
  Attempt.within (·.plan) (fun s p => { s with plan := p }) FailurePlan.call
  Attempt.within (·.device) (fun s d => { s with device := d }) a

/-- Does what the device does, planned or not. -/
def always (a : Attempt D α) : Attempt (Rigged D) α :=
  Attempt.within (·.device) (fun s d => { s with device := d }) a

instance [Graphics D] : Graphics (Rigged D) where
  draw frame := byPlan (Graphics.draw frame)

/-- The plan is for the starts of the tone. -/
instance [Audio D] : Audio (Rigged D) where
  play := byPlan Audio.play
  stop := always Audio.stop

instance [NumberSource D] : NumberSource (Rigged D) where
  generate := byPlan NumberSource.generate

end Rigged

/-! ### Keyboards -/

/-- A key script with a plan for its polls and one for its waits. -/
structure RiggedKeyboard where
  script : KeyScript
  polls : FailurePlan := {}
  waits : FailurePlan := {}
  /-- Key codes that are given out as they are, before the presses of the script. -/
  rawCodes : List Int := []
  /-- Keys that every poll flips; the script then has no say in the polls. -/
  flipped : Option (List Key) := none
  deriving DecidableEq

namespace RiggedKeyboard

/-- Counts a poll and fails if it is planned to. -/
def planPoll : Attempt (RiggedKeyboard × Keypad) Unit :=
  Attempt.within (·.1.polls) (fun s p => ({ s.1 with polls := p }, s.2)) FailurePlan.call

/-- Counts a wait and fails if it is planned to. -/
def planWait : Attempt RiggedKeyboard Unit :=
  Attempt.within (·.waits) (fun s p => { s with waits := p }) FailurePlan.call

def flip (keypad : Keypad) (keys : List Key) : Keypad :=
  keys.foldl (fun (pad : Keypad) (k : Key) => pad.set k (!pad[k])) keypad

instance : Keyboard RiggedKeyboard where
  update := do
    match (← get).1.flipped with
    | some keys =>
      modify fun (k, keypad) => ({ k with script.pollCount := k.script.pollCount + 1 }, flip keypad keys)
      planPoll
      return false
    | none =>
      planPoll
      Attempt.within (fun s => (s.1.script, s.2)) (fun s d => ({ s.1 with script := d.1 }, d.2)) Keyboard.update
  wait := do
    planWait
    match (← get).rawCodes with
    | code :: rawCodes =>
      modify fun s => { s with rawCodes }
      return code
    | [] => Attempt.within (·.script) (fun s d => { s with script := d }) Keyboard.wait

end RiggedKeyboard

end Chip8
