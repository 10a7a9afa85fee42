import Chip8.Host

/-! A keyboard without a player: the presses, the keys that are held down and the time to leave are set
    beforehand. -/

namespace Chip8

/-- What the keyboard is going to report. -/
structure KeyScript where
  presses : List Key := []
  held : List Key := []
  /-- The poll at which the host wants to leave, and at every later one. -/
  exitAfter : Option Int := none
  pollCount : Nat := 0
  deriving DecidableEq

namespace KeyScript

/-- A script from key numbers, of which the low four bits count. -/
def start (presses held : List Int) (exitAfter : Option Int) : KeyScript where
  presses := presses.map Key.ofInt
  held := held.map Key.ofInt
  exitAfter := exitAfter

/-- Has one more key pressed, after all the others. -/
def press (s : KeyScript) (key : Int) : KeyScript := { s with presses := s.presses ++ [Key.ofInt key] }

def hold (s : KeyScript) (keys : List Int) : KeyScript := { s with held := keys.map Key.ofInt }

/-- The keypad on which exactly the given keys are down. -/
def keypad (keys : List Key) : Keypad := Vector.ofFn fun k => keys.contains k

def leaves (s : KeyScript) : Bool := s.exitAfter.any fun (k : Int) => k ≤ s.pollCount

def exhausted : Fault := .plain .keyboard "Key wait with no scripted key presses left"

instance : Keyboard KeyScript where
  update := do
    modify fun (s, _) => ({ s with pollCount := s.pollCount + 1 }, keypad s.held)
    return (← get).1.leaves
  wait := do
    match (← get).presses with
    | [] => throw (.fault exhausted)
    | key :: presses =>
      modify fun s => { s with presses }
      return (key.val : Int)

end KeyScript

/-- A script whose time to leave may be no number. The polls still do their work, and then fail as they compare
    their number with it. -/
structure UncheckedScript where
  script : KeyScript := {}
  /-- The time to leave, if it is no number. -/
  misfit : Option Value := none
  deriving DecidableEq

namespace UncheckedScript

/-- A script with any value for the time to leave. -/
def start (presses held : List Int) : Value → UncheckedScript
  | .none => { script := .start presses held none }
  | exitAfter =>
    match exitAfter.number? with
    | some n => { script := .start presses held (some n) }
    | none => { script := .start presses held none, misfit := some exitAfter }

instance : Keyboard UncheckedScript where
  update := do
    let leave ← Attempt.within (fun s => (s.1.script, s.2)) (fun s d => ({ s.1 with script := d.1 }, d.2)) Keyboard.update
    match (← get).1.misfit with
    | some value => throw (.host (.unusable (.limit ">=") value))
    | none => return leave
  wait := Attempt.within (·.script) (fun s d => { s with script := d }) Keyboard.wait

end UncheckedScript

end Chip8
