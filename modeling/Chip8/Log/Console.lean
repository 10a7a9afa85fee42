import Chip8.Text.Digits

/-! The console: what was printed, and the clock beside it, which counts in ticks. A second has a power of two of them,
    so every time that a binary fraction can tell is a number of ticks of some clock. -/

namespace Chip8

/-- A length of time in ticks, of which a second has `2 ^ precision`. -/
structure Duration where
  ticks : Int
  precision : Nat
  deriving DecidableEq

/-- The time in seconds with so many decimal places. -/
def Duration.seconds (d : Duration) (places : Nat) : String := Text.fixed places d.ticks (Nat.pow 2 d.precision)

structure Console where
  /-- The output goes to a terminal, which understands colours. -/
  terminal : Bool := false
  /-- The time in ticks. -/
  now : Int := 0
  /-- A second has `2 ^ precision` ticks. -/
  precision : Nat := 3
  /-- How many ticks pass before each of the next occasions to look at the clock; no time passes before those behind
      them. -/
  pauses : List Int := []
  /-- What was printed, in order; each is followed by a line break. -/
  printed : Array String := #[]
  deriving DecidableEq

namespace Console

def print (c : Console) (s : String) : Console := { c with printed := c.printed.push s }

def printAll (c : Console) (lines : List String) : Console := lines.foldl print c

def text (c : Console) : String := String.join (c.printed.toList.map (· ++ "\n"))

/-! ### Time -/

def pass (c : Console) (ticks : Int) : Console := { c with now := c.now + ticks }

/-- The console at the next occasion to look at the clock. -/
def tick (c : Console) : Console :=
  match c.pauses with
  | [] => c
  | pause :: pauses => { c.pass pause with pauses }

/-- The time since an earlier one, as exact as 53 binary digits can be. -/
def since (c : Console) (earlier : Int) : Duration := ⟨Text.toBinaryDigits 53 (c.now - earlier), c.precision⟩

end Console

end Chip8
