import Chip8.HostError
import Chip8.Text.Digits

/-! The progress of a run. A meter stands between the run, which tells it the number of every cycle, and a
    bar, which hears of progress only now and then and as a difference to what it heard before. -/

namespace Chip8

/-! ### Bars -/

/-- A bar as it was set up and what it was told; `E` is the type of the values of extra options. -/
structure Bar (E : Type) where
  total : Value
  description : String
  unit : String := "cycle"
  extras : List (String × E) := []
  advances : Array Int := #[]
  closed : Nat := 0

namespace Bar

variable {E : Type}

def defaultDescription (n : Int) : String := "Running (" ++ Text.thousands n ++ " cycles)"

/-- The options that a meter sets itself and therefore keeps from the bar. -/
def reserved : List String := ["total", "mininterval", "maxinterval", "miniters"]

def ofTotal (n : Int) (description : Option String) (extras : List (String × E)) : Bar E where
  total := .number n
  description := description.getD (defaultDescription n)
  extras := extras.filter fun (name, _) => !reserved.contains name

def advance (b : Bar E) (step : Int) : Bar E := { b with advances := b.advances.push step }

/-- Closes the bar, once more if it was closed before. -/
def close (b : Bar E) : Bar E := { b with closed := b.closed + 1 }

end Bar

/-! ### Meters -/

/-- A bar, the number of cycles after which it hears of progress, and the cycle it last heard of. -/
structure Meter (E : Type) where
  bar : Bar E
  rate : Int
  reported : Int := 0

namespace Meter

variable {E : Type}

/-- The rate for `n` cycles: at least 1, and at most `n` if it is chosen, else a twentieth of `n` and at
    most 50. -/
def rateFor (n : Int) : Option Int → Int
  | none => max 1 (min (n / 20) 50)
  | some rate => max 1 (min rate n)

def start (n : Int) (rate : Option Int) (description : Option String) (extras : List (String × E)) : Meter E where
  bar := Bar.ofTotal n description extras
  rate := rateFor n rate

/-- A meter whose bar has extra options. The unit is none of them, since the bar has one already. -/
def setUp (n : Int) (rate : Option Int) (description : Option String) (extras : List (String × E)) :
    Except HostError (Meter E) :=
  if (extras.map Prod.fst).contains "unit" then .error (.repeatedOption "unit") else .ok (start n rate description extras)

def report (m : Meter E) (i : Int) : Meter E :=
  { m with bar := m.bar.advance (i - m.reported), reported := i }

/-- Cycle `i` is done; the bar hears of it if the rate divides it. -/
def update (m : Meter E) (i : Int) : Meter E := if 0 < i ∧ i % m.rate = 0 then m.report i else m

/-- The last cycle was `i`; the bar hears of it and is closed. -/
def close (m : Meter E) (i : Int) : Meter E := { m.report i with bar := (m.report i).bar.close }

end Meter

end Chip8
