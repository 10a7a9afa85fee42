/-! Whole numbers as they are typed: blanks around them are left out, and a single underscore may stand
    between two digits. -/

namespace Chip8.Text

def digit? (c : Char) : Option Nat := if c.isDigit then some (c.toNat - '0'.toNat) else none

/-- The number that `n` becomes by the digits behind it. -/
def digitsFrom? (n : Nat) : List Char → Option Nat
  | [] => some n
  | '_' :: c :: rest => do digitsFrom? (10 * n + (← digit? c)) rest
  | c :: rest => do digitsFrom? (10 * n + (← digit? c)) rest

/-- The number of at least one digit. -/
def natural? : List Char → Option Nat
  | [] => none
  | c :: rest => do digitsFrom? (← digit? c) rest

/-- The number that a text without blanks around it spells, with or without a sign. -/
def signed? : List Char → Option Int
  | '-' :: digits => (natural? digits).map fun n => -n
  | '+' :: digits => (natural? digits).map Int.ofNat
  | digits => (natural? digits).map Int.ofNat

/-- A character that may stand around a number. -/
def isBlank (c : Char) : Bool := c = ' ' || 9 ≤ c.toNat && c.toNat ≤ 13 || 28 ≤ c.toNat && c.toNat ≤ 31

def trimmed (cs : List Char) : List Char := ((cs.dropWhile isBlank).reverse.dropWhile isBlank).reverse

def integer? (s : String) : Option Int := signed? (trimmed s.toList)

end Chip8.Text
