/-! Numbers as text: hexadecimal with a least width, decimal with grouped thousands, and decimal with a
    fixed number of places. -/

namespace Chip8.Text

/-- The sign of a number as it is written: negative numbers have a minus, the others have nothing. -/
def sign (n : Int) : List Char := if n < 0 then ['-'] else []

/-! ### Hexadecimal -/

/-- The hexadecimal digits of a number, in capitals, the most significant first. -/
def hexDigits (n : Nat) : List Char := (Nat.toDigits 16 n).map Char.toUpper

/-- A number in capital hexadecimal, filled with zeros after its sign up to `width` characters, of which
    the sign is one. -/
def hex (width : Nat) (n : Int) : String :=
  String.ofList (sign n ++ (hexDigits n.natAbs).leftpad (width - (sign n).length) '0')

/-! ### Thousands -/

/-- A comma after every three digits that have another one behind them. -/
def groupThrees : List Char → List Char
  | a :: b :: c :: d :: rest => a :: b :: c :: ',' :: groupThrees (d :: rest)
  | digits => digits

/-- A decimal number with a comma between its groups of three digits, counted from the right. -/
def thousands (n : Int) : String :=
  String.ofList (sign n ++ (groupThrees (Nat.toDigits 10 n.natAbs).reverse).reverse)

/-! ### Fixed places -/

/-- The quotient rounded to the nearest number; of two that are equally near, the even one. -/
def roundHalfEven (num den : Nat) : Nat :=
  if 2 * (num % den) < den ∨ 2 * (num % den) = den ∧ num / den % 2 = 0 then num / den else num / den + 1

/-- The quotient `num / den` in decimal with `places` digits after the point, rounded half to even. -/
def fixed (places : Nat) (num : Int) (den : Nat) : String :=
  let unit := Nat.pow 10 places
  let scaled := roundHalfEven (num.natAbs * unit) den
  String.ofList (sign num ++ Nat.toDigits 10 (scaled / unit) ++
    '.' :: (Nat.toDigits 10 (scaled % unit)).leftpad places '0')

/-! ### Binary digits -/

/-- The number nearest to `n` that has at most `digits` binary digits before its zeros at the end; of two
    that are equally near, the even one. -/
def toBinaryDigits (digits : Nat) (n : Int) : Int :=
  let unit := Nat.pow 2 (n.natAbs.log2 + 1 - digits)
  n.sign * (roundHalfEven n.natAbs unit * unit)

/-! ### Columns -/

def alignRight (width : Nat) (s : String) : String := String.ofList (s.toList.leftpad width ' ')

end Chip8.Text
