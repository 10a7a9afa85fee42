import Chip8.Text.Unprintable

/-! Texts in quotes. A text stands in single quotes, or in double ones if it holds a single quote and no
    double one. The quote around it, backslashes and unprintable characters are escaped. -/

namespace Chip8.Text

/-! ### Escapes -/

/-- A code point in `width` lower-case hexadecimal digits. -/
def codePoint (width : Nat) (c : Char) : List Char := (Nat.toDigits 16 c.toNat).leftpad width '0'

/-- A character as it stands between quotes of the kind `quote`. -/
def escape (quote c : Char) : List Char :=
  if c = quote ∨ c = '\\' then ['\\', c]
  else if c = '\n' then ['\\', 'n']
  else if c = '\t' then ['\\', 't']
  else if c = '\r' then ['\\', 'r']
  else if unprintable c then
    if c.toNat < 0x100 then '\\' :: 'x' :: codePoint 2 c
    else if c.toNat < 0x10000 then '\\' :: 'u' :: codePoint 4 c
    else '\\' :: 'U' :: codePoint 8 c
  else [c]

/-! ### Quotes -/

def quoteFor (s : String) : Char :=
  if s.toList.contains '\x27' && !s.toList.contains '"' then '"' else '\x27'

def quoted (s : String) : String :=
  String.ofList (quoteFor s :: s.toList.flatMap (escape (quoteFor s)) ++ [quoteFor s])

/-- Quoted texts, separated by commas, in square brackets. -/
def quotedList (texts : List String) : String := "[" ++ ", ".intercalate (texts.map quoted) ++ "]"

end Chip8.Text
