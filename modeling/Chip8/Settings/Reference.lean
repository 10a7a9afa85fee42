import Chip8.Settings

/-! References between settings. In a text, `$` and the name of another setting in braces stand for that
    setting: alone for its value, among other text for its value as text. A name may lead on to a part of a
    setting, by dots or by brackets; dots in front of it start from the setting itself and lead upwards.
    Backslashes before a reference stand for half as many of them, and an odd one keeps the reference from
    being one. -/

namespace Chip8

/-! ### Places -/

/-- A step into a value: to the value of a key, or to a member of a list. -/
inductive Step where
  | key (name : String)
  | index (i : Nat)
  deriving DecidableEq

/-- The place of a value within the settings. -/
abbrev Place := List Step

namespace Place

/-- A place in words: the keys with dots between them, and the numbers in brackets. -/
def text : Place → String
  | [] => ""
  | .key name :: rest => rest.foldl add name
  | .index i :: rest => rest.foldl add s!"[{i}]"
where
  add (before : String) : Step → String
    | .key name => before ++ "." ++ name
    | .index i => s!"{before}[{i}]"

def wholeName (p : Place) : String :=
  match p.getLast? with
  | some (.index _) => "list"
  | _ => "dict"

end Place

namespace Value

def part? (v : Value) (name : String) : Option (Step × Value) :=
  match v with
  | .table entries => (Table.find? entries name).map fun part => (.key name, part)
  | .list values => do
    let i ← Text.natural? name.toList
    return (.index i, ← values[i]?)
  | _ => Option.none

def hasParts : Value → Bool
  | .list _ | .table _ => true
  | _ => false

section mapTexts

variable {ε : Type} (f : Place → String → Except ε Value)

mutual

/-- A value with each text within it replaced; the replacement may depend on where the text is. -/
def mapTexts (place : Place) : Value → Except ε Value
  | .text s => f place s
  | .list values => do return .list (← mapMembers place 0 values)
  | .table entries => do return .table (← mapEntries place entries)
  | v => .ok v
termination_by structural v => v

def mapMembers (place : Place) (i : Nat) : List Value → Except ε (List Value)
  | [] => .ok []
  | v :: vs => do
    let v ← mapTexts (place ++ [.index i]) v
    return v :: (← mapMembers place (i + 1) vs)
termination_by structural vs => vs

def mapEntries (place : Place) : Table → Except ε Table
  | [] => .ok []
  | e :: es => do
    let e ← mapEntry place e
    return e :: (← mapEntries place es)
termination_by structural es => es

def mapEntry (place : Place) : Value × Value → Except ε (Value × Value)
  | (k, v) => do return (k, ← mapTexts (place ++ [.key k.shown]) v)
termination_by structural e => e

end

end mapTexts

end Value

/-! ### References -/

/-- A name in a reference, which may itself be a reference. -/
structure Reference.Name where
  text : String
  bracketed : Bool
  deriving DecidableEq

/-- A reference as it is written. -/
inductive Reference where
  /-- To a setting, by the number of dots in front and the names. -/
  | setting (dots : Nat) (names : List Reference.Name)
  | function (name : String)
  deriving DecidableEq

namespace Reference

/-- A text that holds no opening of a reference is not looked into. -/
def occursIn : List Char → Bool
  | '$' :: '\x7b' :: _ => true
  | _ :: rest => occursIn rest
  | [] => false

def isBlank (c : Char) : Bool := c = ' ' || c = '\t'

def inName (c : Char) : Bool := !"\\\x7b\x7d()[]:. \t'\"".toList.contains c

/-- Names one behind the other: a dot goes before each that has no brackets. -/
def joined : List Name → List Char
  | [] => []
  | ⟨text, true⟩ :: names => '[' :: text.toList ++ ']' :: joined names
  | ⟨text, false⟩ :: names => '.' :: text.toList ++ joined names

/-- The names as a reference spells them, where no dot leads to the first one. -/
def spelled (dots : Nat) (names : List Name) : String :=
  String.ofList (List.replicate dots '.' ++
    match joined names with
    | '.' :: rest => rest
    | cs => cs)

mutual

/-- Reads a reference behind its opening; gives what is left of the text. The first argument bounds the
    nesting of references and the number of names. -/
def read : Nat → List Char → Option (Reference × List Char)
  | 0, _ => none
  | fuel + 1, cs =>
    let cs := cs.dropWhile isBlank
    let dots := cs.takeWhile fun c => c = '.' || isBlank c
    readNames fuel (dots.count '.') [] (cs.drop dots.length)

def readName : Nat → List Char → Option (String × List Char)
  | 0, _ => none
  | fuel + 1, '$' :: '\x7b' :: cs => do
    let (_, rest) ← read fuel cs
    return (String.ofList ('$' :: '\x7b' :: cs.take (cs.length - rest.length)), rest)
  | _ + 1, cs =>
    match cs.takeWhile inName with
    | [] => none
    | name => some (String.ofList name, cs.drop name.length)

/-- Reads names up to the end of the reference, behind the names that were read before. -/
def readNames : Nat → Nat → List Name → List Char → Option (Reference × List Char)
  | 0, _, _, _ => none
  | fuel + 1, dots, before, cs => do
    let (name, rest) ← match cs with
      | '[' :: inner => do
        let (name, rest) ← readName fuel (inner.dropWhile isBlank)
        match rest.dropWhile isBlank with
        | ']' :: rest => some (Name.mk name true, rest)
        | _ => none
      | cs => (readName fuel cs).map fun (name, rest) => (⟨name, false⟩, rest)
    let names := before ++ [name]
    match rest.dropWhile isBlank with
    | '\x7d' :: rest => return (.setting dots names, rest)
    | ':' :: rest => return (.function (spelled dots names), rest)
    | '.' :: rest => readNames fuel dots names (rest.dropWhile isBlank)
    | '[' :: rest => readNames fuel dots names ('[' :: rest)
    | _ => none

end

end Reference

/-! ### Texts with references -/

inductive Piece where
  | text (s : String)
  | reference (r : Reference)
  deriving DecidableEq

namespace Piece

/-- Text that was read backwards, if there is any, in front of other pieces. -/
def cons (read : List Char) (pieces : List Piece) : List Piece :=
  if read.isEmpty then pieces else .text (String.ofList read.reverse) :: pieces

/-- The pieces of a text, behind characters that were read before; nothing if a reference is not well
    formed. The first argument bounds the number of steps. -/
def ofChars : Nat → List Char → List Char → Option (List Piece)
  | 0, _, _ => none
  | _ + 1, read, [] => some (cons read [])
  | fuel + 1, read, c :: cs =>
    let slashes := ((c :: cs).takeWhile (· = '\\')).length
    match (c :: cs).drop slashes with
    | '$' :: '\x7b' :: rest =>
      let read := List.replicate (slashes / 2) '\\' ++ read
      if slashes % 2 = 1 then ofChars fuel ('\x7b' :: '$' :: read) rest
      else do
        let (r, rest) ← Reference.read (3 * rest.length + 3) rest
        return cons read (.reference r :: (← ofChars fuel [] rest))
    | rest =>
      if slashes = 0 then ofChars fuel (c :: read) cs
      else ofChars fuel (List.replicate slashes '\\' ++ read) rest

def ofText (s : String) : Option (List Piece) := ofChars (s.length + 1) [] s.toList

end Piece

/-! ### Values of references -/

namespace Settings

def toValue (s : Settings) : Value := .table s.entries

section Follow

/- `look` gives the value of a text with references, which is at the given place. -/
variable (look : Place → String → Except ReferenceError Value)

/-- Goes on from a value at a place by names; `path` is how the reference spells all of them. -/
def descend (path : String) : Place → Value → List String → Except ReferenceError Value
  | _, v, [] => .ok v
  | place, v, name :: rest =>
    match v.part? name with
    | none => .error (if v.hasParts then .notFound path else .noParts path place.text name)
    | some (step, part) => do
      if part = .text unset then throw (if rest.isEmpty then .unset path else .notFound path)
      let value ← if part.hasParts && !rest.isEmpty then pure part else part.mapTexts look (place ++ [step])
      descend path (place ++ [step]) value rest

def valueAt : Value → Place → Option Value
  | v, [] => some v
  | .table entries, .key name :: rest => do valueAt (← Table.find? entries name) rest
  | .list values, .index i :: rest => do valueAt (← values[i]?) rest
  | _, _ => none

/-- The value that a reference in a text at `place` stands for, in settings of the value `whole`. -/
def follow (whole : Value) (place : Place) : Reference → Except ReferenceError Value
  | .function name => .error (.noFunction name)
  | .setting dots names => do
    let names ← names.mapM fun name => do
      if Reference.occursIn name.text.toList then return { name with text := (← look place name.text).shown }
      else return name
    if place.length < dots then throw (.outside (Reference.spelled dots names))
    let start := if dots = 0 then [] else place.take (place.length - dots)
    descend look (Reference.spelled 0 names) start ((valueAt whole start).getD .none) (names.map (·.text))

/-- The value of the pieces of a text: of a reference alone its own, else a text. -/
def join (whole : Value) (place : Place) : List Piece → Except ReferenceError Value
  | [.reference r] => follow look whole place r
  | pieces => do
    let texts ← pieces.mapM fun piece =>
      match piece with
      | .text s => return s
      | .reference r => return (← follow look whole place r).shown
    return .text (String.join texts)

end Follow

/-- The value of a text at a place, with its references followed. More than `fuel` references one behind
    the other are taken for a circle. -/
def valueOfText (whole : Value) : Nat → Place → String → Except ReferenceError Value
  | 0, _, _ => .error .circular
  | fuel + 1, place, s =>
    if Reference.occursIn s.toList then
      match Piece.ofText s with
      | some pieces => join (valueOfText whole fuel) whole place pieces
      | none => .error (.malformed s)
    else .ok (.text s)

/-- The settings with every value replaced, in their order; the replacement may depend on the name. -/
def mapValues {ε : Type} (f : String → Value → Except ε Value) (s : Settings) : Except ε Settings := do
  let rom ← f "rom" s.rom
  let cycles ← f "cycles" s.cycles
  let seed ← f "seed" s.seed
  let logLevel ← f "log_level" s.logLevel
  let progress ← f "progress" s.progress
  let showFrame ← f "show_frame" s.showFrame
  let colourScheme ← f "color_scheme" s.colourScheme
  let keys ← f "keys" s.keys
  return { rom, cycles, seed, logLevel, progress, showFrame, colourScheme, keys }

/-- The settings with all references followed. There cannot be more of them than characters. -/
def resolved (s : Settings) : Except HostError Settings :=
  let whole := s.toValue
  let value (place : Place) (t : String) : Except HostError Value :=
    (valueOfText whole whole.nested.length place t).mapError fun e => .reference e place.text place.wholeName
  s.mapValues fun name v => v.mapTexts value [.key name]

end Settings

end Chip8
