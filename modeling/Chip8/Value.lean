import Chip8.Text.Quoted

/-! Values whose type is not known beforehand: those of settings, and those that a report of a fault is made
    of. A text that is shown stands as it is, but in quotes within a list or a table. A flag counts as the
    number 1 or 0, also as the key of a table. -/

namespace Chip8

inductive Value where
  | none
  | flag (b : Bool)
  | number (n : Int)
  | text (s : String)
  | list (values : List Value)
  /-- Keys and their values, in order. -/
  | table (entries : List (Value × Value))
  deriving Inhabited

/-- Keys and their values, in order. -/
abbrev Table := List (Value × Value)

namespace Value

/-! ### Equality -/

mutual

def same : Value → Value → Bool
  | .none, .none => true
  | .flag a, .flag b => a == b
  | .number m, .number n => m == n
  | .text s, .text t => s == t
  | .list vs, .list ws => sameAll vs ws
  | .table es, .table fs => sameEntries es fs
  | _, _ => false
termination_by structural v => v

def sameAll : List Value → List Value → Bool
  | [], [] => true
  | v :: vs, w :: ws => same v w && sameAll vs ws
  | _, _ => false
termination_by structural vs => vs

def sameEntries : Table → Table → Bool
  | [], [] => true
  | e :: es, f :: fs => sameEntry e f && sameEntries es fs
  | _, _ => false
termination_by structural es => es

def sameEntry : Value × Value → Value × Value → Bool
  | (k, v), (l, w) => same k l && same v w
termination_by structural e => e

end

mutual

theorem same_iff : ∀ v w : Value, same v w = true ↔ v = w
  | .none, w => by cases w <;> simp [same]
  | .flag a, w => by cases w <;> simp [same]
  | .number m, w => by cases w <;> simp [same]
  | .text s, w => by cases w <;> simp [same]
  | .list vs, w => by cases w <;> simp [same, sameAll_iff vs]
  | .table es, w => by cases w <;> simp [same, sameEntries_iff es]

theorem sameAll_iff : ∀ vs ws : List Value, sameAll vs ws = true ↔ vs = ws
  | [], ws => by cases ws <;> simp [sameAll]
  | v :: vs, ws => by cases ws <;> simp [sameAll, same_iff v, sameAll_iff vs]

theorem sameEntries_iff : ∀ es fs : Table, sameEntries es fs = true ↔ es = fs
  | [], fs => by cases fs <;> simp [sameEntries]
  | (k, v) :: es, fs => by
    cases fs with
    | nil => simp [sameEntries]
    | cons f fs => obtain ⟨l, w⟩ := f; simp [sameEntries, sameEntry, same_iff k, same_iff v, sameEntries_iff es]

end

instance : DecidableEq Value := fun v w => decidable_of_iff _ (same_iff v w)

/-! ### Text -/

mutual

/-- A value as it stands within another one. -/
def nested : Value → String
  | .none => "None"
  | .flag b => if b then "True" else "False"
  | .number n => toString n
  | .text s => Text.quoted s
  | .list values => "[" ++ ", ".intercalate (nestedAll values) ++ "]"
  | .table entries => "\x7b" ++ ", ".intercalate (nestedEntries entries) ++ "\x7d"
termination_by structural v => v

def nestedAll : List Value → List String
  | [] => []
  | v :: vs => nested v :: nestedAll vs
termination_by structural vs => vs

def nestedEntries : Table → List String
  | [] => []
  | e :: es => nestedEntry e :: nestedEntries es
termination_by structural es => es

def nestedEntry : Value × Value → String
  | (k, v) => nested k ++ ": " ++ nested v
termination_by structural e => e

end

def shown : Value → String
  | .text s => s
  | v => v.nested

/-- Values as they stand together: nothing for none of them, one alone as it is, several in brackets. -/
def shownTogether : List Value → String
  | [] => ""
  | [v] => v.shown
  | vs => "(" ++ ", ".intercalate (nestedAll vs) ++ ")"

def typeName : Value → String
  | .none => "NoneType"
  | .flag _ => "bool"
  | .number _ => "int"
  | .text _ => "str"
  | .list _ => "list"
  | .table _ => "dict"

/-! ### What a value counts as -/

/-- A value counts as true unless it is missing, false, zero or empty. -/
def holds : Value → Bool
  | .none => false
  | .flag b => b
  | .number n => n != 0
  | .text s => s != ""
  | .list values => !values.isEmpty
  | .table entries => !entries.isEmpty

/-- The number that a value counts as, if it is one or a flag. -/
def number? : Value → Option Int
  | .flag b => some (if b then 1 else 0)
  | .number n => some n
  | _ => Option.none

/-! ### Tables -/

def sameKey (a b : Value) : Bool :=
  match a.number?, b.number? with
  | some m, some n => m == n
  | Option.none, Option.none => a == b
  | _, _ => false

end Value

namespace Table

/-- Sets a key: an entry that has it keeps its place and its spelling of the key, else there is a new entry
    after the others. -/
def insert : Table → Value → Value → Table
  | [], k, v => [(k, v)]
  | (l, w) :: entries, k, v => if l.sameKey k then (l, v) :: entries else (l, w) :: insert entries k v

def ofEntries (entries : List (Value × Value)) : Table := entries.foldl (fun t (k, v) => insert t k v) []

def find? (t : Table) (key : String) : Option Value := t.lookup (.text key)

end Table

end Chip8
