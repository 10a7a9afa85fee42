import Chip8.Host

/-! Sources of bytes: one that always gives the same, one that reads from a list, and one that draws each byte under
    a key of its own. The last one leaves keys to a library, of which `Threefry.library` is one. -/

namespace Chip8

/-! ### Constants -/

structure ConstantSource where
  value : Byte := 1
  deriving DecidableEq

namespace ConstantSource

def start (value : Int) : Except Fault ConstantSource :=
  if 0 ≤ value ∧ value ≤ 255 then .ok ⟨UInt8.ofInt value⟩
  else .error (.plain .numberSource s!"Value {value} does not fit in a byte")

instance : NumberSource ConstantSource where
  generate := do return ((← get).value.toNat : Int)

end ConstantSource

/-! ### Lists -/

/-- Gives the numbers of a list, which need not be bytes. -/
structure ListSource where
  values : List Int
  deriving DecidableEq

namespace ListSource

def exhausted : Fault := .plain .numberSource "script exhausted"

instance : NumberSource ListSource where
  generate := do
    match (← get).values with
    | [] => throw (.fault exhausted)
    | value :: values =>
      set (ListSource.mk values)
      return value

end ListSource

/-! ### Keys -/

/-- A library of random numbers, as far as a stream of keys uses it; `K` is the type of its keys. -/
structure KeyLibrary (K : Type) where
  /-- The first key for a seed. -/
  key : Value → Except HostError K
  /-- The key to go on with and the key to draw from. -/
  split : K → K × K
  draw : K → Byte

/-- Draws each byte under a key of its own, which it splits off from the one that it keeps. -/
structure DrawnSource {K : Type} (lib : KeyLibrary K) where
  key : K

namespace DrawnSource

variable {K : Type} {lib : KeyLibrary K}

def start (lib : KeyLibrary K) (seed : Value) : Except HostError (DrawnSource lib) := return ⟨← lib.key seed⟩

instance : NumberSource (DrawnSource lib) where
  generate := do
    let (kept, drawing) := lib.split (← get).key
    set (⟨kept⟩ : DrawnSource lib)
    return ((lib.draw drawing).toNat : Int)

end DrawnSource

/-! ### Threefry -/

namespace Threefry

/-- Two words of 32 bits: a key, or a block that is enciphered under one. -/
structure Pair where
  first : UInt32
  second : UInt32
  deriving DecidableEq

/-- The bits of a word moved up by `r` places; those that fall out come in at the bottom. -/
def rotate (w r : UInt32) : UInt32 := w <<< r ||| w >>> (32 - r)

def mix (b : Pair) (r : UInt32) : Pair :=
  let first := b.first + b.second
  ⟨first, rotate b.second r ^^^ first⟩

/-- The third word of a key, which follows from the other two. -/
def parity (key : Pair) : UInt32 := key.first ^^^ key.second ^^^ 0x1BD11BDA

def addWords (b : Pair) (first second : UInt32) : Pair := ⟨b.first + first, b.second + second⟩

/-- The rotations of the four mixings in the first, the third and the fifth round. -/
def firstRotations : List UInt32 := [13, 15, 26, 6]

/-- The rotations of the four mixings in the second and the fourth round. -/
def secondRotations : List UInt32 := [17, 29, 16, 24]

def round (rotations : List UInt32) (first second : UInt32) (b : Pair) : Pair :=
  addWords (rotations.foldl mix b) first second

/-- The block enciphered under the key, in five rounds of four mixings. -/
def encipher (key block : Pair) : Pair :=
  let a := key.first
  let b := key.second
  let c := parity key
  addWords block a b
    |> round firstRotations b (c + 1)
    |> round secondRotations c (a + 2)
    |> round firstRotations a (b + 3)
    |> round secondRotations b (c + 4)
    |> round firstRotations c (a + 5)

def ofSeed (seed : Int) : Pair := ⟨0, UInt32.ofInt seed⟩

/-- The key of a seed, which has to fit into 64 bits with a sign; the low 32 of them count. -/
def key (seed : Value) : Except HostError Pair :=
  match seed.number? with
  | some n => if -HostError.wide ≤ n ∧ n < HostError.wide then .ok (ofSeed n) else .error (.tooWide "long")
  | none => .error (.unusable .seed seed)

def split (key : Pair) : Pair × Pair := (encipher key ⟨0, 0⟩, encipher key ⟨0, 1⟩)

def byte (key : Pair) : Byte :=
  let block := encipher (split key).2 ⟨0, 0⟩
  (block.first ^^^ block.second).toUInt8

def library : KeyLibrary Pair := ⟨key, split, byte⟩

end Threefry

/-- The source whose keys are enciphered by Threefry. -/
abbrev KeyStream := DrawnSource Threefry.library

def KeyStream.start (seed : Int) : Except HostError KeyStream := DrawnSource.start Threefry.library (.number seed)

end Chip8
