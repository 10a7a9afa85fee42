import Chip8.Host
import Chip8.Picture

/-! A screen that is not seen: it keeps the frames that it is to show. -/

namespace Chip8

/-- The frames that were drawn, as far as they are kept; `F` is the type of a frame. -/
structure FrameRecorder (F : Type) where
  scheme : ColourScheme := ColourScheme.classic
  /-- How many of the last frames are kept; with zero or less no list is kept at all. -/
  history : Int := 0
  drawCount : Nat := 0
  lastFrame : Option F := none
  kept : List F := []

namespace FrameRecorder

variable {F : Type}

/-- A recorder with no frame yet; the history has to fit into 64 bits with a sign. -/
def start (history : Int) (scheme : Value) : Except HostError (FrameRecorder F) := do
  if HostError.wide ≤ history then throw (.tooWide "ssize_t")
  let scheme ← ColourScheme.named scheme
  return { scheme, history }

def lastOf {α : Type} (n : Nat) (l : List α) : List α := l.drop (l.length - n)

def record (r : FrameRecorder F) (frame : F) : FrameRecorder F :=
  { r with
    drawCount := r.drawCount + 1
    lastFrame := some frame
    kept := lastOf r.history.toNat (r.kept ++ [frame]) }

/-- The kept frames, the oldest first, if any are to be kept. -/
def frames (r : FrameRecorder F) : Option (List F) := if 0 < r.history then some r.kept else none

/-- The last frame in colour, by way of its picture. -/
def coloured (r : FrameRecorder F) (picture : F → Except HostError Picture) (scale : Int) :
    Except HostError (List (List Colour)) :=
  match r.lastFrame with
  | none => .error .noFrame
  | some frame => do
    let p ← picture frame
    p.image scale r.scheme

instance : Graphics (FrameRecorder Frame) where
  draw frame := modify (·.record frame)

end FrameRecorder

end Chip8
