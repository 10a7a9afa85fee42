import Chip8.Host

/-! A beeper that is not heard: it counts what it is told to do. -/

namespace Chip8

/-- How often the tone was started and stopped, and whether it is on. -/
structure SilentBeeper where
  playCount : Nat := 0
  stopCount : Nat := 0
  playing : Bool := false
  deriving DecidableEq

instance : Audio SilentBeeper where
  play := modify fun b => { b with playCount := b.playCount + 1, playing := true }
  stop := modify fun b => { b with stopCount := b.stopCount + 1, playing := false }

end Chip8
