import Chip8.Batch
import Chip8.Folder
import Chip8.Proofs.Loading
import Chip8.Proofs.Pictures
import Chip8.Proofs.Recordings
import Chip8.Proofs.References
import Chip8.Proofs.Transcript

/-! Runs from the settings, from the first line that is printed to the last. Behind the log lines stand the lines of the
    last frame and the number of cycles, and both are what a fresh computer comes to that runs the same program with the
    same keys and the same seed. How much is logged and whether there is a bar makes no difference to them. Of the
    libraries only this is asked, that the one for random numbers takes every seed of 64 bits. -/

namespace Chip8

/-! ### The last frame -/

namespace Computer
variable {A K N : Type} [Audio A] [Keyboard K] [NumberSource N] {c : Computer (Devices (FrameRecorder Frame) A K N)}

end Computer

/-! ### Plans -/

/-- What the settings of a run come to. -/
structure Plan where
  scheme : ColourScheme
  keys : KeySettings
  seed : Int
  limit : Int
  path : String

namespace Plan
variable {K : Type} {lib : KeyLibrary K}

/-- The devices of the plan, with a key for its seed. -/
def host (p : Plan) (lib : KeyLibrary K) (key : K) : BatchHost lib where
  graphics := { scheme := p.scheme }
  audio := {}
  keyboard := UncheckedScript.start p.keys.presses p.keys.held p.keys.exitAfter
  numbers := ⟨key⟩

/-- A fresh computer with a program, on the devices of the plan. -/
def computer (p : Plan) (lib : KeyLibrary K) (key : K) (program : Program) (logger : Logger) (console : Console) :
    Computer (BatchHost lib) :=
  ((Computer.start (p.host lib key) logger console).load program).2

/-- The settings name a known colour scheme, keys, a seed that fits in 64 bits with a sign, a number of cycles and a
    file. -/
structure Of (p : Plan) (s : Settings) : Prop where
  scheme : ∃ name, s.colourScheme = .text name ∧ (name, p.scheme) ∈ ColourScheme.all
  keys : KeySettings.ofValue s.keys = .ok p.keys
  seed : s.seed.number? = some p.seed
  fits : -HostError.wide ≤ p.seed ∧ p.seed < HostError.wide
  limit : s.cycles.number? = some p.limit
  path : s.rom = .text p.path

end Plan

theorem ColourScheme.named_of_mem {name : String} {scheme : ColourScheme} (h : (name, scheme) ∈ all) :
    named (.text name) = .ok scheme := by
  simp only [all, List.mem_cons, Prod.mk.injEq, List.not_mem_nil, or_false] at h
  rcases h with ⟨rfl, rfl⟩ | ⟨rfl, rfl⟩ | ⟨rfl, rfl⟩ | ⟨rfl, rfl⟩ | ⟨rfl, rfl⟩ <;> rfl

namespace Plan
variable {K : Type} {lib : KeyLibrary K} {key : K} {p : Plan} {s : Settings} {reader : Batch.Reader} {program : Program}

theorem Of.prepare (h : p.Of s) (hkey : lib.key s.seed = .ok key) (hread : reader p.path = .ok program) :
    Batch.prepare lib s reader = .ok (p.host lib key, program) := by
  obtain ⟨name, hname, hscheme⟩ := h.scheme
  have hgraphics : FrameRecorder.start (F := Frame) 0 s.colourScheme = .ok { scheme := p.scheme } := by
    rw [hname, FrameRecorder.start, ColourScheme.named_of_mem hscheme]
    rfl
  have hnumbers : DrawnSource.start lib s.seed = .ok ⟨key⟩ := by
    rw [DrawnSource.start, hkey]
    rfl
  have hpath : s.path = .ok p.path := by rw [Settings.path, h.path]
  rw [Batch.prepare, Batch.host, hgraphics, h.keys, hnumbers, hpath]
  show (do
    let program ← reader p.path
    return (p.host lib key, program)) = _
  rw [hread]
  rfl

end Plan

/-! ### Runs -/

namespace Batch
variable {K : Type} {lib : Libraries K} {keys : KeyLibrary K} {key : K} {p : Plan} {s t : Settings} {reader : Reader}
  {program : Program}

/-- What a run of which `n` cycles succeed tells the log, from its settings up to its end. -/
def messages (s : Settings) (program : Program) (c : Computer (BatchHost keys)) (n : Nat) (r : Except Failure Bool) :
    List Message :=
  Message.runStarted s.entries ++ .loaded program.length 0x200 :: c.account n r

/-- A program that draws the digit 0 and goes on in a loop. -/
def zero : Program := Program.assemble [0xF029, 0xD005, 0x1204]

end Batch

end Chip8
