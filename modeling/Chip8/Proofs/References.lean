import Chip8.Settings.Reference

/-! Settings that hold no reference are what they come to once all references are followed. -/

namespace Chip8

namespace Value

mutual

/-- No text within the value opens a reference. -/
def plain : Value → Bool
  | .text s => !Reference.occursIn s.toList
  | .list values => plainAll values
  | .table entries => plainEntries entries
  | _ => true
termination_by structural v => v

def plainAll : List Value → Bool
  | [] => true
  | v :: vs => plain v && plainAll vs
termination_by structural vs => vs

def plainEntries : Table → Bool
  | [] => true
  | e :: es => plainEntry e && plainEntries es
termination_by structural es => es

def plainEntry : Value × Value → Bool
  | (_, v) => plain v
termination_by structural e => e

end

variable {ε : Type} {f : Place → String → Except ε Value}

/-- Texts that open no reference are replaced by themselves. -/
def KeepsPlain (f : Place → String → Except ε Value) : Prop :=
  ∀ place s, Reference.occursIn s.toList = false → f place s = .ok (.text s)

mutual

theorem mapTexts_of_plain (hf : KeepsPlain f) : ∀ (place : Place) (v : Value), v.plain = true →
    v.mapTexts f place = .ok v
  | _, .none, _ => rfl
  | _, .flag _, _ => rfl
  | _, .number _, _ => rfl
  | place, .text s, h => hf place s (Bool.not_eq_true' _ ▸ h)
  | place, .list vs, h => by
    rw [mapTexts, mapMembers_of_plain hf place 0 vs h]
    rfl
  | place, .table es, h => by
    rw [mapTexts, mapEntries_of_plain hf place es h]
    rfl

theorem mapMembers_of_plain (hf : KeepsPlain f) : ∀ (place : Place) (i : Nat) (vs : List Value), plainAll vs = true →
    mapMembers f place i vs = .ok vs
  | _, _, [], _ => rfl
  | place, i, v :: vs, h => by
    obtain ⟨hv, hvs⟩ := Bool.and_eq_true_iff.mp h
    rw [mapMembers, mapTexts_of_plain hf _ v hv, mapMembers_of_plain hf place (i + 1) vs hvs]
    rfl

theorem mapEntries_of_plain (hf : KeepsPlain f) : ∀ (place : Place) (es : Table), plainEntries es = true →
    mapEntries f place es = .ok es
  | _, [], _ => rfl
  | place, (k, v) :: es, h => by
    obtain ⟨hv, hes⟩ := Bool.and_eq_true_iff.mp h
    rw [mapEntries, mapEntry, mapTexts_of_plain hf _ v hv, mapEntries_of_plain hf place es hes]
    rfl

end

end Value

namespace Settings

end Settings

end Chip8
