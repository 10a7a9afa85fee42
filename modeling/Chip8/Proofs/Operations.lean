import Chip8.Device.FrameRecorder
import Chip8.Device.KeyScript
import Chip8.Device.NumberSources
import Chip8.Device.SilentBeeper
import Chip8.Proofs.Parts

/-! The operations on two registers, in whole numbers. `Yields` gives the result and the flag of an operation by what
    they are together with its carry, its borrow or the bit that falls out; a word does its operation on the registers
    as they were before, the flag register among them, and writes the flag before the result. -/

namespace Chip8

/-! ### Results and flags -/

/-- The result and the flag that the operation has on `x` and `y`, where the flag was `f`. -/
def Arithmetic.Yields (op : Arithmetic) (x y f result flag : Nat) : Prop :=
  result < 256 ∧
    match op with
    | .copy => result = y ∧ flag = f
    | .or => result = x ||| y ∧ flag = f
    | .and => result = x &&& y ∧ flag = f
    | .xor => result = x ^^^ y ∧ flag = f
    | .add => ∃ carry ≤ 1, result + 256 * carry = x + y ∧ flag = if carry = 1 then 1 else f
    | .sub => ∃ borrow ≤ 1, (borrow = 1 ↔ x < y) ∧ result + y = x + 256 * borrow ∧ flag = if borrow = 1 then 1 else f
    | .shiftRight => x = 2 * result + flag ∧ flag ≤ 1
    | .subFrom => result + x = y + 256 * flag ∧ flag ≤ 1 ∧ (flag = 1 ↔ y < x)
    | .shiftLeft => 2 * x = 256 * flag + result

namespace Arithmetic

theorem toNat_sub (x y : Byte) : (x - y).toNat + y.toNat = x.toNat + 256 * if x < y then 1 else 0 := by
  have hx := x.toNat_lt
  have hy := y.toNat_lt
  have hsub : (x - y).toNat = (256 - y.toNat + x.toNat) % 256 := UInt8.toNat_sub x y
  by_cases hlt : x < y
  · have hlt' : x.toNat < y.toNat := UInt8.lt_iff_toNat_lt.mp hlt
    rw [if_pos hlt]
    omega
  · have hle : y.toNat ≤ x.toNat := Nat.le_of_not_lt fun h => hlt (UInt8.lt_iff_toNat_lt.mpr h)
    rw [if_neg hlt]
    omega

theorem toNat_halves (x : Byte) : x.toNat = 2 * (x >>> 1).toNat + (x &&& 1).toNat := by
  have hhalf : (x >>> 1).toNat = x.toNat / 2 := UInt8.toNat_shiftRight x 1
  have hbit : (x &&& 1).toNat = x.toNat % 2 := (UInt8.toNat_and x 1).trans (Nat.and_one_is_mod _)
  omega

theorem toNat_double (x : Byte) : 2 * x.toNat = 256 * (x >>> 7).toNat + (x <<< 1).toNat := by
  have hbit : (x >>> 7).toNat = x.toNat / 2 ^ 7 := (UInt8.toNat_shiftRight x 7).trans (Nat.shiftRight_eq_div_pow _ _)
  have hdouble : (x <<< 1).toNat = x.toNat * 2 % 256 :=
    (UInt8.toNat_shiftLeft x 1).trans (congrArg (· % 256) (Nat.shiftLeft_eq _ 1))
  omega

theorem compute_yields (op : Arithmetic) (x y f : Byte) :
    op.Yields x.toNat y.toNat f.toNat (op.compute x y f).1.toNat (op.compute x y f).2.toNat := by
  refine ⟨UInt8.toNat_lt _, ?_⟩
  cases op with
  | copy => exact ⟨rfl, rfl⟩
  | or => exact ⟨UInt8.toNat_or x y, rfl⟩
  | and => exact ⟨UInt8.toNat_and x y, rfl⟩
  | xor => exact ⟨UInt8.toNat_xor x y, rfl⟩
  | add =>
    have hx := x.toNat_lt
    have hy := y.toNat_lt
    have hadd : (x + y).toNat = (x.toNat + y.toNat) % 256 := UInt8.toNat_add x y
    dsimp only [compute]
    by_cases hcarry : x.toNat + y.toNat < 256
    · rw [if_pos hcarry]
      exact ⟨0, by omega, by omega, rfl⟩
    · rw [if_neg hcarry]
      exact ⟨1, by omega, by omega, rfl⟩
  | sub =>
    have hlt : x < y ↔ x.toNat < y.toNat := UInt8.lt_iff_toNat_lt
    have hsub := toNat_sub x y
    dsimp only [compute]
    by_cases hborrow : x < y
    · rw [if_pos hborrow] at hsub ⊢
      exact ⟨1, Nat.le_refl 1, by simp [← hlt, hborrow], hsub, rfl⟩
    · rw [if_neg hborrow] at hsub ⊢
      exact ⟨0, Nat.zero_le 1, by simp [← hlt, hborrow], hsub, rfl⟩
  | shiftRight =>
    have hbit : (x &&& 1).toNat ≤ 1 := by
      rw [UInt8.toNat_and]
      exact Nat.and_le_right
    exact ⟨toNat_halves x, hbit⟩
  | subFrom =>
    have hlt : y < x ↔ y.toNat < x.toNat := UInt8.lt_iff_toNat_lt
    have hsub := toNat_sub y x
    dsimp only [compute]
    by_cases hborrow : y < x
    · rw [if_pos hborrow] at hsub ⊢
      exact ⟨hsub, Nat.le_refl 1, by simp [← hlt, hborrow]⟩
    · rw [if_neg hborrow] at hsub ⊢
      exact ⟨hsub, Nat.zero_le 1, by simp [← hlt, hborrow]⟩
  | shiftLeft => exact toNat_double x

end Arithmetic

/-! ### Registers -/

/-- The machine `m'` is `m` with the flag written to the flag register and then the result to `x`. -/
structure Machine.Takes (m m' : Machine) (x : Register) (result flag : Byte) : Prop where
  result : m'.v.get x = result
  flag : x ≠ Register.flag → m'.v.get Register.flag = flag
  registers : ∀ r, r ≠ x → r ≠ Register.flag → m'.v.get r = m.v.get r
  others : m' = { m with v := m'.v }

namespace Machine
variable {H : Type} [Host H]

theorem compute_takes (m : Machine) (op : Arithmetic) (x y : Register) : m.Takes (m.compute op x y) x
    (op.compute (m.v.get x) (m.v.get y) (m.v.get Register.flag)).1
    (op.compute (m.v.get x) (m.v.get y) (m.v.get Register.flag)).2 where
  result := setRegister_self _ _ _
  flag hx := (setRegister_of_ne hx.symm).trans (setRegister_self _ _ _)
  registers _ hx hflag := (setRegister_of_ne hx).trans (setRegister_of_ne hflag)
  others := rfl

/-- The word has done the operation, with the operands as they were before anything was written. -/
def Operates (m m' : Machine) (w : Word) (op : Arithmetic) : Prop :=
  ∃ result flag, m.Takes m' w.x result flag ∧ op.Yields (m.v.get w.x).toNat (m.v.get w.y).toNat
    (m.v.get Register.flag).toNat result.toNat flag.toNat

theorem execute_operates (m : Machine) {w : Word} {op : Arithmetic} (hw : (Form.operation op).Fits w) (h : H) :
    ∃ m', (m.execute w).run h = (.ok m', h) ∧ m.Operates m' w op :=
  ⟨_, execute_of_reads (.arithmetic hw) rfl h, _, _, m.compute_takes op w.x w.y, op.compute_yields _ _ _⟩

/-- A subtraction undoes the addition before it, and borrows exactly if that one carried. -/
theorem Operates.sub_undoes_add {m m₁ m₂ : Machine} {w w' : Word} (hx : w'.x = w.x) (hy : w'.y = w.y)
    (hxflag : w.x ≠ Register.flag) (hyflag : w.y ≠ Register.flag) (hadd : m.Operates m₁ w .add)
    (hsub : m₁.Operates m₂ w' .sub) :
    (w.x ≠ w.y → m₂.v.get w.x = m.v.get w.x) ∧ m₂.v.get Register.flag = m₁.v.get Register.flag := by
  obtain ⟨sum, flag, hsum, -, carry, hcarry, hadd, hflag⟩ := hadd
  obtain ⟨result, flag', hresult, -, borrow, hborrow, hless, hsub, hflag'⟩ := hsub
  rw [hx] at hresult hless hsub
  rw [hy] at hless hsub
  rw [hsum.result] at hless hsub
  have hlt := result.toNat_lt
  have hlt' := (m.v.get w.x).toNat_lt
  by_cases hsame : w.y = w.x
  · -- Of equal numbers nothing is borrowed, whatever the sum was.
    rw [hsame, hsum.result] at hless hsub
    have hnone : borrow ≠ 1 := fun h => Nat.lt_irrefl _ (hless.mp h)
    rw [if_neg hnone] at hflag'
    exact ⟨fun hne => absurd hsame.symm hne, (hresult.flag hxflag).trans (UInt8.toNat_inj.mp hflag')⟩
  · rw [hsum.registers _ hsame hyflag] at hless hsub
    have hsame : carry = borrow := by omega
    refine ⟨fun _ => hresult.result.trans (UInt8.toNat_inj.mp (by omega)), ?_⟩
    rw [hsum.flag hxflag, hflag, hsame] at hflag'
    rw [hresult.flag hxflag, hsum.flag hxflag]
    refine UInt8.toNat_inj.mp (hflag'.trans ?_)
    rw [hflag, hsame]
    split <;> rfl

/-- A word of an operation does it without asking the host for anything, on whichever registers: the result and the flag
    are those of the registers before, and the result is written last, so that it stays if the two go to one register.
    A subtraction that follows an addition of the same registers restores the one and keeps the flag. -/
theorem operations_yield (m : Machine) (h : H) :
    (∀ w op, (Form.operation op).Fits w → ∃ m', (m.execute w).run h = (.ok m', h) ∧ m.Operates m' w op) ∧
    ∀ w w', (Form.operation .add).Fits w → (Form.operation .sub).Fits w' → w'.x = w.x → w'.y = w.y →
      w.x ≠ Register.flag → w.y ≠ Register.flag →
        ∃ m₁ m₂, (m.execute w).run h = (.ok m₁, h) ∧ (m₁.execute w').run h = (.ok m₂, h) ∧
          (w.x ≠ w.y → m₂.v.get w.x = m.v.get w.x) ∧ m₂.v.get Register.flag = m₁.v.get Register.flag := by
  refine ⟨fun w op hw => m.execute_operates hw h, fun w w' hw hw' hx hy hxflag hyflag => ?_⟩
  obtain ⟨m₁, hrun₁, hadd⟩ := m.execute_operates hw h
  obtain ⟨m₂, hrun₂, hsub⟩ := m₁.execute_operates hw' h
  exact ⟨m₁, m₂, hrun₁, hrun₂, hadd.sub_undoes_add hx hy hxflag hyflag hsub⟩

/-- A machine with `C8` in `V1`, `64` in `V2` and 7 in the flag register. -/
def summing : Machine := ((initial.setRegister 1 0xC8).setRegister 2 0x64).setRegister Register.flag 7

/-- The sum of `V1` and `V2` carries, and the subtraction after it borrows. The sum of the flag register and `V1` stays
    in the flag register, in place of the flag. -/
theorem operations_yield_summing :
    let h : Devices (FrameRecorder Frame) SilentBeeper KeyScript ListSource :=
      { graphics := {}, audio := {}, keyboard := {}, numbers := ⟨[]⟩ }
    ((Form.operation .add).Fits 0x8124 ∧ (Form.operation .sub).Fits 0x8125 ∧
      ∃ m₁ m₂, (summing.execute 0x8124).run h = (.ok m₁, h) ∧ (m₁.execute 0x8125).run h = (.ok m₂, h) ∧
        m₂.v.get 1 = 0xC8 ∧ m₂.v.get Register.flag = m₁.v.get Register.flag) ∧
    ((Form.operation .add).Fits 0x8F14 ∧
      ∃ m', (summing.execute 0x8F14).run h = (.ok m', h) ∧ (m'.v.get Register.flag).toNat = 0xC8 + 7) := by
  intro h
  obtain ⟨hyields, hundone⟩ := summing.operations_yield h
  have hadd : (Form.operation .add).Fits 0x8124 := by decide
  have hsub : (Form.operation .sub).Fits 0x8125 := by decide
  have hflag : (Form.operation .add).Fits 0x8F14 := by decide
  obtain ⟨m₁, m₂, hrun₁, hrun₂, hx, hkept⟩ := hundone _ _ hadd hsub rfl rfl (by decide) (by decide)
  obtain ⟨m', hrun, result, flag, htakes, hlt, carry, hcarry, hsum, -⟩ := hyields _ _ hflag
  refine ⟨⟨hadd, hsub, m₁, m₂, hrun₁, hrun₂, hx (by decide), hkept⟩, hflag, m', hrun, ?_⟩
  have hx : m'.v.get Register.flag = result := htakes.result
  have hsum : result.toNat + 256 * carry = 7 + 0xC8 := hsum
  rw [hx]
  omega

end Machine

end Chip8
