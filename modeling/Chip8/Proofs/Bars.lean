import Chip8.Proofs.BoundedRuns
import Mathlib.Algebra.Order.BigOperators.Group.List
import Mathlib.Algebra.Order.Ring.Int

/-! What the bar of a run is told. The meter of a run tells it of every cycle of which the number is a multiple of the
    rate, and at the end of those that are left. So whichever way a run ends, each of its cycles that succeeded is told
    of once, and no other one. -/

namespace Chip8

/-! ### Steps -/

namespace Bar
variable {E : Type}

/-- The step after `j` others leads from before the cycle `i` to it or beyond. -/
def Tells (steps : List Int) (j : Nat) (i : Int) : Prop :=
  j < steps.length ∧ (steps.take j).sum < i ∧ i ≤ (steps.take (j + 1)).sum

theorem tells_zero_iff {step i : Int} {steps : List Int} : Tells (step :: steps) 0 i ↔ 0 < i ∧ i ≤ step := by
  simp [Tells]

theorem tells_succ_iff {step i : Int} {steps : List Int} {j : Nat} :
    Tells (step :: steps) (j + 1) i ↔ Tells steps j (i - step) := by
  simp only [Tells, List.length_cons, List.take_succ_cons, List.sum_cons]
  constructor <;> rintro ⟨hj, hbefore, hafter⟩ <;> refine ⟨by omega, by omega, by omega⟩

theorem not_tells_of_nonpos {steps : List Int} (hsteps : ∀ step ∈ steps, 0 ≤ step) {i : Int} (hi : i ≤ 0) (j : Nat) :
    ¬ Tells steps j i := by
  rintro ⟨-, hbefore, -⟩
  have hsum := List.sum_nonneg fun step hstep => hsteps step (List.mem_of_mem_take (i := j) hstep)
  omega

/-- Steps of which none leads back tell once of each cycle up to the one that they lead to. -/
theorem existsUnique_tells {steps : List Int} (hsteps : ∀ step ∈ steps, 0 ≤ step) {i : Int} (hpos : 0 < i)
    (hi : i ≤ steps.sum) : ∃! j, Tells steps j i := by
  induction steps generalizing i with
  | nil =>
    rw [List.sum_nil] at hi
    omega
  | cons step steps ih =>
    have hrest : ∀ step ∈ steps, 0 ≤ step := fun s hs => hsteps s (List.mem_cons_of_mem _ hs)
    rw [List.sum_cons] at hi
    by_cases hstep : i ≤ step
    · refine ⟨0, tells_zero_iff.mpr ⟨hpos, hstep⟩, fun j hj => ?_⟩
      cases j with
      | zero => rfl
      | succ j => exact absurd (tells_succ_iff.mp hj) (not_tells_of_nonpos hrest (by omega) j)
    · obtain ⟨j, hj, huniq⟩ := ih hrest (i := i - step) (by omega) (by omega)
      refine ⟨j + 1, tells_succ_iff.mpr hj, fun k hk => ?_⟩
      cases k with
      | zero => exact absurd (tells_zero_iff.mp hk).2 hstep
      | succ k => rw [huniq k (tells_succ_iff.mp hk)]

end Bar

/-! ### Meters -/

namespace Meter
variable {E : Type} {m m' : Meter E} {rate n : Nat}

/-- What has become of the meter `m`, whose rate is `rate`, after the cycles from 1 to `n`. -/
structure Reported (m : Meter E) (rate n : Nat) (m' : Meter E) : Prop where
  paced : m'.rate = rate
  total : m'.bar.total = m.bar.total
  closed : m'.bar.closed = m.bar.closed
  reported : m'.reported = (rate * (n / rate) : Nat)
  advances : m'.bar.advances.toList = m.bar.advances.toList ++ List.replicate (n / rate) (rate : Int)

theorem Reported.update (h : m.Reported rate n m') : m.Reported rate (n + 1) (m'.update (n + 1)) := by
  have hquotient : (n + 1) / rate = n / rate + if rate ∣ n + 1 then 1 else 0 := Nat.succ_div
  have hdue : (0 < (n + 1 : Int) ∧ (n + 1 : Int) % m'.rate = 0) ↔ rate ∣ n + 1 := by
    rw [h.paced, ← Int.natCast_succ, ← Int.dvd_iff_emod_eq_zero, Int.natCast_dvd_natCast]
    exact and_iff_right (by omega)
  unfold Meter.update
  -- The bar hears of a cycle exactly if the quotient by the rate goes up with it.
  by_cases hd : rate ∣ n + 1
  · rw [if_pos hd] at hquotient
    rw [if_pos (hdue.mpr hd)]
    have hreached : rate * (n / rate) + rate = n + 1 := by
      rw [← Nat.mul_add_one, ← hquotient, Nat.mul_div_cancel' hd]
    have hstep : (n + 1 : Int) - m'.reported = rate := by
      rw [h.reported]
      omega
    refine ⟨h.paced, h.total, h.closed, ?_, ?_⟩
    · rw [hquotient, Nat.mul_add_one, hreached]
      rfl
    · rw [hquotient, List.replicate_succ', ← List.append_assoc, ← h.advances, ← hstep]
      exact Array.toList_push
  · simp only [if_neg hd, Nat.add_zero] at hquotient
    rw [if_neg (mt hdue.mp hd)]
    exact ⟨h.paced, h.total, h.closed, by rw [hquotient, h.reported], by rw [hquotient, h.advances]⟩

theorem reported_through (hrate : m.rate = rate) (hreported : m.reported = 0) (n : Nat) :
    m.Reported rate n (m.through n) := by
  induction n with
  | zero => exact ⟨hrate, rfl, rfl, by simp [through, hreported], by simp [through]⟩
  | succ n ih => exact ih.update

end Meter

/-! ### Runs -/

namespace Computer
variable {H : Type} [Host H]

/-- The bar is set up once, with the limit of the run for its total. Whichever way the run ends, the bar is told of the
    cycles that succeeded, as many at a time as the rate and at last of those that are left, and then closed. So it is
    told of each of them by one step, and of no other cycle. -/
theorem bar_told_of_every_cycle (c : Computer H) (limit : Int) (description : Option String) :
    (∃ n r, c.Ends limit n r) ∧ ∀ n r, c.Ends limit n r → ∃ bar rate, (c.run limit true description).2.2 = some bar ∧
      rate = max 1 (min (limit / 20) 50) ∧ bar.total = .number limit ∧ bar.closed = 1 ∧
        bar.advances.toList = List.replicate (n / rate).toNat rate ++ [n - rate * (n / rate)] ∧
          bar.advances.toList.sum = n ∧ (∀ step ∈ bar.advances.toList, 0 ≤ step) ∧
            ∀ i : Int, 0 < i → i ≤ n → ∃! j, Bar.Tells bar.advances.toList j i := by
  refine ⟨c.exists_ends limit, fun n r he => ?_⟩
  obtain ⟨rate, hrate⟩ : ∃ rate : Nat, max 1 (min (limit / 20) 50) = (rate : Int) :=
    ⟨(max 1 (min (limit / 20) 50)).toNat, by omega⟩
  have hreported := Meter.reported_through (m := (Meter.start limit none description [] : Meter Empty)) hrate rfl n
  have hadvances : (((Meter.start limit none description [] : Meter Empty).through n).close n).bar.advances.toList =
      List.replicate (n / rate) (rate : Int) ++ [(n : Int) - (rate * (n / rate) : Nat)] := by
    refine Array.toList_push.trans ?_
    rw [hreported.advances, hreported.reported]
    simp [Meter.start, Bar.ofTotal]
  have hle : rate * (n / rate) ≤ n := Nat.mul_div_le n rate
  have hnonneg : ∀ step ∈ List.replicate (n / rate) (rate : Int) ++ [(n : Int) - (rate * (n / rate) : Nat)], 0 ≤ step := by
    intro step hstep
    rcases List.mem_append.mp hstep with hstep | hstep
    · rw [List.eq_of_mem_replicate hstep]
      omega
    · rw [List.mem_singleton.mp hstep]
      omega
  have hsum : (List.replicate (n / rate) (rate : Int) ++ [(n : Int) - (rate * (n / rate) : Nat)]).sum = n := by
    rw [List.sum_append, List.sum_replicate, List.sum_singleton, nsmul_eq_mul, mul_comm]
    omega
  rw [run_of_ends he, hrate]
  refine ⟨_, _, rfl, rfl, hreported.total, congrArg (· + 1) hreported.closed, ?_⟩
  rw [hadvances]
  exact ⟨rfl, hsum, hnonneg, fun i hpos hi => Bar.existsUnique_tells hnonneg hpos (hsum.symm ▸ hi)⟩

/-- A computer whose sixth word stands for no instruction. -/
def faltering : Computer (Devices (FrameRecorder Frame) SilentBeeper KeyScript ListSource) :=
  ((start { graphics := {}, audio := {}, keyboard := {}, numbers := ⟨[]⟩ }
    { name := "", threshold := none, coloured := false, timestamps := false, startedAt := 0 } {}).load
      [0x60, 0x05, 0x70, 0x01, 0x00, 0xE0, 0xA3, 0x00, 0x61, 0x07, 0xFF, 0xFF]).2

/-- Within a limit of 45 the bar is told of two cycles at a time, and of the last of the five when the sixth fails. -/
theorem bar_told_of_every_cycle_faltering :
    faltering.Ends 45 5 (.error (.fault (.invalidOpcode 0xFFFF))) ∧
      ∃ bar, (faltering.run 45 true none).2.2 = some bar ∧ bar.closed = 1 ∧ bar.advances.toList = [2, 2, 1] ∧
        ∃! j, Bar.Tells bar.advances.toList j 5 := by
  have hends : faltering.Ends 45 5 (.error (.fault (.invalidOpcode 0xFFFF))) :=
    .failed ⟨by decide, by decide +kernel, by decide +kernel, by decide⟩
  obtain ⟨bar, rate, hbar, rfl, -, hclosed, hadvances, -, -, htold⟩ :=
    (bar_told_of_every_cycle faltering 45 none).2 5 _ hends
  exact ⟨hends, bar, hbar, hclosed, hadvances.trans (by decide), htold 5 (by decide) (by decide)⟩

end Computer

end Chip8
