import Chip8.Progress
import Mathlib.Algebra.BigOperators.Group.List.Basic
import Mathlib.Algebra.Order.Ring.Int

/-! What the bar of a meter is told, whichever cycles the meter is told of and in whichever order. The bar hears of those
    that the rate divides, and of each by the step that leads to it from the one before. So all steps together lead to the
    cycle at which the meter is closed. -/

namespace Chip8

/-! ### Steps -/

namespace Bar

/-- The steps that lead from `last` to the first cycle and from each cycle to the next one. -/
def stepsFrom (last : Int) (cycles : List Int) : List Int := List.zipWith (· - ·) cycles (last :: cycles)

@[simp] theorem stepsFrom_nil (last : Int) : stepsFrom last [] = [] := rfl

@[simp] theorem stepsFrom_cons (last i : Int) (cycles : List Int) :
    stepsFrom last (i :: cycles) = (i - last) :: stepsFrom i cycles := rfl

theorem stepsFrom_concat (last : Int) (cycles : List Int) (i : Int) :
    stepsFrom last (cycles ++ [i]) = stepsFrom last cycles ++ [i - cycles.getLastD last] := by
  induction cycles generalizing last with
  | nil => rfl
  | cons j cycles ih => rw [List.cons_append, stepsFrom_cons, ih, stepsFrom_cons, List.getLastD_cons, List.cons_append]

theorem sum_stepsFrom (last : Int) (cycles : List Int) : (stepsFrom last cycles).sum = cycles.getLastD last - last := by
  induction cycles generalizing last with
  | nil => simp
  | cons i cycles ih =>
    rw [stepsFrom_cons, List.sum_cons, ih, List.getLastD_cons]
    omega

theorem pos_of_mem_stepsFrom {last : Int} {cycles : List Int} (h : (last :: cycles).Pairwise (· < ·)) {step : Int}
    (hstep : step ∈ stepsFrom last cycles) : 0 < step := by
  induction cycles generalizing last with
  | nil => exact absurd hstep List.not_mem_nil
  | cons i cycles ih =>
    obtain ⟨hlast, hcycles⟩ := List.pairwise_cons.mp h
    rcases List.mem_cons.mp hstep with rfl | hstep
    · exact Int.sub_pos.mpr (hlast i List.mem_cons_self)
    · exact ih hcycles hstep

end Bar

/-! ### Divisions -/

/-- The quotient rounded down, which a division by zero does not have. -/
def quotient? (a b : Int) : Option Int := if b = 0 then none else some (a.fdiv b)

/-- What the quotient rounded down leaves over, which a division by zero does not have. -/
def remainder? (a b : Int) : Option Int := if b = 0 then none else some (a.fmod b)

theorem quotient?_of_pos {b : Int} (hb : 0 < b) (a : Int) : quotient? a b = some (a / b) := by
  rw [quotient?, if_neg hb.ne', Int.fdiv_eq_ediv_of_nonneg a hb.le]

theorem remainder?_of_pos {b : Int} (hb : 0 < b) (a : Int) : remainder? a b = some (a % b) := by
  rw [remainder?, if_neg hb.ne', Int.fmod_eq_emod_of_nonneg a hb.le]

namespace Meter
variable {E : Type}

/-- The rate, if it can be had without a division by zero. -/
def rateFor? (n : Int) : Option Int → Option Int
  | none => (quotient? n 20).map fun part => max 1 (min part 50)
  | some rate => some (max 1 (min rate n))

/-- The meter after cycle `i`, if it can be had without a division by zero. -/
def update? (m : Meter E) (i : Int) : Option (Meter E) :=
  if 0 < i then (remainder? i m.rate).map fun rest => if rest = 0 then m.report i else m else some m

theorem rateFor?_eq (n : Int) (rate : Option Int) : rateFor? n rate = some (rateFor n rate) := by
  cases rate with
  | none => rw [rateFor?, quotient?_of_pos (by decide), Option.map_some, rateFor]
  | some rate => rfl

theorem one_le_rateFor (n : Int) (rate : Option Int) : 1 ≤ rateFor n rate := by
  cases rate <;> exact Int.le_max_left 1 _

theorem rateFor_some_le (n rate : Int) : rateFor n (some rate) ≤ max 1 n :=
  max_le_max le_rfl (min_le_right rate n)

/-! ### Cycles -/

/-- The cycles of which a bar hears at a rate. -/
def due (rate : Int) (cycles : List Int) : List Int := cycles.filter fun i => 0 < i ∧ rate ∣ i

theorem due_cons_of_due {rate i : Int} (h : 0 < i ∧ rate ∣ i) (cycles : List Int) :
    due rate (i :: cycles) = i :: due rate cycles := List.filter_cons_of_pos (decide_eq_true h)

theorem due_cons_of_not_due {rate i : Int} (h : ¬ (0 < i ∧ rate ∣ i)) (cycles : List Int) :
    due rate (i :: cycles) = due rate cycles := List.filter_cons_of_neg (by simpa using h)

theorem update_of_due {m : Meter E} {i : Int} (h : 0 < i ∧ m.rate ∣ i) : m.update i = m.report i :=
  if_pos ⟨h.1, Int.emod_eq_zero_of_dvd h.2⟩

theorem update_of_not_due {m : Meter E} {i : Int} (h : ¬ (0 < i ∧ m.rate ∣ i)) : m.update i = m :=
  if_neg fun hi => h ⟨hi.1, Int.dvd_of_emod_eq_zero hi.2⟩

theorem rate_update (m : Meter E) (i : Int) : (m.update i).rate = m.rate := by
  unfold update
  split <;> rfl

theorem update?_of_pos {m : Meter E} (hrate : 0 < m.rate) (i : Int) : m.update? i = some (m.update i) := by
  unfold update? update
  rw [remainder?_of_pos hrate, Option.map_some]
  by_cases hi : 0 < i
  · simp only [hi, true_and, if_true]
  · simp only [hi, false_and, if_false]

/-- No cycle makes a meter whose rate is positive divide by zero. -/
theorem foldlM_update? {m : Meter E} (hrate : 0 < m.rate) (cycles : List Int) :
    cycles.foldlM update? m = some (cycles.foldl update m) := by
  induction cycles generalizing m with
  | nil => rfl
  | cons i cycles ih =>
    rw [List.foldlM_cons, update?_of_pos hrate, Option.bind_eq_bind, Option.bind_some, List.foldl_cons]
    exact ih (by rwa [rate_update])

/-- Of the cycles that are told, those that are due are reported and the others change nothing. -/
theorem foldl_update (m : Meter E) (cycles : List Int) : cycles.foldl update m = (due m.rate cycles).foldl report m := by
  induction cycles generalizing m with
  | nil => rfl
  | cons i cycles ih =>
    rw [List.foldl_cons, ih, rate_update]
    by_cases hi : 0 < i ∧ m.rate ∣ i
    · rw [update_of_due hi, due_cons_of_due hi, List.foldl_cons]
    · rw [update_of_not_due hi, due_cons_of_not_due hi]

/-- The bar hears of reported cycles by the steps that lead to them, and nothing else of it changes. -/
theorem foldl_report (m : Meter E) (cycles : List Int) : cycles.foldl report m =
    { m with
      bar := { m.bar with advances := m.bar.advances ++ (Bar.stepsFrom m.reported cycles).toArray }
      reported := cycles.getLastD m.reported } := by
  induction cycles generalizing m with
  | nil => simp
  | cons i cycles ih =>
    rw [List.foldl_cons, ih, Bar.stepsFrom_cons, List.getLastD_cons]
    simp [report, Bar.advance]

/-- The bar of a meter that is told of some cycles and closed at the last one. -/
def closedBar (m : Meter E) (cycles : List Int) (last : Int) : Bar E := ((cycles.foldl update m).close last).bar

theorem closedBar_eq (m : Meter E) (cycles : List Int) (last : Int) : m.closedBar cycles last =
    { m.bar with
      advances := m.bar.advances ++ (Bar.stepsFrom m.reported (due m.rate cycles ++ [last])).toArray
      closed := m.bar.closed + 1 } := by
  rw [closedBar, foldl_update, foldl_report, Bar.stepsFrom_concat]
  simp [close, report, Bar.advance, Bar.close]

theorem bar_update_ne_iff {m : Meter E} {i : Int} : (m.update i).bar ≠ m.bar ↔ 0 < i ∧ m.rate ∣ i := by
  constructor
  · intro hne
    by_contra hdue
    exact hne (by rw [update_of_not_due hdue])
  · intro hdue heq
    rw [update_of_due hdue] at heq
    -- The step may be 0, but the bar keeps one step more.
    have hsize := congrArg (fun b : Bar E => b.advances.size) heq
    simp [report, Bar.advance] at hsize

theorem toList_advances_foldl_update (m : Meter E) (cycles : List Int) : (cycles.foldl update m).bar.advances.toList =
    m.bar.advances.toList ++ Bar.stepsFrom m.reported (due m.rate cycles) := by
  rw [foldl_update, foldl_report]
  simp

/-- Of cycles told in order, those that are due come in order too, and all of them after the start. -/
theorem pairwise_zero_due {rate : Int} {cycles : List Int} (h : cycles.Pairwise (· < ·)) :
    (0 :: due rate cycles).Pairwise (· < ·) := by
  refine List.pairwise_cons.mpr ⟨fun i hi => ?_, h.filter _⟩
  exact (of_decide_eq_true (List.mem_filter.mp hi).2).1

/-! ### What the bar is told -/

/-- A meter accounts for cycles that it is told of, and for the last one, at which it is closed. -/
structure Accounts (m : Meter E) (cycles : List Int) (last : Int) : Prop where
  /-- The cycles make for no division by zero. -/
  divides : cycles.foldlM update? m = some (cycles.foldl update m)
  /-- After them, a cycle reaches the bar if it is a positive multiple of the rate, and else not. -/
  reaches : ∀ i, ((cycles.foldl update m).update i).bar ≠ (cycles.foldl update m).bar ↔ 0 < i ∧ m.rate ∣ i
  /-- The bar is told of the due cycles and of the last one, by the step from each of them to the next. -/
  told : (m.closedBar cycles last).advances.toList = Bar.stepsFrom 0 (due m.rate cycles ++ [last])
  sum : (m.closedBar cycles last).advances.toList.sum = last
  pos : cycles.Pairwise (· < ·) → ∀ step ∈ (cycles.foldl update m).bar.advances.toList, 0 < step
  closed : (m.closedBar cycles last).closed = 1

/-- A meter with a positive rate accounts for all cycles from the start of its bar on. -/
theorem accounts {m : Meter E} (hrate : 0 < m.rate) (hreported : m.reported = 0) (hadvances : m.bar.advances = #[])
    (hclosed : m.bar.closed = 0) (cycles : List Int) (last : Int) : m.Accounts cycles last where
  divides := foldlM_update? hrate cycles
  reaches i := by rw [bar_update_ne_iff, foldl_update, foldl_report]
  told := by simp [closedBar_eq, hreported, hadvances]
  sum := by simp [closedBar_eq, hreported, hadvances, Bar.sum_stepsFrom]
  pos hcycles step hstep := by
    rw [toList_advances_foldl_update, hadvances, hreported] at hstep
    exact Bar.pos_of_mem_stepsFrom (pairwise_zero_due hcycles) hstep
  closed := by rw [closedBar_eq, hclosed]

end Meter

/-! ### Options -/

namespace Bar
variable {E : Type}

theorem lookup_filter_name (keep : String → Bool) (options : List (String × E)) (name : String) :
    (options.filter fun option => keep option.1).lookup name = if keep name then options.lookup name else none := by
  induction options with
  | nil => simp
  | cons option options ih =>
    obtain ⟨other, value⟩ := option
    rw [List.filter_cons, List.lookup_cons]
    by_cases hname : name = other
    · subst hname
      cases hkeep : keep name <;> simp [hkeep, ih]
    · rw [beq_false_of_ne hname]
      cases keep other <;> simp [List.lookup_cons, beq_false_of_ne hname, ih]

/-- A bar gets the options that are not reserved. -/
theorem lookup_extras_ofTotal (n : Int) (description : Option String) (extras : List (String × E)) (name : String) :
    (ofTotal n description extras).extras.lookup name = if reserved.contains name then none else extras.lookup name := by
  refine (lookup_filter_name (fun other => !reserved.contains other) extras name).trans ?_
  cases reserved.contains name <;> rfl

end Bar

namespace Meter
variable {E : Type}

theorem setUp_of_mem {n : Int} {rate : Option Int} {description : Option String} {extras : List (String × E)}
    (h : "unit" ∈ extras.map Prod.fst) : setUp n rate description extras = .error (.repeatedOption "unit") :=
  if_pos (List.contains_iff_mem.mpr h)

theorem setUp_of_not_mem {n : Int} {rate : Option Int} {description : Option String} {extras : List (String × E)}
    (h : "unit" ∉ extras.map Prod.fst) : setUp n rate description extras = .ok (start n rate description extras) :=
  if_neg (mt List.contains_iff_mem.mp h)

/-- A meter can be had for any number of cycles, any rate and any further options, but for the unit of its bar, which is
    refused. Whichever cycles it is told of, the steps of its bar lead to the one at which it is closed, and the bar has the
    number of cycles for its total and the options that are not the meter's own. -/
theorem bar_told_up_to_last (n : Int) (rate : Option Int) (description : Option String) (extras : List (String × E)) :
    ("unit" ∈ extras.map Prod.fst → setUp n rate description extras = .error (.repeatedOption "unit")) ∧
      ("unit" ∉ extras.map Prod.fst → ∃ m : Meter E, setUp n rate description extras = .ok m ∧
        rateFor? n rate = some m.rate ∧ 1 ≤ m.rate ∧ (∀ r ∈ rate, m.rate ≤ max 1 n) ∧
          ∀ cycles last, m.Accounts cycles last ∧ (m.closedBar cycles last).total = .number n ∧
            (∀ name ∈ ["total", "mininterval", "maxinterval", "miniters"],
              (m.closedBar cycles last).extras.lookup name = none) ∧
              ∀ name ∉ ["total", "mininterval", "maxinterval", "miniters"],
                (m.closedBar cycles last).extras.lookup name = extras.lookup name) := by
  refine ⟨setUp_of_mem, fun hunit => ⟨start n rate description extras, setUp_of_not_mem hunit,
    rateFor?_eq n rate, one_le_rateFor n rate, ?_, ?_⟩⟩
  · rintro r rfl
    exact rateFor_some_le n r
  · intro cycles last
    refine ⟨accounts (m := start n rate description extras) (one_le_rateFor n rate) rfl rfl rfl cycles last, ?_⟩
    rw [closedBar_eq]
    refine ⟨rfl, fun name hname => ?_, fun name hname => ?_⟩
    · exact (Bar.lookup_extras_ofTotal n description extras name).trans (if_pos (List.contains_iff_mem.mpr hname))
    · exact (Bar.lookup_extras_ofTotal n description extras name).trans (if_neg (mt List.contains_iff_mem.mp hname))

/-- Cycles in order, of which two are before the first one. -/
def rising : List Int := [-6, 0, 2, 3, 4, 9, 11]

/-- Options of which a bar gets the first one. -/
def options : List (String × Nat) := [("leave", 1), ("miniters", 5), ("total", 9)]

/-- At a rate of 3 the bar hears of cycles 3 and 9, and is led back to cycle 5 at the end. -/
theorem bar_told_up_to_last_and_back :
    setUp 7 (some 3) none (("unit", 2) :: options) = .error (.repeatedOption "unit") ∧
      "unit" ∉ options.map Prod.fst ∧ ∃ m, setUp 7 (some 3) none options = .ok m ∧ m.rate = 3 ∧ m.rate ≤ max 1 7 ∧
        rising.Pairwise (· < ·) ∧ (∀ step ∈ (rising.foldl update m).bar.advances.toList, 0 < step) ∧
          (m.closedBar rising 5).advances.toList = [3, 6, -4] ∧ (m.closedBar rising 5).advances.toList.sum = 5 ∧
            (m.closedBar rising 5).extras.lookup "miniters" = none ∧
              (m.closedBar rising 5).extras.lookup "leave" = some 1 := by
  have hunit : "unit" ∉ options.map Prod.fst := by decide
  have hrising : rising.Pairwise (· < ·) := by decide
  obtain ⟨m, hsetUp, -, -, hle, haccounts⟩ := (bar_told_up_to_last 7 (some 3) none options).2 hunit
  obtain ⟨hm, -, hown, hothers⟩ := haccounts rising 5
  have hm_eq : m = start 7 (some 3) none options := Except.ok.inj (hsetUp.symm.trans (setUp_of_not_mem hunit))
  have hrate : m.rate = 3 := by rw [hm_eq]; rfl
  have hadvances : (m.closedBar rising 5).advances.toList = [3, 6, -4] := by rw [hm_eq]; rfl
  exact ⟨(bar_told_up_to_last 7 (some 3) none (("unit", 2) :: options)).1 (by decide), hunit, m, hsetUp, hrate, hle 3 rfl,
    hrising, hm.pos hrising, hadvances, hm.sum, hown "miniters" (by decide), hothers "leave" (by decide)⟩

end Meter

end Chip8
