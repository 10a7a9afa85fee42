import Chip8.Device.FrameRecorder
import Chip8.Device.NumberSources
import Chip8.Device.Rigged
import Chip8.Device.SilentBeeper
import Chip8.Proofs.Atomicity
import Chip8.Run

/-! Runs as cycles one after the other. A run within a limit goes through the cycles up to the first one that fails or
    asks to leave, or up to the limit, and comes to what those cycles come to (`Ends`, `run_of_ends`). What is logged
    and what is shown of the progress has no part in it, so a run may be stopped at a limit and gone on with. -/

namespace Chip8

/-! ### Cycles in a row -/

namespace Computer
variable {H : Type} [Host H]

/-- The computer after `n` cycles, whether they succeed or fail. -/
def after (c : Computer H) : Nat → Computer H
  | 0 => c
  | n + 1 => c.cycle.2.after n

/-- What the cycle after `n` others replies. -/
def reply (c : Computer H) (n : Nat) : Except Failure Signal := (c.after n).cycle.1

theorem after_add (c : Computer H) (m n : Nat) : c.after (m + n) = (c.after m).after n := by
  induction m generalizing c with
  | zero => rw [Nat.zero_add, after]
  | succ m ih =>
    rw [Nat.succ_add]
    exact ih c.cycle.2

theorem after_succ (c : Computer H) (n : Nat) : c.after (n + 1) = (c.after n).cycle.2 := c.after_add n 1

theorem reply_after (c : Computer H) (m n : Nat) : (c.after m).reply n = c.reply (m + n) := by
  rw [reply, reply, after_add]

/-- The cycle after `n` others is the first one within the limit that fails or asks to leave, and replies `r`. -/
structure StopsAt (c : Computer H) (limit : Int) (n : Nat) (r : Except Failure Signal) : Prop where
  within : n < limit
  before : ∀ j < n, c.reply j = .ok .proceed
  reply : c.reply n = r
  stops : r ≠ .ok .proceed

/-- Ways in which a run within a limit ends, with the number of its cycles that succeed. -/
inductive Ends (c : Computer H) (limit : Int) : Nat → Except Failure Bool → Prop
  | spent : (¬ ∃ n r, c.StopsAt limit n r) → Ends c limit limit.toNat (.ok false)
  | left {n : Nat} : c.StopsAt limit n (.ok .exit) → Ends c limit (n + 1) (.ok true)
  | failed {n : Nat} {e : Failure} : c.StopsAt limit n (.error e) → Ends c limit n (.error e)

/-- The computer after the last cycle of a run of which `n` succeed. -/
def atEnd (c : Computer H) (n : Nat) : Except Failure Bool → Computer H
  | .ok _ => c.after n
  | .error _ => c.after (n + 1)

section Ends
variable {c : Computer H} {limit : Int} {n : Nat} {r : Except Failure Bool}

theorem not_stops_iff : (¬ ∃ n r, c.StopsAt limit n r) ↔ ∀ j < limit.toNat, c.reply j = .ok .proceed := by
  constructor
  · intro h j
    -- The cycles up to this one proceed, so if it did not it would be the first one to stop.
    induction j using Nat.strongRecOn with
    | _ j ih =>
      intro hj
      refine Classical.byContradiction fun hne => h ⟨j, c.reply j, by omega, fun i hi => ?_, rfl, hne⟩
      exact ih i hi (Nat.lt_trans hi hj)
  · rintro h ⟨n, r, hstop⟩
    have hn := hstop.within
    exact hstop.stops (hstop.reply.symm.trans (h n (by omega)))

theorem exists_ends (c : Computer H) (limit : Int) : ∃ n r, c.Ends limit n r := by
  by_cases h : ∃ n r, c.StopsAt limit n r
  · obtain ⟨n, r, hstop⟩ := h
    match r, hstop with
    | .error e, hstop => exact ⟨n, .error e, .failed hstop⟩
    | .ok .exit, hstop => exact ⟨n + 1, .ok true, .left hstop⟩
    | .ok .proceed, hstop => exact absurd rfl hstop.stops
  · exact ⟨limit.toNat, .ok false, .spent h⟩

theorem Ends.succeeds (h : c.Ends limit n r) : ∀ j < n, ∃ signal, c.reply j = .ok signal := by
  intro j hj
  cases h with
  | spent hnone => exact ⟨.proceed, not_stops_iff.mp hnone j hj⟩
  | left hstop =>
    obtain rfl | hj := Nat.eq_or_lt_of_le (Nat.le_of_lt_succ hj)
    · exact ⟨.exit, hstop.reply⟩
    · exact ⟨.proceed, hstop.before j hj⟩
  | failed hstop => exact ⟨.proceed, hstop.before j hj⟩

/-- What a run that starts behind some cycles comes to, seen from before them. -/
theorem Ends.of_after {m : Nat} {k : Nat} (hbefore : ∀ j < m, c.reply j = .ok .proceed)
    (h : (c.after m).Ends k n r) : c.Ends ((m + k : Nat) : Int) (m + n) r := by
  have hstops {n : Nat} {r : Except Failure Signal} (hs : (c.after m).StopsAt k n r) :
      c.StopsAt ((m + k : Nat) : Int) (m + n) r := by
    refine ⟨by have := hs.within; omega, fun j hj => ?_, by rw [← reply_after, hs.reply], hs.stops⟩
    by_cases hjm : j < m
    · exact hbefore j hjm
    · obtain ⟨i, rfl⟩ := Nat.exists_eq_add_of_le (Nat.le_of_not_lt hjm)
      rw [← reply_after]
      exact hs.before i (by omega)
  cases h with
  | spent hnone =>
    rw [not_stops_iff] at hnone
    refine .spent (not_stops_iff.mpr fun j hj => ?_)
    by_cases hjm : j < m
    · exact hbefore j hjm
    · obtain ⟨i, rfl⟩ := Nat.exists_eq_add_of_le (Nat.le_of_not_lt hjm)
      rw [← reply_after]
      exact hnone i (by simp only [Int.toNat_natCast] at *; omega)
  | left hs => exact .left (hstops hs)
  | failed hs => exact .failed (hstops hs)

end Ends

/-! ### Same states -/

/-- The computers have the same machine and the same devices. -/
structure SameState (c c' : Computer H) : Prop where
  machine : c'.machine = c.machine
  host : c'.host = c.host

namespace SameState
variable {c c' : Computer H}

/-- No cycle depends on what was logged. -/
theorem cycle (h : SameState c c') : c'.cycle.1 = c.cycle.1 ∧ SameState c.cycle.2 c'.cycle.2 := by
  rcases hrun : (c.machine.advance.turn c.machine.fetched).run c.host with ⟨e | ⟨m, leave⟩, host⟩
  · have hrun' : (c'.machine.advance.turn c'.machine.fetched).run c'.host = (.error e, host) := by
      rw [h.machine, h.host, hrun]
    have hf := Fails.of_turn hrun
    have hf' := Fails.of_turn hrun'
    exact ⟨hf'.reply.trans hf.reply.symm, by rw [hf'.machine, hf.machine, h.machine], hf'.host.trans hf.host.symm⟩
  · have hrun' : (c'.machine.advance.turn c'.machine.fetched).run c'.host = (.ok (m, leave), host) := by
      rw [h.machine, h.host, hrun]
    have hc := Commits.of_turn hrun
    have hc' := Commits.of_turn hrun'
    exact ⟨hc'.reply.trans hc.reply.symm, hc'.machine.trans hc.machine.symm, hc'.host.trans hc.host.symm⟩

theorem after (h : SameState c c') (n : Nat) : SameState (c.after n) (c'.after n) := by
  induction n generalizing c c' with
  | zero => exact h
  | succ n ih => exact ih h.cycle.2

theorem reply (h : SameState c c') (n : Nat) : c'.reply n = c.reply n := (h.after n).cycle.1

theorem stopsAt (h : SameState c c') {limit : Int} {n : Nat} {r : Except Failure Signal} (hs : c.StopsAt limit n r) :
    c'.StopsAt limit n r :=
  ⟨hs.within, fun j hj => (h.reply j).trans (hs.before j hj), (h.reply n).trans hs.reply, hs.stops⟩

theorem ends (h : SameState c c') {limit : Int} {n : Nat} {r : Except Failure Bool} (he : c.Ends limit n r) :
    c'.Ends limit n r := by
  cases he with
  | spent hnone =>
    rw [not_stops_iff] at hnone
    exact .spent (not_stops_iff.mpr fun j hj => (h.reply j).trans (hnone j hj))
  | left hs => exact .left (h.stopsAt hs)
  | failed hs => exact .failed (h.stopsAt hs)

omit [Host H] in
theorem load (h : SameState c c') (program : Program) : SameState (c.load program).2 (c'.load program).2 := by
  unfold Computer.load
  rw [h.machine]
  cases c.machine.loadProgram program with
  | error fault => exact h
  | ok m => exact ⟨rfl, h.host⟩

end SameState
end Computer

/-! ### Drives -/

/-- The meter after the cycles from 1 to `n`. -/
def Meter.through {E : Type} (m : Meter E) : Nat → Meter E
  | 0 => m
  | n + 1 => (m.through n).update (n + 1)

namespace Drive
variable {H : Type} [Host H]

theorem go_of_proceed {d : Drive H} (h : d.computer.cycle.1 = .ok .proceed) (n : Nat) :
    go (n + 1) d = go n (d.count d.computer.cycle.2) := by
  rcases hc : d.computer.cycle with ⟨r, c⟩
  rw [hc] at h
  obtain rfl : r = .ok .proceed := h
  rw [go, hc]

theorem go_of_exit {d : Drive H} (h : d.computer.cycle.1 = .ok .exit) (n : Nat) :
    go (n + 1) d = (.ok true, d.count d.computer.cycle.2) := by
  rcases hc : d.computer.cycle with ⟨r, c⟩
  rw [hc] at h
  obtain rfl : r = .ok .exit := h
  rw [go, hc]

theorem go_of_error {d : Drive H} {e : Failure} (h : d.computer.cycle.1 = .error e) (n : Nat) :
    go (n + 1) d = (.error e, { d with computer := d.computer.cycle.2 }) := by
  rcases hc : d.computer.cycle with ⟨r, c⟩
  rw [hc] at h
  obtain rfl : r = .error e := h
  rw [go, hc]

/-- A run that has counted the first `n` cycles. -/
def counted (c : Computer H) (meter : Option (Meter Empty)) (n : Nat) : Drive H where
  computer := c.after n
  cycles := n
  meter := meter.map (·.through n)

theorem count_counted (c : Computer H) (meter : Option (Meter Empty)) (n : Nat) :
    (counted c meter n).count (c.after n).cycle.2 = counted c meter (n + 1) := by
  unfold counted count
  rw [c.after_succ, Option.map_map]
  rfl

theorem go_of_proceeds {c : Computer H} {n : Nat} (h : ∀ j < n, c.reply j = .ok .proceed)
    (meter : Option (Meter Empty)) (k : Nat) : go (n + k) (counted c meter 0) = go k (counted c meter n) := by
  -- The cycles are split off from the front, so what is left to go grows by one in each step.
  induction n generalizing k with
  | zero => rw [Nat.zero_add]
  | succ n ih =>
    rw [Nat.add_assoc, Nat.add_comm 1 k, ih fun j hj => h j (Nat.lt_succ_of_lt hj),
      go_of_proceed (d := counted c meter n) (h n n.lt_succ_self), ← count_counted]
    rfl

/-- A run that ends leaves the computer after its last cycle, and has counted those that succeeded. -/
theorem go_of_ends {c : Computer H} {limit : Int} {n : Nat} {r : Except Failure Bool} (h : c.Ends limit n r)
    (meter : Option (Meter Empty)) :
    go limit.toNat (counted c meter 0) = (r, { counted c meter n with computer := c.atEnd n r }) := by
  have hsplit {n : Nat} (hn : (n : Int) < limit) : limit.toNat = n + (limit.toNat - n - 1 + 1) := by omega
  cases h with
  | spent hnone =>
    have hgo := go_of_proceeds (Computer.not_stops_iff.mp hnone) meter 0
    rw [Nat.add_zero] at hgo
    rw [hgo]
    rfl
  | left hs =>
    rw [hsplit hs.within, go_of_proceeds hs.before, go_of_exit (d := counted c meter _) hs.reply]
    show (_, (counted c meter _).count (c.after _).cycle.2) = _
    rw [count_counted]
    rfl
  | failed hs =>
    rw [hsplit hs.within, go_of_proceeds hs.before, go_of_error (d := counted c meter _) hs.reply, Computer.atEnd,
      c.after_succ]
    rfl

end Drive

/-! ### Runs -/

namespace Computer
variable {H : Type} [Host H]

/-- The end of a run is logged unless a cycle failed. -/
def logEnd (c : Computer H) (cycles : Nat) : Except Failure Bool → Computer H
  | .ok leave => c.finished cycles leave
  | .error _ => c

def meterFor (limit : Int) (progress : Bool) (description : Option String) : Option (Meter Empty) :=
  if progress then some (Meter.start limit none description []) else none

variable {c c' : Computer H} {limit : Int} {n : Nat} {r : Except Failure Bool}

theorem run_of_ends (h : c.Ends limit n r) (progress : Bool) (description : Option String) :
    c.run limit progress description = (r.map fun leave => ⟨n, leave⟩, (c.atEnd n r).logEnd n r,
      (meterFor limit progress description).map fun m => ((m.through n).close n).bar) := by
  have hgo := Drive.go_of_ends h (meterFor limit progress description)
  have hstart : Drive.counted c (meterFor limit progress description) 0 =
      { computer := c, meter := meterFor limit progress description } := by
    unfold Drive.counted
    cases meterFor limit progress description <;> rfl
  rw [hstart] at hgo
  unfold run
  dsimp only
  rw [show (if progress then some (Meter.start limit none description []) else none) =
    meterFor limit progress description from rfl, hgo]
  cases r with
  | error e => simp only [Drive.counted, Option.map_map]; rfl
  | ok leave => simp only [Drive.counted, Option.map_map]; rfl

theorem SameState.atEnd (h : SameState c c') (n : Nat) (r : Except Failure Bool) :
    SameState (c.atEnd n r) (c'.atEnd n r) := by
  cases r with
  | error e => exact h.after (n + 1)
  | ok leave => exact h.after n

omit [Host H] in
theorem SameState.logEnd (h : SameState c c') (m n : Nat) (r : Except Failure Bool) :
    SameState (c.logEnd m r) (c'.logEnd n r) := by
  cases r with
  | error e => exact h
  | ok leave => exact ⟨h.machine, h.host⟩

theorem atEnd_after (c : Computer H) (m n : Nat) (r : Except Failure Bool) :
    (c.after m).atEnd n r = c.atEnd (m + n) r := by
  cases r with
  | error e => exact (c.after_add m (n + 1)).symm
  | ok leave => exact (c.after_add m n).symm

theorem run_add {a b : Nat} {progress : Bool} {description : Option String}
    (h : (c.run a progress description).1 = .ok ⟨a, false⟩) (progress' progress'' : Bool)
    (description' description'' : Option String) :
    (c.run (a + b : Nat) progress'' description'').1 =
        ((c.run a progress description).2.1.run b progress' description').1.map
          (fun s => ⟨a + s.cycles, s.exitRequested⟩) ∧
      SameState (c.run (a + b : Nat) progress'' description'').2.1
        ((c.run a progress description).2.1.run b progress' description').2.1 := by
  obtain ⟨n, r, he⟩ := c.exists_ends a
  rw [run_of_ends he] at h ⊢
  cases he with
  | left => cases h
  | failed => cases h
  | spent hnone =>
    rw [not_stops_iff, Int.toNat_natCast] at hnone
    -- The summary that the first run logged is not seen by the second one.
    have hsame : SameState (c.after a) ((c.after a).finished a false) := ⟨rfl, rfl⟩
    obtain ⟨k, r, hsecond⟩ := (c.after a).exists_ends b
    simp only [Int.toNat_natCast, atEnd, logEnd]
    rw [run_of_ends (hsame.ends hsecond), run_of_ends (hsecond.of_after hnone), ← atEnd_after]
    refine ⟨?_, (hsame.atEnd k r).logEnd _ _ r⟩
    cases r <;> rfl

/-- A run goes through cycles one after the other, up to the first one within the limit that does not go on. If that one
    fails, so does the run, and leaves the computer as the cycle left it, with the machine from before it and without
    a word of an end in the log. If it asks to leave, the run ends behind it, and else the run ends at its limit, at
    once if that is negative. Whether there is a bar makes no difference. And where the limit ended a run, the next one
    goes on as if the two limits had been one. -/
theorem run_cycle_by_cycle (c : Computer H) :
    (∀ limit progress description n e, c.StopsAt limit n (.error e) →
      (c.run limit progress description).1 = .error e ∧
        (c.run limit progress description).2.1 = c.after (n + 1) ∧ (c.after (n + 1)).machine = (c.after n).machine) ∧
    (∀ limit progress description n, c.StopsAt limit n (.ok .exit) →
      (c.run limit progress description).1 = .ok ⟨n + 1, true⟩ ∧
        (c.run limit progress description).2.1 = (c.after (n + 1)).finished (n + 1) true) ∧
    (∀ limit progress description, (¬ ∃ n r, c.StopsAt limit n r) →
      (c.run limit progress description).1 = .ok ⟨limit.toNat, false⟩ ∧
        (c.run limit progress description).2.1 = (c.after limit.toNat).finished limit.toNat false) ∧
    (∀ limit description description', (c.run limit true description).1 = (c.run limit false description').1 ∧
      (c.run limit true description).2.1 = (c.run limit false description').2.1) ∧
    ∀ (a b : Nat) progress description, (c.run a progress description).1 = .ok ⟨a, false⟩ →
      ∀ progress' progress'' description' description'',
        (c.run (a + b : Nat) progress'' description'').1 =
            ((c.run a progress description).2.1.run b progress' description').1.map
              (fun s => ⟨a + s.cycles, s.exitRequested⟩) ∧
          SameState (c.run (a + b : Nat) progress'' description'').2.1
            ((c.run a progress description).2.1.run b progress' description').2.1 := by
  refine ⟨fun limit progress description n e h => ?_, fun limit progress description n h => ?_,
    fun limit progress description h => ?_, fun limit description description' => ?_,
    fun a b progress description h => run_add h⟩
  · rw [run_of_ends (.failed h)]
    refine ⟨rfl, rfl, ?_⟩
    rw [after_succ]
    exact machine_of_failed h.reply
  · rw [run_of_ends (.left h)]
    exact ⟨rfl, rfl⟩
  · rw [run_of_ends (.spent h)]
    exact ⟨rfl, rfl⟩
  · obtain ⟨n, r, he⟩ := c.exists_ends limit
    rw [run_of_ends he, run_of_ends he]
    exact ⟨rfl, rfl⟩

/-- A computer in an endless loop, whose keyboard asks to leave at its third poll. -/
def thrice : Computer (Devices (FrameRecorder Frame) SilentBeeper KeyScript ListSource) :=
  ((start { graphics := {}, audio := {}, keyboard := { exitAfter := some 3 }, numbers := ⟨[]⟩ }
    { name := "", threshold := none, coloured := false, timestamps := false, startedAt := 0 } {}).load [0x12, 0x00]).2

/-- A computer whose second word stands for no instruction. -/
def stumbling : Computer (Devices (FrameRecorder Frame) SilentBeeper KeyScript ListSource) :=
  (thrice.load [0x00, 0xE0, 0x51, 0x21]).2

/-- The cycle that asks to leave is the last one within the limit of 3 and lies just behind the limit of 2; a run of one
    cycle and one of two are like one of three. A run may fail before its limit. -/
theorem run_cycle_by_cycle_thrice :
    (thrice.StopsAt 3 2 (.ok .exit) ∧ (thrice.run 3 true none).1 = .ok ⟨3, true⟩) ∧
    ((¬ ∃ n r, thrice.StopsAt 2 n r) ∧ (thrice.run 2 true none).1 = .ok ⟨2, false⟩) ∧
    (stumbling.StopsAt 3 1 (.error (.fault (.invalidOpcode 0x5121))) ∧
      (stumbling.run 3 true none).1 = .error (.fault (.invalidOpcode 0x5121))) ∧
    (thrice.run (1 : Nat) false none).1 = .ok ⟨1, false⟩ ∧
      (thrice.run (1 + 2 : Nat) true none).1 = ((thrice.run (1 : Nat) false none).2.1.run (2 : Nat) true none).1.map
        (fun s => ⟨1 + s.cycles, s.exitRequested⟩) := by
  obtain ⟨-, hleft, hspent, -, hadd⟩ := run_cycle_by_cycle thrice
  have hexit : thrice.StopsAt 3 2 (.ok .exit) := ⟨by decide, by decide +kernel, by decide +kernel, by decide⟩
  have hnone : ¬ ∃ n r, thrice.StopsAt 2 n r := not_stops_iff.mpr (by decide +kernel)
  have hfault : stumbling.StopsAt 3 1 (.error (.fault (.invalidOpcode 0x5121))) :=
    ⟨by decide, by decide +kernel, by decide +kernel, by decide⟩
  have hone : (thrice.run (1 : Nat) false none).1 = .ok ⟨1, false⟩ := by decide +kernel
  have hfailed := (run_cycle_by_cycle stumbling).1 3 true none 1 _ hfault
  exact ⟨⟨hexit, (hleft 3 true none 2 hexit).1⟩, ⟨hnone, (hspent 2 true none hnone).1⟩, ⟨hfault, hfailed.1⟩, hone,
    (hadd 1 2 false none hone true true none none).1⟩

end Computer

end Chip8
