import Chip8.Proofs.BoundedRuns
import Chip8.Proofs.HeldKeys

/-! When a run is left. A script asks to leave at the poll that it was set to and at every later one, and every cycle
    that goes through is one poll. So it is known beforehand which cycle of a run will be the last one, however the
    polls before it were spread over other runs, and cycles that fail do not count. -/

namespace Chip8

/-! ### Scripts -/

namespace KeyScript
variable {s s' : KeyScript} {n : Nat}

theorem leaves_iff : s.leaves = true ↔ ∃ k, s.exitAfter = some k ∧ k ≤ s.pollCount := by
  simp [leaves, Option.any_eq_true]

/-- A script that asks to leave goes on asking. -/
theorem Polled.leaves (h : s.Polled n s') (hl : s.leaves = true) : s'.leaves = true := by
  obtain ⟨k, hk, hle⟩ := leaves_iff.mp hl
  have hcount := h.pollCount
  exact leaves_iff.mpr ⟨k, h.exitAfter.trans hk, by omega⟩

end KeyScript

namespace Computer

/-! ### Runs in which nothing fails -/

section Hosts
variable {H : Type} [Host H] {c : Computer H} {limit : Int}

/-- No cycle of a run within the limit fails. -/
def RunsThrough (c : Computer H) (limit : Int) : Prop := ∀ n e, ¬ c.StopsAt limit n (.error e)

theorem runsThrough_of_ok (h : ∀ j < limit.toNat, ∃ reply, c.reply j = .ok reply) : c.RunsThrough limit := by
  intro n e hstop
  have hwithin := hstop.within
  obtain ⟨reply, hreply⟩ := h n (by omega)
  rw [hstop.reply] at hreply
  cases hreply

theorem RunsThrough.exists_ends (h : c.RunsThrough limit) : ∃ n leave, c.Ends limit n (.ok leave) := by
  obtain ⟨n, r, hends⟩ := c.exists_ends limit
  cases hends with
  | spent hnone => exact ⟨_, _, .spent hnone⟩
  | left hstop => exact ⟨_, _, .left hstop⟩
  | failed hstop => exact absurd hstop (h _ _)

end Hosts

/-! ### Runs on a script -/

section Scripts
variable {G A N : Type} [Graphics G] [Audio A] [NumberSource N] {c : Computer (Devices G A KeyScript N)}
  {limit : Int} {n : Nat} {leave : Bool}

/-- Every cycle that goes through is one poll. -/
theorem polled_after (hok : ∀ j < n, ∃ reply, c.reply j = .ok reply) :
    c.host.keyboard.Polled n (c.after n).host.keyboard := by
  induction n with
  | zero => exact .refl _
  | succ n ih =>
    obtain ⟨reply, hreply⟩ := hok n n.lt_succ_self
    have hbefore := ih fun j hj => hok j (Nat.lt_succ_of_lt hj)
    rw [after_succ]
    exact hbefore.trans (script_of_ok hreply).1

/-- Behind cycles that went through, one more asks to leave exactly if its poll is one at which the script does. -/
theorem exit_iff {reply : Signal} (hok : ∀ j < n, ∃ reply, c.reply j = .ok reply) (hreply : c.reply n = .ok reply) :
    reply = .exit ↔ ∃ k, c.host.keyboard.exitAfter = some k ∧ k ≤ c.host.keyboard.pollCount + n + 1 := by
  have hbefore := polled_after hok
  obtain ⟨hpolled, -, rfl⟩ := script_of_ok hreply
  have hall := hbefore.trans hpolled
  have hsignal : signal (c.after n).cycle.2.host.keyboard.leaves = .exit ↔
      (c.after n).cycle.2.host.keyboard.leaves = true := by
    cases (c.after n).cycle.2.host.keyboard.leaves <;> simp [signal]
  rw [hsignal, KeyScript.leaves_iff, hall.exitAfter, hall.pollCount]
  push_cast
  rfl

/-- A run that is left ends with the first cycle whose poll asks for it, and one that is not never gets that far. -/
theorem Ends.cycles_of_exitAfter (h : c.Ends limit n (.ok leave)) {k : Int} (hk : c.host.keyboard.exitAfter = some k) :
    (n : Int) = min (max limit 0) (max 1 (k - c.host.keyboard.pollCount)) ∧
      (leave = true ↔ max 1 (k - c.host.keyboard.pollCount) ≤ limit) := by
  -- A cycle that goes on has made a poll that was not due yet.
  have not_due {m : Nat} (hproceeds : ∀ j < m, c.reply j = .ok .proceed) {j : Nat} (hj : j < m) :
      ¬ k ≤ c.host.keyboard.pollCount + j + 1 := fun hle => by
    have hexit := (exit_iff (fun i hi => ⟨_, hproceeds i (Nat.lt_trans hi hj)⟩) (hproceeds j hj)).mpr ⟨k, hk, hle⟩
    cases hexit
  cases h with
  | spent hnone =>
    have hlast := not_due (not_stops_iff.mp hnone) (j := limit.toNat - 1)
    simp only [Bool.false_eq_true, false_iff]
    omega
  | @left n hstop =>
    have hwithin := hstop.within
    obtain ⟨k', hk', hdue⟩ := (exit_iff (fun j hj => ⟨_, hstop.before j hj⟩) hstop.reply).mp rfl
    rw [hk] at hk'
    cases hk'
    -- The last poll was due and the one before it was not: that leaves one number of cycles.
    have hlast := not_due hstop.before (j := n - 1)
    simp only [true_iff]
    omega

theorem Ends.cycles_of_no_exit (h : c.Ends limit n (.ok leave)) (hk : c.host.keyboard.exitAfter = none) :
    (n : Int) = max limit 0 ∧ leave = false := by
  cases h with
  | spent => exact ⟨Int.toNat_eq_max limit, rfl⟩
  | left hstop =>
    obtain ⟨k, hsome, -⟩ := (exit_iff (fun j hj => ⟨_, hstop.before j hj⟩) hstop.reply).mp rfl
    rw [hk] at hsome
    cases hsome

theorem run_of_runsThrough (h : c.RunsThrough limit) (progress : Bool) (description : Option String) :
    ∃ n leave, c.Ends limit n (.ok leave) ∧ (c.run limit progress description).1 = .ok ⟨n, leave⟩ ∧
      c.host.keyboard.Polled n (c.run limit progress description).2.1.host.keyboard := by
  obtain ⟨n, leave, hends⟩ := h.exists_ends
  rw [run_of_ends hends]
  exact ⟨n, leave, hends, rfl, polled_after hends.succeeds⟩

/-- A run that starts when the script already asks to leave ends behind its first cycle. -/
theorem run_of_leaves (hl : c.host.keyboard.leaves = true) (hlimit : 1 ≤ limit) (h : c.RunsThrough limit)
    (progress : Bool) (description : Option String) : (c.run limit progress description).1 = .ok ⟨1, true⟩ := by
  obtain ⟨k, hk, hle⟩ := KeyScript.leaves_iff.mp hl
  obtain ⟨n, leave, hends, hrun, -⟩ := run_of_runsThrough h progress description
  obtain ⟨hn, hleave⟩ := hends.cycles_of_exitAfter hk
  obtain rfl : n = 1 := by omega
  obtain rfl : leave = true := hleave.mpr (by omega)
  exact hrun

/-! ### Later runs -/

/-- What may become of a computer by acts and runs, however these end. -/
inductive Leads (c : Computer (Devices G A KeyScript N)) : Computer (Devices G A KeyScript N) → Prop
  | refl : Leads c c
  | act {later : Computer (Devices G A KeyScript N)} (act : Act) : Leads c later → Leads c (later.act act)
  | run {later : Computer (Devices G A KeyScript N)} (limit : Int) (progress : Bool) (description : Option String) :
      Leads c later → Leads c (later.run limit progress description).2.1

theorem leaves_cycle (hl : c.host.keyboard.leaves = true) : c.cycle.2.host.keyboard.leaves = true := by
  cases hr : c.cycle.1 with
  | ok reply => exact (script_of_ok hr).1.leaves hl
  | error e => exact (script_of_error hr).leaves hl

theorem leaves_after (hl : c.host.keyboard.leaves = true) (n : Nat) : (c.after n).host.keyboard.leaves = true := by
  induction n with
  | zero => exact hl
  | succ n ih =>
    rw [after_succ]
    exact leaves_cycle ih

theorem leaves_act (hl : c.host.keyboard.leaves = true) (act : Act) : (c.act act).host.keyboard.leaves = true := by
  match act with
  | .hold _ => exact hl
  | .press _ => exact hl
  | .order .cycle => exact leaves_cycle hl
  | .order (.load program) =>
    show (c.load program).2.host.keyboard.leaves = true
    rw [load_host, hl]

theorem leaves_run (hl : c.host.keyboard.leaves = true) (limit : Int) (progress : Bool) (description : Option String) :
    (c.run limit progress description).2.1.host.keyboard.leaves = true := by
  obtain ⟨n, r, hends⟩ := c.exists_ends limit
  rw [run_of_ends hends]
  cases r with
  | error e => exact leaves_after hl (n + 1)
  | ok leave => exact leaves_after hl n

theorem Leads.leaves {later : Computer (Devices G A KeyScript N)} (h : c.Leads later)
    (hl : c.host.keyboard.leaves = true) : later.host.keyboard.leaves = true := by
  induction h with
  | refl => exact hl
  | act act _ ih => exact leaves_act ih act
  | run limit progress description _ ih => exact leaves_run ih limit progress description

theorem leaves_of_exit {progress : Bool} {description : Option String}
    (h : (c.run limit progress description).1 = .ok ⟨n, true⟩) :
    (c.run limit progress description).2.1.host.keyboard.leaves = true := by
  obtain ⟨n, r, hends⟩ := c.exists_ends limit
  rw [run_of_ends hends] at h ⊢
  cases hends with
  | spent => cases h
  | failed => cases h
  | @left n hstop =>
    show (c.after (n + 1)).host.keyboard.leaves = true
    have hreply := (script_of_ok hstop.reply).2.2
    rw [after_succ]
    cases hl : (c.after n).cycle.2.host.keyboard.leaves with
    | true => rfl
    | false =>
      rw [hl] at hreply
      cases hreply

/-- A run in which no cycle fails goes through all cycles up to its limit, or up to the one that makes the poll at which
    the script asks to leave; that is the first one if this poll has already been made, and so it stays for all later
    runs. Every cycle is one poll, and one that fails is none. -/
theorem run_left_when_due (c : Computer (Devices G A KeyScript N)) :
    (∀ limit progress description, c.RunsThrough limit → ∃ n leave,
      (c.run limit progress description).1 = .ok ⟨n, leave⟩ ∧
        c.host.keyboard.Polled n (c.run limit progress description).2.1.host.keyboard ∧
        (∀ k, c.host.keyboard.exitAfter = some k →
          (n : Int) = min (max limit 0) (max 1 (k - c.host.keyboard.pollCount)) ∧
            (leave = true ↔ max 1 (k - c.host.keyboard.pollCount) ≤ limit)) ∧
        (c.host.keyboard.exitAfter = none → (n : Int) = max limit 0 ∧ leave = false)) ∧
    (∀ limit progress description n, (c.run limit progress description).1 = .ok ⟨n, true⟩ →
      ∀ later, (c.run limit progress description).2.1.Leads later →
        ∀ limit' progress' description', 1 ≤ limit' → later.RunsThrough limit' →
          (later.run limit' progress' description').1 = .ok ⟨1, true⟩) ∧
    ∀ e, c.cycle.1 = .error e → c.host.keyboard.Polled 0 c.cycle.2.host.keyboard := by
  refine ⟨fun limit progress description hthrough => ?_, fun limit progress description n hexit later hleads => ?_,
    fun e => script_of_error⟩
  · obtain ⟨n, leave, hends, hrun, hpolled⟩ := run_of_runsThrough hthrough progress description
    exact ⟨n, leave, hrun, hpolled, fun k => hends.cycles_of_exitAfter, hends.cycles_of_no_exit⟩
  · intro limit' progress' description' hlimit hthrough
    exact run_of_leaves (hleads.leaves (leaves_of_exit hexit)) hlimit hthrough progress' description'

end Scripts

/-- `thrice` asks to leave at its third poll: a run of at most 2 cycles does not get there, one of at most 5 leaves behind
    the third cycle, and after that a run leaves at once, whichever keys are held. The cycle of `stumbling` that fails is no
    poll. -/
theorem run_left_when_due_thrice :
    (thrice.RunsThrough 2 ∧ (thrice.run 2 true none).1 = .ok ⟨2, false⟩) ∧
    (thrice.RunsThrough 5 ∧ (thrice.run 5 false none).1 = .ok ⟨3, true⟩) ∧
    ((thrice.run 5 false none).2.1.hold [7]).RunsThrough 4 ∧
      (((thrice.run 5 false none).2.1.hold [7]).run 4 true none).1 = .ok ⟨1, true⟩ ∧
    stumbling.cycle.2.cycle.1 = .error (.fault (.invalidOpcode 0x5121)) ∧
      stumbling.cycle.2.host.keyboard.Polled 0 stumbling.cycle.2.cycle.2.host.keyboard := by
  have runsThrough (c : Computer (Devices (FrameRecorder Frame) SilentBeeper KeyScript ListSource)) (n : Nat)
      (h : ∀ j < n, c.reply j = .ok .proceed ∨ c.reply j = .ok .exit) : c.RunsThrough n :=
    runsThrough_of_ok fun j hj => (h j hj).elim (fun hreply => ⟨_, hreply⟩) fun hreply => ⟨_, hreply⟩
  have htwo : thrice.RunsThrough 2 := runsThrough thrice 2 (by decide +kernel)
  have hfive : thrice.RunsThrough 5 := runsThrough thrice 5 (by decide +kernel)
  have hfour : ((thrice.run 5 false none).2.1.hold [7]).RunsThrough 4 := runsThrough _ 4 (by decide +kernel)
  have hscript : thrice.host.keyboard.exitAfter = some 3 ∧ thrice.host.keyboard.pollCount = 0 := by decide +kernel
  obtain ⟨hruns, hlater, -⟩ := run_left_when_due thrice
  have ends {limit : Int} {progress : Bool} {n : Nat} {leave : Bool} (hthrough : thrice.RunsThrough limit)
      (hn : (n : Int) = min (max limit 0) 3) (hleave : leave = true ↔ 3 ≤ limit) :
      (thrice.run limit progress none).1 = .ok ⟨n, leave⟩ := by
    obtain ⟨n', leave', hrun, -, hdue, -⟩ := hruns limit progress none hthrough
    obtain ⟨hn', hleave'⟩ := hdue 3 hscript.1
    rw [hscript.2] at hn' hleave'
    obtain rfl : n = n' := by omega
    obtain rfl : leave = leave' := Bool.eq_iff_iff.mpr (hleave.trans hleave'.symm)
    exact hrun
  have hexit : (thrice.run 5 false none).1 = .ok ⟨3, true⟩ := ends hfive (by decide) (by decide)
  have hfault : stumbling.cycle.2.cycle.1 = .error (.fault (.invalidOpcode 0x5121)) := by decide +kernel
  exact ⟨⟨htwo, ends htwo (by decide) (by decide)⟩, ⟨hfive, hexit⟩,
    hfour, hlater 5 false none 3 hexit _ (.act (.hold [7]) .refl) 4 true none (by decide) hfour,
    hfault, (run_left_when_due stumbling.cycle.2).2.2 _ hfault⟩

end Computer
end Chip8
