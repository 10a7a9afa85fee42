import Chip8.Device.NumberSources
import Chip8.Device.Rigged
import Chip8.Proofs.Calls

/-! What a device hands out. `Hands` numbers the values that a device hands out when it is asked over and over; an
    attempt that fails takes none of them. Polls take no key from a script, whether they fail by plan or not. -/

namespace Chip8

/-! ### Values in order -/

/-- Asked over and over, the device hands out `x` after `j` other values. -/
inductive Attempt.Hands {D α : Type} (a : Attempt D α) : D → Nat → α → Prop
  | now {d d' : D} {x : α} : a.run d = (.ok x, d') → Hands a d 0 x
  | later {d d' : D} {x y : α} {j : Nat} : a.run d = (.ok y, d') → Hands a d' j x → Hands a d (j + 1) x
  | retry {d d' : D} {e : Failure} {x : α} {j : Nat} : a.run d = (.error e, d') → Hands a d' j x → Hands a d j x

namespace Attempt.Hands
variable {D E α : Type} {a : Attempt D α} {b : Attempt E α} {d : D} {x y : α} {j : Nat}

/-- Devices that answer alike, and do so afterwards, hand out the same values. -/
theorem congr {R : D → E → Prop} (hR : ∀ d e, R d e → (a.run d).1 = (b.run e).1 ∧ R (a.run d).2 (b.run e).2)
    {e : E} (hde : R d e) (h : Hands a d j x) : Hands b e j x := by
  induction h generalizing e with
  | now hrun =>
    obtain ⟨hresult, -⟩ := hR _ e hde
    rw [hrun] at hresult
    exact .now (Prod.ext hresult.symm rfl)
  | later hrun _ ih =>
    obtain ⟨hresult, hnext⟩ := hR _ e hde
    rw [hrun] at hresult hnext
    exact .later (Prod.ext hresult.symm rfl) (ih hnext)
  | retry hrun _ ih =>
    obtain ⟨hresult, hnext⟩ := hR _ e hde
    rw [hrun] at hresult hnext
    exact .retry (Prod.ext hresult.symm rfl) (ih hnext)

end Attempt.Hands

/-- Polling the keyboard neither takes nor adds a key to wait for. -/
def Keyboard.PollsSpareKeys (K : Type) [Keyboard K] : Prop :=
  ∀ (k k' : K) keypad r, (Keyboard.poll keypad).run k = (r, k') →
    ∀ j x, (Keyboard.wait (D := K)).Hands k' j x ↔ Keyboard.wait.Hands k j x

/-! ### Planned failures -/

/-- The attempt changes nothing that shows in the view `v` of the device. -/
def Attempt.Keeps {D α γ : Type} (v : D → γ) (a : Attempt D α) : Prop := ∀ d, v (a.run d).2 = v d

theorem Attempt.Keeps.bind {D α β γ : Type} {v : D → γ} {a : Attempt D α} {f : α → Attempt D β} (ha : Keeps v a)
    (hf : ∀ x, Keeps v (f x)) : Keeps v (a >>= f) := by
  intro d
  rcases hrun : a.run d with ⟨e | x, d'⟩
  · rw [run_bind_error hrun, ← ha d, hrun]
  · rw [run_bind_ok hrun, hf x, ← ha d, hrun]

theorem Attempt.run_within {S D α : Type} (part : S → D) (put : S → D → S) {a : Attempt D α} {s : S} {r : Except Failure α}
    {d : D} (h : a.run (part s) = (r, d)) : (within part put a).run s = (r, put s d) := by
  show ((a.run (part s)).1, put s (a.run (part s)).2) = _
  rw [h]

namespace FailurePlan
def counted (p : FailurePlan) : FailurePlan := { p with calls := p.calls + 1 }

theorem run_call (p : FailurePlan) :
    call.run p = (match p.counted.due with | some e => .error e | none => .ok (), p.counted) := by
  show (match p.counted.due with | some e => throw e | none => pure () : Attempt FailurePlan Unit).run p.counted = _
  cases p.counted.due <;> rfl
end FailurePlan

namespace Rigged
variable {D α : Type}

theorem run_byPlan (a : Attempt D α) (r : Rigged D) : (byPlan a).run r = match r.plan.counted.due with
    | some e => (.error e, { r with plan := r.plan.counted })
    | none => ((a.run r.device).1, { r with plan := r.plan.counted, device := (a.run r.device).2 }) := by
  have hplan := Attempt.run_within (·.plan) (fun (s : Rigged D) p => { s with plan := p }) (FailurePlan.run_call r.plan)
  cases hdue : r.plan.counted.due with
  | some e =>
    rw [hdue] at hplan
    exact Attempt.run_bind_error hplan
  | none =>
    rw [hdue] at hplan
    exact (Attempt.run_bind_ok hplan).trans rfl

end Rigged

/-! ### Scripts of keys -/

namespace RiggedKeyboard

theorem run_planWait (k : RiggedKeyboard) : planWait.run k =
    (match k.waits.counted.due with | some e => .error e | none => .ok (), { k with waits := k.waits.counted }) :=
  Attempt.run_within _ _ (FailurePlan.run_call k.waits)

theorem run_wait_of_due {k : RiggedKeyboard} {e : Failure} (h : k.waits.counted.due = some e) :
    Keyboard.wait.run k = (.error e, { k with waits := k.waits.counted }) := by
  have hplan := run_planWait k
  rw [h] at hplan
  exact Attempt.run_bind_error hplan

theorem run_wait_of_not_due {k : RiggedKeyboard} (h : k.waits.counted.due = none) :
    Keyboard.wait.run k = match k.rawCodes, k.script.presses with
      | code :: rawCodes, _ => (.ok code, { k with waits := k.waits.counted, rawCodes })
      | [], key :: presses => (.ok (key.val : Int), { k with waits := k.waits.counted, script := { k.script with presses } })
      | [], [] => (.error (.fault KeyScript.exhausted), { k with waits := k.waits.counted }) := by
  have hplan := run_planWait k
  rw [h] at hplan
  refine (Attempt.run_bind_ok hplan).trans ?_
  obtain ⟨⟨presses, held, exitAfter, pollCount⟩, polls, waits, rawCodes, flipped⟩ := k
  cases rawCodes with
  | cons code rawCodes => rfl
  | nil => cases presses <;> rfl

/-- All that matters to one who waits for a key. -/
def forWaiting (k : RiggedKeyboard) : List Int × List Key × FailurePlan := (k.rawCodes, k.script.presses, k.waits)

theorem wait_congr {k k' : RiggedKeyboard} (h : k.forWaiting = k'.forWaiting) :
    (Keyboard.wait.run k).1 = (Keyboard.wait.run k').1 ∧
      (Keyboard.wait.run k).2.forWaiting = (Keyboard.wait.run k').2.forWaiting := by
  obtain ⟨⟨presses, held, exitAfter, pollCount⟩, polls, waits, rawCodes, flipped⟩ := k
  obtain ⟨⟨presses', held', exitAfter', pollCount'⟩, polls', waits', rawCodes', flipped'⟩ := k'
  cases h
  cases hdue : waits.counted.due with
  | some e =>
    rw [run_wait_of_due hdue, run_wait_of_due hdue]
    exact ⟨rfl, rfl⟩
  | none =>
    rw [run_wait_of_not_due hdue, run_wait_of_not_due hdue]
    cases rawCodes with
    | cons code rawCodes => exact ⟨rfl, rfl⟩
    | nil => cases presses <;> exact ⟨rfl, rfl⟩

theorem update_forWaiting :
    Attempt.Keeps (fun s : RiggedKeyboard × Keypad => s.1.forWaiting) (Keyboard.update (D := RiggedKeyboard)) := by
  have hplan : Attempt.Keeps (fun s : RiggedKeyboard × Keypad => s.1.forWaiting) planPoll := fun _ => rfl
  refine Attempt.Keeps.bind (fun _ => rfl) fun s => ?_
  cases s.1.flipped with
  | none => exact hplan.bind fun _ _ => rfl
  | some keys => exact Attempt.Keeps.bind (fun _ => rfl) fun _ => hplan.bind fun _ _ => rfl

theorem pollsSpareKeys : Keyboard.PollsSpareKeys RiggedKeyboard := by
  intro k k' keypad r hrun j x
  have hsame : ((Keyboard.poll keypad).run k).2.forWaiting = k.forWaiting := update_forWaiting (k, keypad)
  rw [hrun] at hsame
  constructor
  · intro h
    exact h.congr (fun _ _ => wait_congr) hsame
  · intro h
    exact h.congr (fun _ _ => wait_congr) hsame.symm

end RiggedKeyboard

end Chip8
