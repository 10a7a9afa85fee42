import Chip8.Host

/-! The calls that a host gets. A recorder stands in the place of a host: it does what the host does and takes
    down every call with what came of it. `Records` says of an attempt that it ends alike on both and which
    calls it makes; it holds of an attempt in parts if it holds of the parts. -/

namespace Chip8

/-! ### Attempts -/

namespace Attempt
variable {D S α β : Type}

theorem run_pure (x : α) (d : D) : (pure x : Attempt D α).run d = (.ok x, d) := rfl

theorem run_throw (e : Failure) (d : D) : (throw e : Attempt D α).run d = (.error e, d) := rfl

theorem run_bind (a : Attempt D α) (f : α → Attempt D β) (d : D) :
    (a >>= f).run d = ExceptT.bindCont (m := StateM D) f (a.run d).1 (a.run d).2 := rfl

theorem run_bind_ok {a : Attempt D α} {f : α → Attempt D β} {d d' : D} {x : α} (h : a.run d = (.ok x, d')) :
    (a >>= f).run d = (f x).run d' := by
  rw [run_bind, h]
  rfl

theorem run_bind_error {a : Attempt D α} {f : α → Attempt D β} {d d' : D} {e : Failure}
    (h : a.run d = (.error e, d')) : (a >>= f).run d = (.error e, d') := by
  rw [run_bind, h]
  rfl

theorem run_ofExcept (r : Except Fault α) (d : D) :
    (ofExcept r : Attempt D α).run d = (r.mapError .fault, d) := by
  cases r <;> rfl

theorem run_onCopy (s : S) (a : Attempt (D × S) α) (d : D) : (onCopy s a).run d =
    ((a.run (d, s)).1.map fun x => ((a.run (d, s)).2.2, x), (a.run (d, s)).2.1) := rfl

theorem run_onCopy_ok {a : Attempt (D × S) α} {s s' : S} {d d' : D} {x : α} (h : a.run (d, s) = (.ok x, d', s')) :
    (onCopy s a).run d = (.ok (s', x), d') := by
  rw [run_onCopy, h]
  rfl

theorem run_onCopy_error {a : Attempt (D × S) α} {s s' : S} {d d' : D} {e : Failure}
    (h : a.run (d, s) = (.error e, d', s')) : (onCopy s a).run d = (.error e, d') := by
  rw [run_onCopy, h]
  rfl

end Attempt

/-! ### Recorders -/

inductive Call where
  | draw (frame : Frame) (result : Except Failure Unit)
  | play (result : Except Failure Unit)
  | stop (result : Except Failure Unit)
  | poll (keypad : Keypad) (result : Except Failure (Keypad × Bool))
  | wait (result : Except Failure Int)
  | generate (result : Except Failure Int)

/-- A host and the calls that it got, in order. -/
structure Recorder (H : Type) where
  host : H
  calls : List Call := []

namespace Recorder
variable {H α : Type}

/-- Does what the host does and takes the call down. -/
def taking (call : Except Failure α → Call) (a : Attempt H α) : Attempt (Recorder H) α :=
  ExceptT.mk fun r => let (result, host) := a.run r.host; (result, ⟨host, r.calls ++ [call result]⟩)

theorem run_taking (call : Except Failure α → Call) (a : Attempt H α) (h : H) (before : List Call) :
    (taking call a).run ⟨h, before⟩ = ((a.run h).1, ⟨(a.run h).2, before ++ [call (a.run h).1]⟩) := rfl

instance [Host H] : Host (Recorder H) where
  draw frame := taking (.draw frame) (Host.draw frame)
  play := taking .play Host.play
  stop := taking .stop Host.stop
  update := ExceptT.mk fun (r, keypad) =>
    let (result, host, written) := Host.update.run (r.host, keypad)
    (result, ⟨host, r.calls ++ [.poll keypad (result.map fun leave => (written, leave))]⟩, written)
  wait := taking .wait Host.wait
  generate := taking .generate Host.generate

end Recorder

/-! ### Hosts and their calls -/

section Hosts
variable {H : Type} [Host H]

/-- The host `h` answers the call with its result and is `h'` afterwards. -/
def Call.Answered (h : H) : Call → H → Prop
  | .draw frame r, h' => (Host.draw frame).run h = (r, h')
  | .play r, h' => Host.play.run h = (r, h')
  | .stop r, h' => Host.stop.run h = (r, h')
  | .poll keypad r, h' => (Host.poll keypad).run h = (r, h')
  | .wait r, h' => Host.wait.run h = (r, h')
  | .generate r, h' => Host.generate.run h = (r, h')

def Answers (h : H) : List Call → H → Prop
  | [], h' => h = h'
  | call :: calls, h' => ∃ h₁, call.Answered h h₁ ∧ Answers h₁ calls h'

theorem Answers.append {h h₁ h₂ : H} {calls : List Call} (first : Answers h calls h₁) {more : List Call}
    (second : Answers h₁ more h₂) : Answers h (calls ++ more) h₂ := by
  induction calls generalizing h with
  | nil =>
    obtain rfl : h = h₁ := first
    exact second
  | cons call calls ih =>
    obtain ⟨h', hcall, hrest⟩ := first
    exact ⟨h', hcall, ih hrest⟩

theorem Answers.of_append {h h₂ : H} {calls more : List Call} (ha : Answers h (calls ++ more) h₂) :
    ∃ h₁, Answers h calls h₁ ∧ Answers h₁ more h₂ := by
  induction calls generalizing h with
  | nil => exact ⟨h, rfl, ha⟩
  | cons call calls ih =>
    obtain ⟨h', hcall, hrest⟩ := ha
    obtain ⟨h₁, hfirst, hsecond⟩ := ih hrest
    exact ⟨h₁, ⟨h', hcall, hfirst⟩, hsecond⟩

/-! ### Recording attempts -/

variable {α β : Type}

/-- Whatever host it starts from, `a` makes calls and ends as `P` says, and `b` does the same on a recorder,
    which adds these calls to those that it already holds. -/
def Records (a : Attempt H α) (b : Attempt (Recorder H) α) (P : List Call → Except Failure α → Prop) : Prop :=
  ∀ h, ∃ calls r h', a.run h = (r, h') ∧ (∀ before, b.run ⟨h, before⟩ = (r, ⟨h', before ++ calls⟩)) ∧
    Answers h calls h' ∧ P calls r

namespace Records
variable {a : Attempt H α} {b : Attempt (Recorder H) α} {P Q : List Call → Except Failure α → Prop}

theorem mono (hab : Records a b P) (hPQ : ∀ calls r, P calls r → Q calls r) : Records a b Q := by
  intro h
  obtain ⟨calls, r, h', ha, hb, hans, hP⟩ := hab h
  exact ⟨calls, r, h', ha, hb, hans, hPQ calls r hP⟩

theorem pure {x : α} (hP : P [] (.ok x)) : Records (H := H) (Pure.pure x) (Pure.pure x) P := by
  intro h
  refine ⟨[], .ok x, h, rfl, fun before => ?_, rfl, hP⟩
  rw [List.append_nil]
  rfl

theorem throw {e : Failure} (hP : P [] (.error e)) :
    Records (H := H) (MonadExcept.throw e) (MonadExcept.throw e) P := by
  intro h
  refine ⟨[], .error e, h, rfl, fun before => ?_, rfl, hP⟩
  rw [List.append_nil]
  rfl

theorem ofExcept {x : Except Fault α} (hP : P [] (x.mapError .fault)) :
    Records (H := H) (Attempt.ofExcept x) (Attempt.ofExcept x) P := by
  cases x with
  | ok x => exact Records.pure hP
  | error fault => exact Records.throw hP

theorem taking {call : Except Failure α → Call}
    (hcall : ∀ h r h', a.run h = (r, h') → (call r).Answered h h') :
    Records a (Recorder.taking call a) fun calls r => calls = [call r] := by
  intro h
  obtain ⟨r, h', ha⟩ : ∃ r h', a.run h = (r, h') := ⟨_, _, rfl⟩
  exact ⟨[call r], r, h', ha, fun before => by rw [Recorder.run_taking, ha], ⟨h', hcall h r h' ha, rfl⟩, rfl⟩

/-- An attempt that goes on with the result of another one makes the calls of both. -/
theorem bind {f : α → Attempt H β} {g : α → Attempt (Recorder H) β} {S : α → List Call → Except Failure β → Prop}
    (hab : Records a b P) (hfg : ∀ x, Records (f x) (g x) (S x)) :
    Records (a >>= f) (b >>= g) fun calls r =>
      (∃ e, P calls (.error e) ∧ r = .error e) ∨
        ∃ x first second, P first (.ok x) ∧ S x second r ∧ calls = first ++ second := by
  intro h
  obtain ⟨first, r, h₁, ha, hb, hans, hP⟩ := hab h
  cases r with
  | error e =>
    exact ⟨first, .error e, h₁, Attempt.run_bind_error ha, fun before => Attempt.run_bind_error (hb before), hans,
      Or.inl ⟨e, hP, rfl⟩⟩
  | ok x =>
    obtain ⟨second, r, h₂, hf, hg, hans', hS⟩ := hfg x h₁
    refine ⟨first ++ second, r, h₂, (Attempt.run_bind_ok ha).trans hf, fun before => ?_, hans.append hans',
      Or.inr ⟨x, first, second, hP, hS, rfl⟩⟩
    rw [Attempt.run_bind_ok (hb before), hg, List.append_assoc]

/-! ### Single calls -/

theorem draw (frame : Frame) :
    Records (H := H) (Host.draw frame) (Host.draw frame) fun calls r => calls = [.draw frame r] :=
  taking fun _ _ _ h => h

theorem play : Records (H := H) Host.play Host.play fun calls r => calls = [.play r] := taking fun _ _ _ h => h

theorem poll (keypad : Keypad) :
    Records (H := H) (Host.poll keypad) (Host.poll keypad) fun calls r => calls = [.poll keypad r] :=
  taking fun _ _ _ h => h

theorem wait : Records (H := H) Host.wait Host.wait fun calls r => calls = [.wait r] := taking fun _ _ _ h => h

theorem generate : Records (H := H) Host.generate Host.generate fun calls r => calls = [.generate r] :=
  taking fun _ _ _ h => h

end Records
end Hosts

end Chip8
