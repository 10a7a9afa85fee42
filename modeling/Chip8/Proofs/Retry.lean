import Chip8.Proofs.Outputs

/-! Trying again. A device may fail before it does anything; the cycle is then given up, with the machine as it was and
    the other devices as they were left. A second try finds the same machine and, but for a key or a byte that was
    handed out before the failure, the same inputs, so it comes to what the first one would have come to. -/

namespace Chip8

/-! ### Unreliable hosts -/

/-- How the call failed, if it did. -/
def Call.failure? : Call → Option Failure
  | .draw _ (.error e) | .play (.error e) | .stop (.error e) | .poll _ (.error e) => some e
  | .wait (.error e) | .generate (.error e) => some e
  | _ => none

/-- A host of which any call may fail before it does anything. -/
structure Unreliable (H : Type) where
  host : H
  /-- The failures of the calls to come, counted from zero. -/
  failures : Nat → Option Failure

namespace Unreliable
variable {H α : Type} {u u' : Unreliable H}

/-- The next call is over, and has left the host behind as `host`. -/
def next (u : Unreliable H) (host : H) : Unreliable H := ⟨host, fun k => u.failures (k + 1)⟩

/-- Fails if the next call is to fail, and does what the host does otherwise. -/
def calling (a : Attempt H α) : Attempt (Unreliable H) α :=
  ExceptT.mk fun u =>
    match u.failures 0 with
    | some e => (.error e, u.next u.host)
    | none => let (result, host) := a.run u.host; (result, u.next host)

theorem run_calling {a : Attempt H α} {r : Except Failure α} (h : (calling a).run u = (r, u')) :
    (∃ e, u.failures 0 = some e ∧ r = .error e ∧ u' = u.next u.host) ∨
      (u.failures 0 = none ∧ ∃ host, a.run u.host = (r, host) ∧ u' = u.next host) := by
  change (match u.failures 0 with
    | some e => (.error e, u.next u.host)
    | none => ((a.run u.host).1, u.next (a.run u.host).2)) = (r, u') at h
  cases hf : u.failures 0 with
  | some e =>
    rw [hf] at h
    cases h
    exact .inl ⟨e, rfl, rfl, rfl⟩
  | none =>
    rw [hf] at h
    cases h
    exact .inr ⟨rfl, _, rfl, rfl⟩

instance [Host H] : Host (Unreliable H) where
  draw frame := calling (Host.draw frame)
  play := calling Host.play
  stop := calling Host.stop
  update := ExceptT.mk fun s =>
    match s.1.failures 0 with
    | some e => (.error e, s.1.next s.1.host, s.2)
    | none => let (result, host, written) := Host.update.run (s.1.host, s.2); (result, s.1.next host, written)
  wait := calling Host.wait
  generate := calling Host.generate

theorem run_poll [Host H] (u : Unreliable H) (keypad : Keypad) :
    (Host.poll keypad).run u = (calling (Host.poll keypad)).run u := by
  show ((Host.update.run (u, keypad)).1.map fun x => ((Host.update.run (u, keypad)).2.2, x),
    (Host.update.run (u, keypad)).2.1) = match u.failures 0 with
      | some e => (.error e, u.next u.host)
      | none => (((Host.poll keypad).run u.host).1, u.next ((Host.poll keypad).run u.host).2)
  have hupdate : Host.update.run (u, keypad) = match u.failures 0 with
      | some e => (.error e, u.next u.host, keypad)
      | none => let (result, host, written) := Host.update.run (u.host, keypad); (result, u.next host, written) := rfl
  rw [hupdate]
  cases u.failures 0 <;> rfl

/-- A call fails as it was to fail and leaves the host alone, or it is a call of the host. -/
theorem answered_cases [Host H] {call : Call} (h : call.Answered u u') :
    (∃ e, u.failures 0 = some e ∧ call.failure? = some e ∧ u' = u.next u.host) ∨
      (u.failures 0 = none ∧ ∃ host, call.Answered u.host host ∧ u' = u.next host) := by
  cases call with
  | poll keypad r =>
    have hrun : (calling (Host.poll keypad)).run u = (r, u') := (run_poll u keypad).symm.trans h
    obtain ⟨e, hf, rfl, rfl⟩ | ⟨hf, host, hhost, rfl⟩ := run_calling hrun
    · exact .inl ⟨e, hf, rfl, rfl⟩
    · exact .inr ⟨hf, host, hhost, rfl⟩
  | _ =>
    obtain ⟨e, hf, rfl, rfl⟩ | ⟨hf, host, hhost, rfl⟩ := run_calling h
    · exact .inl ⟨e, hf, rfl, rfl⟩
    · exact .inr ⟨hf, host, hhost, rfl⟩

end Unreliable

section Hosts
variable {H : Type} [Host H] {u u' : Unreliable H} {calls : List Call}

theorem Answers.not_failing (ha : Answers u calls u') (hok : ∀ call ∈ calls, call.failure? = none) :
    ∀ k < calls.length, u.failures k = none := by
  induction calls generalizing u with
  | nil => exact fun k hk => absurd hk (Nat.not_lt_zero k)
  | cons call calls ih =>
    obtain ⟨u₁, hcall, hrest⟩ := ha
    obtain ⟨e, -, he, -⟩ | ⟨hf, host, -, rfl⟩ := Unreliable.answered_cases hcall
    · rw [hok call List.mem_cons_self] at he
      cases he
    · intro k hk
      cases k with
      | zero => exact hf
      | succ k => exact ih hrest (fun other hc => hok other (List.mem_cons_of_mem _ hc)) k (Nat.lt_of_succ_lt_succ hk)

theorem Answers.host (ha : Answers u calls u') (hf : ∀ k < calls.length, u.failures k = none) :
    Answers u.host calls u'.host ∧ u'.failures = fun k => u.failures (k + calls.length) := by
  induction calls generalizing u with
  | nil =>
    obtain rfl : u = u' := ha
    exact ⟨rfl, rfl⟩
  | cons call calls ih =>
    obtain ⟨u₁, hcall, hrest⟩ := ha
    obtain ⟨e, he, -⟩ | ⟨-, host, hhost, rfl⟩ := Unreliable.answered_cases hcall
    · rw [hf 0 (Nat.succ_pos _)] at he
      cases he
    · obtain ⟨hlater, hleft⟩ := ih hrest fun k hk => hf (k + 1) (Nat.succ_lt_succ hk)
      refine ⟨⟨host, hhost, hlater⟩, hleft.trans ?_⟩
      funext k
      show u.failures (k + calls.length + 1) = u.failures (k + (calls.length + 1))
      rfl

/-- Where only the last call failed, it is the one that was to fail, and leaves the host alone. -/
theorem Answers.interrupted {last : Call} (ha : Answers u (calls ++ [last]) u')
    (hok : ∀ call ∈ calls, call.failure? = none) {k : Nat} {e : Failure} (hk : k < (calls ++ [last]).length)
    (hf : u.failures k = some e) : k = calls.length ∧ last.failure? = some e ∧ Answers u.host calls u'.host := by
  obtain ⟨u₁, hfirst, u₂, hlast, rfl⟩ := ha.of_append
  have hnone := hfirst.not_failing hok
  obtain ⟨hhost, hlater⟩ := hfirst.host hnone
  obtain rfl : k = calls.length := by
    have hlt : k < calls.length + 1 := by simpa using hk
    have hge : ¬ k < calls.length := fun hk => by simp [hnone k hk] at hf
    omega
  have hnow : u₁.failures 0 = some e := by simpa [hlater] using hf
  obtain ⟨e', he', hfailure, rfl⟩ | ⟨hnone', -⟩ := Unreliable.answered_cases hlast
  · rw [hnow] at he'
    cases he'
    exact ⟨rfl, hfailure, hhost⟩
  · rw [hnow] at hnone'
    cases hnone'

end Hosts

/-! ### Interrupted cycles -/

theorem Call.failure?_eq_none_iff {call : Call} : call.failure? = none ↔ call.failed = false := by
  unfold failure? failed
  split <;> simp

/-- A turn whose last call failed was given up when the word asked for something, or when it was to be shown. -/
theorem Machine.Turn.interrupted {m : Machine} {w : Word} {before : List Call} {last : Call} {e : Failure}
    {r : Except Failure (Machine × Bool)} (ht : m.Turn w (before ++ [last]) r) (he : last.failure? = some e) :
    r = .error e ∧ ((before = [] ∧ w.Asks [last]) ∨ (last.port ∈ [Port.draw, .play, .poll] ∧
      ∃ asked shown, w.Asks asked ∧ before = asked ++ shown ∧ ∀ call ∈ shown, call.port ∈ [Port.draw, .play])) := by
  have split {front : List Call} {call : Call} (h : before ++ [last] = front ++ [call]) : before = front ∧ last = call := by
    obtain ⟨hfront, hlast⟩ := List.append_inj' h rfl
    exact ⟨hfront, List.singleton_inj.mp hlast⟩
  have tone_port (m₁ : Machine) : ∀ call ∈ m₁.tone, call.port = .play := by
    unfold Machine.tone
    split <;> simp [Call.port]
  generalize hcalls : before ++ [last] = calls at ht
  cases ht with
  | @notExecuted _ e' hx =>
    have hasks := hx.asks
    generalize hr : (Except.error e' : Except Failure Machine) = result at hx
    cases hx with
    | invalid | silent => simp at hcalls
    | @refused _ request =>
      obtain ⟨rfl, rfl⟩ := split (show before ++ [last] = [] ++ [_] from hcalls)
      cases request <;> cases he <;> cases hr <;> exact ⟨rfl, .inl ⟨rfl, hasks⟩⟩
    | @answered _ request =>
      obtain ⟨rfl, rfl⟩ := split (show before ++ [last] = [] ++ [_] from hcalls)
      cases request <;> cases he
  | notDrawn hx =>
    obtain ⟨rfl, rfl⟩ := split hcalls
    cases he
    exact ⟨rfl, .inr ⟨by simp [Call.port], _, [], hx.asks, (List.append_nil _).symm, by simp⟩⟩
  | notPlayed hx =>
    obtain ⟨rfl, rfl⟩ := split (hcalls.trans (List.append_cons _ _ _))
    cases he
    exact ⟨rfl, .inr ⟨by simp [Call.port], _, _, hx.asks, rfl, by simp [Call.port]⟩⟩
  | @notPolled _ m₁ _ hx =>
    rw [← List.cons_append, ← List.append_assoc] at hcalls
    obtain ⟨rfl, rfl⟩ := split hcalls
    cases he
    refine ⟨rfl, .inr ⟨by simp [Call.port], _, _, hx.asks, rfl, fun call hc => ?_⟩⟩
    obtain rfl | hc := List.mem_cons.mp hc
    · simp [Call.port]
    · simp [tone_port m₁ call hc]
  | done hx =>
    rw [← List.cons_append, ← List.append_assoc] at hcalls
    obtain ⟨rfl, rfl⟩ := split hcalls
    cases he

namespace Computer

section Stages
variable {H : Type} [Host H] {c : Computer H} {calls : List Call}

/-- What a turn comes to is what it comes to on the host that gave the answers. -/
theorem run_of_turn {r : Except Failure (Machine × Bool)} {h : H}
    (ht : c.machine.advance.Turn c.machine.fetched calls r) (ha : Answers c.host calls h) :
    (c.machine.advance.turn c.machine.fetched).run c.host = (r, h) := by
  cases ht with
  | notExecuted hx => exact Attempt.run_bind_error (hx.run_execute ha)
  | notDrawn hx =>
    obtain ⟨h₁, hasked, h₂, hd, rfl⟩ := ha.of_append
    have hx : c.Executes _ h₁ := hx.run_execute hasked
    exact hx.turn.trans (Attempt.run_bind_error hd)
  | notPlayed hx hs =>
    obtain ⟨h₁, hasked, h₂, hd, h₃, hp, rfl⟩ := ha.of_append
    have hd : c.Draws _ h₂ := ⟨h₁, hx.run_execute hasked, hd⟩
    exact hd.turn.trans (Attempt.run_bind_error (tickOnHost_of_not_played hs hp))
  | notPolled hx =>
    obtain ⟨h₁, hasked, h₂, hd, hrest⟩ := ha.of_append
    obtain ⟨h₃, htone, h₄, hk, rfl⟩ := Answers.of_append hrest
    have hp : c.Plays _ h₃ := Draws.plays ⟨h₁, hx.run_execute hasked, hd⟩ htone
    exact hp.turn.trans (Attempt.run_bind_error hk)
  | done hx =>
    obtain ⟨h₁, hasked, h₂, hd, hrest⟩ := ha.of_append
    obtain ⟨h₃, htone, h₄, hk, rfl⟩ := Answers.of_append hrest
    have hp : c.Plays _ h₃ := Draws.plays ⟨h₁, hx.run_execute hasked, hd⟩ htone
    exact hp.turn.trans ((Attempt.run_bind_ok hk).trans rfl)

end Stages

section Unreliable
variable {H : Type} [Host H] {c : Computer (Unreliable H)}

/-- No call of the next cycle is to fail. -/
def Undisturbed (c : Computer (Unreliable H)) : Prop := ∀ k < c.calls.length, c.host.failures k = none

/-- The computer with another host. -/
def onHost {H' : Type} (c : Computer H) (host : H') : Computer H' := ⟨c.machine, host, c.journal, c.console⟩

/-- A cycle that is not disturbed is one on the host itself. -/
theorem Undisturbed.cycle_eq (h : c.Undisturbed) : c.cycle.1 = (c.onHost c.host.host).cycle.1 ∧
    c.cycle.2.machine = (c.onHost c.host.host).cycle.2.machine ∧
      c.cycle.2.host.host = (c.onHost c.host.host).cycle.2.host := by
  cases c.cycled with
  | committed ht ha hr hm =>
    have hc := Commits.of_turn (run_of_turn (c := c.onHost c.host.host) ht (ha.host h).1)
    exact ⟨hr.trans hc.reply.symm, hm.trans hc.machine.symm, hc.host.symm⟩
  | failed ht ha hr hm =>
    have hf := Fails.of_turn (run_of_turn (c := c.onHost c.host.host) ht (ha.host h).1)
    exact ⟨hr.trans hf.reply.symm, hm.trans hf.machine.symm, hf.host.symm⟩

/-- A cycle is given up at the call that fails, and those before it are calls of the host. -/
theorem interrupted {k : Nat} {port : Port} {e : Failure} (hport : (c.calls.map Call.port)[k]? = some port)
    (hf : c.host.failures k = some e) : c.cycle.1 = .error e ∧
      ((port ∈ [Port.wait, .generate] ∧ c.cycle.2.host.host = c.host.host) ∨
        (port ∈ [Port.draw, .play, .poll] ∧ ∃ asked shown, c.machine.fetched.Asks asked ∧
          (∀ call ∈ asked, call.failure? = none) ∧ (∀ call ∈ shown, call.port ∈ [Port.draw, .play]) ∧
            Answers c.host.host (asked ++ shown) c.cycle.2.host.host)) := by
  have ha := c.orderly.answers
  have hhalts := c.orderly.halts
  have hcycled := c.cycled
  obtain hnil | ⟨before, last, hcalls⟩ := List.eq_nil_or_concat c.calls
  · rw [hnil] at hport
    cases hport
  rw [List.concat_eq_append] at hcalls
  rw [hcalls] at hport ha
  rw [hcalls, List.dropLast_concat] at hhalts
  have hok : ∀ call ∈ before, call.failure? = none := fun call hc => Call.failure?_eq_none_iff.mpr (hhalts call hc)
  have hk : k < (before ++ [last]).length := by simpa using (List.getElem?_eq_some_iff.mp hport).1
  obtain ⟨rfl, he, hhost⟩ := ha.interrupted hok hk hf
  obtain rfl : last.port = port := by simpa using hport
  have hturn : ∃ r, c.machine.advance.Turn c.machine.fetched (before ++ [last]) r ∧
      c.cycle.1 = r.map fun moved => signal moved.2 := by
    rw [← hcalls]
    cases hcycled with
    | committed ht _ hr _ => exact ⟨_, ht, hr⟩
    | failed ht _ hr _ => exact ⟨_, ht, hr⟩
  obtain ⟨r, ht, hr⟩ := hturn
  obtain ⟨rfl, ⟨rfl, hasks⟩ | ⟨hlast, asked, shown, hasks, rfl, hshown⟩⟩ := ht.interrupted he
  · have hport : last.port ∈ [Port.wait, .generate] := by cases hasks <;> simp [Call.port]
    exact ⟨hr, .inl ⟨hport, Eq.symm hhost⟩⟩
  · exact ⟨hr, .inr ⟨hlast, asked, shown, hasks, fun call hc => hok call (List.mem_append_left _ hc), hshown, hhost⟩⟩

end Unreliable

end Computer

/-! ### Answers before a failure -/

/-- The form of the words that make the request. -/
def Request.form : Request → Form
  | .key => .waitKey
  | .byte => .random

namespace Word.Asks
variable {w : Word} {asked shown : List Call}

theorem eq_call {request : Request} (h : w.Asks asked) (hw : request.form.Fits w) : ∃ r, asked = [request.call r] := by
  cases request with
  | key =>
    cases h with
    | byte r hbyte => exact absurd hbyte (Form.not_random_of_waitKey hw)
    | key r => exact ⟨r, rfl⟩
    | nothing _ hkey => exact absurd hw hkey
  | byte =>
    cases h with
    | byte r => exact ⟨r, rfl⟩
    | key r hkey => exact absurd hw (Form.not_random_of_waitKey hkey)
    | nothing hbyte => exact absurd hw hbyte

/-- Before anything is shown, a word that makes a request has its answer. -/
theorem handed {G A K N : Type} [Graphics G] [Audio A] [Keyboard K] [NumberSource N] {h h' : Devices G A K N}
    (hasks : w.Asks asked) (request : Request) (hw : request.form.Fits w) (hok : ∀ call ∈ asked, call.failure? = none)
    (hshown : ∀ call ∈ shown, call.port ∈ [Port.draw, .play]) (ha : Answers h (asked ++ shown) h') :
    ∃ answer host, (Host.answer (some request)).run h = (.ok answer, host) ∧ SameInputs host h' := by
  obtain ⟨r, rfl⟩ := hasks.eq_call hw
  obtain ⟨host, hcall, hrest⟩ := ha
  have hanswer : (Host.answer (some request)).run h = (r, host) := by cases request <;> exact hcall
  cases r with
  | error e =>
    have hfailed := hok _ (List.mem_singleton_self _)
    cases request <;> cases hfailed
  | ok answer => exact ⟨answer, host, hanswer, .of_answers hrest hshown⟩

end Word.Asks

namespace Devices
variable {G A K N : Type} [Graphics G] [Audio A] [Keyboard K] [NumberSource N] {d d' : Devices G A K N}
  {r : Except Failure Int}

theorem wait_eq (h : Host.wait.run d = (r, d')) :
    Keyboard.wait.run d.keyboard = (r, d'.keyboard) ∧ d' = { d with keyboard := d'.keyboard } := by
  cases h
  exact ⟨rfl, rfl⟩

theorem generate_eq (h : Host.generate.run d = (r, d')) :
    NumberSource.generate.run d.numbers = (r, d'.numbers) ∧ d' = { d with numbers := d'.numbers } := by
  cases h
  exact ⟨rfl, rfl⟩

end Devices

theorem KeyScript.wait_eq_ok {s s' : KeyScript} {code : Int} (h : Keyboard.wait.run s = (.ok code, s')) :
    ∃ key rest, s.presses = key :: rest ∧ s' = { s with presses := rest } := by
  obtain ⟨_ | ⟨key, rest⟩, held, exitAfter, pollCount⟩ := s
  · cases h
  · cases h
    exact ⟨key, rest, rfl, rfl⟩

/-! ### Second tries -/

namespace Computer

section Tries
variable {G A K N : Type} [Graphics G] [Audio A] [Keyboard K] [NumberSource N]

/-- The cycle replies as that of another computer does, and leaves the same machine and the same inputs. -/
structure Redoes (c : Computer (Unreliable (Devices G A K N))) (other : Computer (Devices G A K N)) : Prop where
  reply : c.cycle.1 = other.cycle.1
  machine : c.cycle.2.machine = other.cycle.2.machine
  inputs : SameInputs other.cycle.2.host c.cycle.2.host.host

/-- A cycle that is not disturbed comes to what the same machine comes to on any host with the same inputs. -/
theorem Undisturbed.redoes {c c₀ : Computer (Unreliable (Devices (FrameRecorder Frame) SilentBeeper K N))}
    (h : c.Undisturbed) (hmachine : c.machine = c₀.machine) {host : Devices (FrameRecorder Frame) SilentBeeper K N}
    (hsame : SameInputs host c.host.host) : c.Redoes (c₀.onHost host) := by
  have hinside : SameInside Eq (c₀.onHost host) (c.onHost c.host.host) := ⟨hmachine.symm, hsame⟩
  obtain ⟨hreply, hnext⟩ := cycle_inside Machine.eq_bisimulation hinside
    (allShown_of_answers (c₀.onHost host).orderly.answers) (allShown_of_answers (c.onHost c.host.host).orderly.answers)
  obtain ⟨hreply', hmachine', hhost'⟩ := h.cycle_eq
  exact ⟨hreply'.trans hreply, hmachine'.trans hnext.machine.symm, hhost' ▸ hnext.inputs⟩

end Tries

theorem cycle_of_exhausted {G A N : Type} [Graphics G] [Audio A] [NumberSource N] {c : Computer (Devices G A KeyScript N)}
    (hw : Form.waitKey.Fits c.machine.fetched) (hnone : c.host.keyboard.presses = []) :
    c.cycle.1 = .error (.fault KeyScript.exhausted) := by
  have hwait : Host.wait.run c.host = (.error (.fault KeyScript.exhausted), c.host) := by
    generalize c.host = host at hnone
    obtain ⟨graphics, audio, ⟨presses, held, exitAfter, pollCount⟩, numbers⟩ := host
    obtain rfl : presses = [] := hnone
    rfl
  have hexecute : (c.machine.advance.execute c.machine.fetched).run c.host =
      (.error (.fault KeyScript.exhausted), c.host) := by
    rw [Machine.execute_of_eq_some (Instruction.ofWord?_of_waitKey hw)]
    exact Attempt.run_bind_error hwait
  exact (Fails.of_turn (Attempt.run_bind_error hexecute)).reply

/-- Devices without a player, whose numbers are all the same or are drawn under the keys of a library. -/
abbrev Headless {L : Type} (lib : KeyLibrary L) :=
  Devices (FrameRecorder Frame) SilentBeeper KeyScript (ConstantSource ⊕ DrawnSource lib)

/-- A cycle that was given up because a device failed may be tried again. If nothing fails then, it comes to what the
    first try would have come to, unless the first one had got a key or a byte before the failure: then this one is
    lost, and the cycle comes to what it would have come to with the next one. -/
theorem retry_redoes {L : Type} {lib : KeyLibrary L} {c : Computer (Unreliable (Headless lib))} {k : Nat} {port : Port}
    {e : Failure}
    (hport : (c.calls.map Call.port)[k]? = some port) (hfault : c.host.failures k = some e)
    (hretry : c.cycle.2.Undisturbed) :
    c.cycle.1 = .error e ∧
      (port ∈ [Port.wait, .generate] ∨ (¬ Form.waitKey.Fits c.machine.fetched ∧ ¬ Form.random.Fits c.machine.fetched) →
        c.cycle.2.Redoes (c.onHost c.host.host)) ∧
      (port ∈ [Port.draw, .play, .poll] → Form.waitKey.Fits c.machine.fetched →
        ∃ key rest, c.host.host.keyboard.presses = key :: rest ∧
          c.cycle.2.Redoes (c.onHost { c.host.host with keyboard := { c.host.host.keyboard with presses := rest } }) ∧
            (rest = [] → c.cycle.2.cycle.1 = .error (.fault KeyScript.exhausted))) ∧
      (port ∈ [Port.draw, .play, .poll] → Form.random.Fits c.machine.fetched →
        ∃ byte numbers, NumberSource.generate.run c.host.host.numbers = (.ok byte, numbers) ∧
          c.cycle.2.Redoes (c.onHost { c.host.host with numbers })) := by
  obtain ⟨hreply, hstopped⟩ := interrupted hport hfault
  have hmachine : c.cycle.2.machine = c.machine := machine_of_failed hreply
  have hdisjoint : port ∈ [Port.draw, .play, .poll] → port ∉ [Port.wait, .generate] := by cases port <;> decide
  refine ⟨hreply, fun hearly => ?_, fun hlate hw => ?_, fun hlate hw => ?_⟩
  · refine hretry.redoes hmachine ?_
    obtain ⟨-, hhost⟩ | ⟨hlate, asked, shown, hasks, -, hshown, ha⟩ := hstopped
    · rw [hhost]
      exact ⟨rfl, rfl⟩
    · obtain ⟨hkey, hbyte⟩ := hearly.resolve_left (hdisjoint hlate)
      cases hasks with
      | nothing => exact .of_answers ha hshown
      | byte r hw => exact absurd hw hbyte
      | key r hw => exact absurd hw hkey
  · obtain ⟨hearly, -⟩ | ⟨-, asked, shown, hasks, hok, hshown, ha⟩ := hstopped
    · exact absurd hearly (hdisjoint hlate)
    obtain ⟨code, host, hanswer, hsame⟩ := hasks.handed .key hw hok hshown ha
    obtain ⟨hwait, hhost⟩ := Devices.wait_eq hanswer
    obtain ⟨key, rest, hpresses, hkeyboard⟩ := KeyScript.wait_eq_ok hwait
    rw [hkeyboard] at hhost
    rw [hhost] at hsame
    have hredoes := hretry.redoes hmachine hsame
    refine ⟨key, rest, hpresses, hredoes, ?_⟩
    rintro rfl
    rw [hredoes.reply]
    exact cycle_of_exhausted hw rfl
  · obtain ⟨hearly, -⟩ | ⟨-, asked, shown, hasks, hok, hshown, ha⟩ := hstopped
    · exact absurd hearly (hdisjoint hlate)
    obtain ⟨byte, host, hanswer, hsame⟩ := hasks.handed .byte hw hok hshown ha
    obtain ⟨hgenerate, hhost⟩ := Devices.generate_eq hanswer
    rw [hhost] at hsame
    exact ⟨byte, _, hgenerate, hretry.redoes hmachine hsame⟩

/-- A computer about to wait for a key, whose first frame fails to be drawn. -/
def dropping : Computer (Unreliable (Headless Threefry.library)) :=
  ((start
    { host := { graphics := {}, audio := {}, keyboard := { presses := [5, 7] }, numbers := .inl {} }
      failures := fun k => if k = 1 then some (.host (.breakdown "draw")) else none }
    { name := "", threshold := none, coloured := false, timestamps := false, startedAt := 0 } {}).load [0xF1, 0x0A]).2

/-- The key 5 is lost, and the second try takes the key 7. -/
theorem retry_redoes_dropping : dropping.cycle.1 = .error (.host (.breakdown "draw")) ∧
    (dropping.onHost dropping.host.host).cycle.2.machine.v.get 1 = 5 ∧ dropping.cycle.2.cycle.2.machine.v.get 1 = 7 ∧
      ∃ key rest, dropping.host.host.keyboard.presses = key :: rest ∧
        dropping.cycle.2.Redoes (dropping.onHost { dropping.host.host with
          keyboard := { dropping.host.host.keyboard with presses := rest } }) := by
  have hport : (dropping.calls.map Call.port)[1]? = some .draw := by decide +kernel
  have hretry : dropping.cycle.2.Undisturbed := by
    unfold Undisturbed
    decide +kernel
  obtain ⟨hreply, -, hkey, -⟩ := retry_redoes hport rfl hretry
  obtain ⟨key, rest, hpresses, hredoes, -⟩ := hkey (by decide) (by decide +kernel)
  exact ⟨hreply, by decide +kernel, by decide +kernel, key, rest, hpresses, hredoes⟩

end Computer

end Chip8
