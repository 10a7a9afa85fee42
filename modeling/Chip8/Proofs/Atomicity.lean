import Chip8.Device.FrameRecorder
import Chip8.Device.NumberSources
import Chip8.Device.Rigged
import Chip8.Device.SilentBeeper
import Chip8.Proofs.Orders
import Mathlib.Control.Monad.Basic

/-! A cycle is done as a whole or not at all. Whichever stage fails, at whichever device, the cycle fails in the
    same way and the machine is as it was; the devices keep what they did before. A cycle in which no stage
    fails takes over all that execution, tick and poll made of the machine. -/

namespace Chip8.Computer
variable {H : Type} [Host H]

/-! ### Stages on the host -/

/-- The fetched word is executed; that leaves the machine `m` and the host `h`. -/
def Executes (c : Computer H) (m : Machine) (h : H) : Prop :=
  (c.machine.advance.execute c.machine.fetched).run c.host = (.ok m, h)

/-- The word is executed and the frame drawn; that leaves the machine `m` and the host `h`. -/
def Draws (c : Computer H) (m : Machine) (h : H) : Prop :=
  ∃ h₁, c.Executes m h₁ ∧ (Host.draw m.frame).run h₁ = (.ok (), h)

/-- The word is executed, the frame drawn and, if the sound timer stands at 1, the tone played; that leaves the
    machine `m`, whose timers have not ticked yet, and the host `h`. -/
def Plays (c : Computer H) (m : Machine) (h : H) : Prop :=
  ∃ h₁, c.Draws m h₁ ∧ ((m.sound = 1 ∧ Host.play.run h₁ = (.ok (), h)) ∨ (m.sound ≠ 1 ∧ h = h₁))

/-- The cycle fails by `e`: the machine is as it was, and the host is left as `h`. -/
structure Fails (c : Computer H) (e : Failure) (h : H) : Prop where
  reply : c.cycle.1 = .error e
  machine : c.cycle.2.machine = c.machine
  host : c.cycle.2.host = h

/-- The cycle succeeds: it leaves the machine `m` and the host `h`, and tells whether to leave. -/
structure Commits (c : Computer H) (m : Machine) (leave : Bool) (h : H) : Prop where
  reply : c.cycle.1 = .ok (signal leave)
  machine : c.cycle.2.machine = m
  host : c.cycle.2.host = h

/-! ### Turns by stages -/

section Turns
variable {c : Computer H} {m : Machine} {e : Failure} {h h₁ : H}

theorem Fails.of_turn (hrun : (c.machine.advance.turn c.machine.fetched).run c.host = (.error e, h)) :
    c.Fails e h := by
  have hc := cycle_of_error hrun
  exact ⟨by rw [hc], by rw [hc, logFailure_machine]; rfl, by rw [hc, logFailure_host]⟩

theorem Commits.of_turn {leave : Bool}
    (hrun : (c.machine.advance.turn c.machine.fetched).run c.host = (.ok (m, leave), h)) : c.Commits m leave h := by
  have hc := cycle_of_ok hrun
  exact ⟨by rw [hc], by rw [hc], by rw [hc]⟩

theorem tickOnHost_of_played (hs : m.sound = 1) (hp : Host.play.run h = (.ok (), h₁)) :
    (m.tickOnHost).run h = (.ok m.tick, h₁) := by
  unfold Machine.tickOnHost
  rw [Machine.beeps_iff.mpr hs]
  exact (Attempt.run_bind_ok hp).trans rfl

theorem tickOnHost_of_not_played (hs : m.sound = 1) (hp : Host.play.run h = (.error e, h₁)) :
    (m.tickOnHost).run h = (.error e, h₁) := by
  unfold Machine.tickOnHost
  rw [Machine.beeps_iff.mpr hs]
  exact Attempt.run_bind_error hp

theorem tickOnHost_of_silent (hs : m.sound ≠ 1) : (m.tickOnHost).run h = (.ok m.tick, h) := by
  unfold Machine.tickOnHost
  rw [Bool.eq_false_iff.mpr (mt Machine.beeps_iff.mp hs)]
  rfl

theorem Executes.turn (hx : c.Executes m h) : (c.machine.advance.turn c.machine.fetched).run c.host =
    (do Host.draw m.frame
        let m ← m.tickOnHost
        let (keypad, leave) ← Host.poll m.keypad
        return ({ m with keypad }, leave) : Attempt H (Machine × Bool)).run h :=
  Attempt.run_bind_ok hx

theorem Draws.turn (hd : c.Draws m h) : (c.machine.advance.turn c.machine.fetched).run c.host =
    (do let m ← m.tickOnHost
        let (keypad, leave) ← Host.poll m.keypad
        return ({ m with keypad }, leave) : Attempt H (Machine × Bool)).run h := by
  obtain ⟨h₁, hx, hd⟩ := hd
  exact hx.turn.trans (Attempt.run_bind_ok hd)

theorem Plays.turn (hp : c.Plays m h) : (c.machine.advance.turn c.machine.fetched).run c.host =
    (do let (keypad, leave) ← Host.poll m.keypad
        return ({ m.tick with keypad }, leave) : Attempt H (Machine × Bool)).run h := by
  obtain ⟨h₁, hd, ⟨hs, hp⟩ | ⟨hs, rfl⟩⟩ := hp
  · exact hd.turn.trans (Attempt.run_bind_ok (tickOnHost_of_played hs hp))
  · exact hd.turn.trans (Attempt.run_bind_ok (tickOnHost_of_silent hs))

/-- What the keyboard wrote before it failed was written on a copy. -/
theorem Plays.turn_of_not_updated {keypad : Keypad} (hp : c.Plays m h₁)
    (hk : Host.update.run (h₁, m.keypad) = (.error e, h, keypad)) :
    (c.machine.advance.turn c.machine.fetched).run c.host = (.error e, h) :=
  hp.turn.trans (Attempt.run_bind_error (Attempt.run_onCopy_error hk))

theorem Plays.turn_of_updated {keypad : Keypad} {leave : Bool} (hp : c.Plays m h₁)
    (hk : Host.update.run (h₁, m.keypad) = (.ok leave, h, keypad)) :
    (c.machine.advance.turn c.machine.fetched).run c.host = (.ok ({ m.tick with keypad }, leave), h) :=
  hp.turn.trans ((Attempt.run_bind_ok (Attempt.run_onCopy_ok hk)).trans rfl)

end Turns

/-! ### Atomicity -/

theorem machine_of_failed {c : Computer H} {e : Failure} (he : c.cycle.1 = .error e) :
    c.cycle.2.machine = c.machine := by
  cases c.cycled with
  | committed _ _ hr _ =>
    rw [hr] at he
    cases he
  | failed _ _ _ hm => exact hm

theorem plays_of_ok {c : Computer H} {s : Signal} (hs : c.cycle.1 = .ok s) :
    ∃ m h₁ leave h keypad, c.Plays m h₁ ∧ Host.update.run (h₁, m.keypad) = (.ok leave, h, keypad) := by
  have not_failed {e : Failure} {h : H} (hf : c.Fails e h) : False := by
    rw [hf.reply] at hs
    cases hs
  have polled {m : Machine} {h₁ : H} (hp : c.Plays m h₁) : ∃ m h₁ leave h keypad, c.Plays m h₁ ∧
      Host.update.run (h₁, m.keypad) = (.ok leave, h, keypad) := by
    rcases hk : Host.update.run (h₁, m.keypad) with ⟨e | leave, h, keypad⟩
    · exact (not_failed (.of_turn (hp.turn_of_not_updated hk))).elim
    · exact ⟨m, h₁, leave, h, keypad, hp, hk⟩
  -- Stage by stage: if one failed, so did the cycle.
  rcases hx : (c.machine.advance.execute c.machine.fetched).run c.host with ⟨e | m, h₁⟩
  · exact (not_failed (.of_turn (Attempt.run_bind_error hx))).elim
  have hx : c.Executes m h₁ := hx
  rcases hd : (Host.draw m.frame).run h₁ with ⟨e | ⟨⟩, h₂⟩
  · exact (not_failed (.of_turn (hx.turn.trans (Attempt.run_bind_error hd)))).elim
  have hd : c.Draws m h₂ := ⟨h₁, hx, hd⟩
  by_cases hsound : m.sound = 1
  · rcases hp : Host.play.run h₂ with ⟨e | ⟨⟩, h₃⟩
    · exact (not_failed (.of_turn (hd.turn.trans (Attempt.run_bind_error (tickOnHost_of_not_played hsound hp))))).elim
    · exact polled ⟨h₂, hd, Or.inl ⟨hsound, hp⟩⟩
  · exact polled ⟨h₂, hd, Or.inr ⟨hsound, rfl⟩⟩

/-- Whatever the machine and the devices, a cycle fails as the first of its stages that fails, and then the
    machine is as it was, also if the keyboard has written into its copy of the keypad; if no stage fails, the
    cycle commits what all of them made of the machine. So the machine after a run is the one before it, moved by
    the orders that succeeded, one after the other. -/
theorem cycle_atomic (c : Computer H) :
    (∀ e, c.cycle.1 = .error e → c.cycle.2.machine = c.machine) ∧
      (∀ e h, (c.machine.advance.execute c.machine.fetched).run c.host = (.error e, h) → c.Fails e h) ∧
      (∀ m h₁ e h, c.Executes m h₁ → (Host.draw m.frame).run h₁ = (.error e, h) → c.Fails e h) ∧
      (∀ m h₁ e h, c.Draws m h₁ → m.sound = 1 → Host.play.run h₁ = (.error e, h) → c.Fails e h) ∧
      (∀ m h₁ e h keypad, c.Plays m h₁ → Host.update.run (h₁, m.keypad) = (.error e, h, keypad) → c.Fails e h) ∧
      (∀ m h₁ leave h keypad, c.Plays m h₁ → Host.update.run (h₁, m.keypad) = (.ok leave, h, keypad) →
        c.Commits { m.tick with keypad } leave h) ∧
      (∀ s, c.cycle.1 = .ok s → ∃ m h₁ leave h keypad, c.Plays m h₁ ∧
        Host.update.run (h₁, m.keypad) = (.ok leave, h, keypad) ∧ c.Commits { m.tick with keypad } leave h) ∧
      ∀ orders : List Order, ((c.obeyAll orders).1.filterMap Event.move?).foldlM Machine.move c.machine =
        .ok (c.obeyAll orders).2.machine := by
  refine ⟨fun e => machine_of_failed, ?_, ?_, ?_, ?_, ?_, ?_, c.obeyAll_machine⟩
  · intro e h hx
    exact .of_turn (Attempt.run_bind_error hx)
  · intro m h₁ e h hx hd
    exact .of_turn (hx.turn.trans (Attempt.run_bind_error hd))
  · intro m h₁ e h hd hs hp
    exact .of_turn (hd.turn.trans (Attempt.run_bind_error (tickOnHost_of_not_played hs hp)))
  · intro m h₁ e h keypad hp hk
    exact .of_turn (hp.turn_of_not_updated hk)
  · intro m h₁ leave h keypad hp hk
    exact .of_turn (hp.turn_of_updated hk)
  · intro s hs
    obtain ⟨m, h₁, leave, h, keypad, hp, hk⟩ := plays_of_ok hs
    exact ⟨m, h₁, leave, h, keypad, hp, hk, .of_turn (hp.turn_of_updated hk)⟩

/-- A computer with one instruction to execute, whose keyboard flips a key and then fails. -/
def flaky : Computer (Devices (FrameRecorder Frame) SilentBeeper RiggedKeyboard ListSource) :=
  ((start
    { graphics := {}
      audio := {}
      keyboard := { script := {}, polls := { failures := [(1, .host (.breakdown "poll"))] }, flipped := some [3] }
      numbers := ⟨[]⟩ }
    { name := "", threshold := none, coloured := false, timestamps := false, startedAt := 0 } {}).load [0x60, 0x05]).2

/-- The instruction was executed, the frame drawn and the key flipped on the copy of the keypad, but the machine did
    not change; the devices did. -/
theorem cycle_atomic_flaky : flaky.cycle.1 = .error (.host (.breakdown "poll")) ∧
    (Host.update.run (flaky.host, flaky.machine.keypad)).2.2 ≠ flaky.machine.keypad ∧
      flaky.cycle.2.machine = flaky.machine ∧ flaky.cycle.2.host.graphics.drawCount = 1 ∧
        flaky.cycle.2.host.keyboard.polls.calls = 1 := by
  have hfail : flaky.cycle.1 = .error (.host (.breakdown "poll")) := by decide +kernel
  exact ⟨hfail, by decide +kernel, (cycle_atomic flaky).1 _ hfail, by decide +kernel, by decide +kernel⟩

end Chip8.Computer
