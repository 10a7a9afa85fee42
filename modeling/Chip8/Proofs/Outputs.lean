import Chip8.Device.FrameRecorder
import Chip8.Device.KeyScript
import Chip8.Device.NumberSources
import Chip8.Device.SilentBeeper
import Chip8.Proofs.Locality
import Chip8.Proofs.RunOrder

/-! Outputs. Frames and tones go out, and of a screen or a beeper nothing comes back but a failure; lines that are
    printed do not come back at all, and the sound timer, which decides the tone, is seen by no instruction. So as long
    as nothing fails to be shown, computers with the same inputs reply alike, whatever they are shown with. -/

namespace Chip8

/-! ### Inputs -/

/-- The hosts have the same keyboard and the same source of numbers. -/
structure SameInputs {G A G' A' K N : Type} (h : Devices G A K N) (h' : Devices G' A' K N) : Prop where
  keyboard : h'.keyboard = h.keyboard
  numbers : h'.numbers = h.numbers

namespace SameInputs
variable {G A G' A' G'' A'' K N : Type}

theorem symm {h : Devices G A K N} {h' : Devices G' A' K N} (hsame : SameInputs h h') : SameInputs h' h :=
  ⟨hsame.keyboard.symm, hsame.numbers.symm⟩

theorem trans {h : Devices G A K N} {h' : Devices G' A' K N} {h'' : Devices G'' A'' K N} (first : SameInputs h h')
    (second : SameInputs h' h'') : SameInputs h h'' :=
  ⟨second.keyboard.trans first.keyboard, second.numbers.trans first.numbers⟩

variable [Graphics G] [Audio A] [Graphics G'] [Audio A'] [Keyboard K] [NumberSource N]

theorem answer (request : Request) : Attempt.Agree (@SameInputs G A G' A' K N) Eq
    (Host.answer (some request)) (Host.answer (some request)) := by
  rintro d e ⟨hkeyboard, hnumbers⟩
  cases request with
  | key =>
    show Matches Eq (Keyboard.wait.run d.keyboard).1 (Keyboard.wait.run e.keyboard).1 ∧
      SameInputs { d with keyboard := (Keyboard.wait.run d.keyboard).2 }
        { e with keyboard := (Keyboard.wait.run e.keyboard).2 }
    rw [hkeyboard]
    exact ⟨.refl (fun _ => rfl) _, rfl, hnumbers⟩
  | byte =>
    show Matches Eq (NumberSource.generate.run d.numbers).1 (NumberSource.generate.run e.numbers).1 ∧
      SameInputs { d with numbers := (NumberSource.generate.run d.numbers).2 }
        { e with numbers := (NumberSource.generate.run e.numbers).2 }
    rw [hnumbers]
    exact ⟨.refl (fun _ => rfl) _, hkeyboard, rfl⟩

theorem poll (keypad : Keypad) :
    Attempt.Agree (@SameInputs G A G' A' K N) Eq (Host.poll keypad) (Host.poll keypad) := by
  rintro d e ⟨hkeyboard, hnumbers⟩
  show Matches Eq ((Keyboard.poll keypad).run d.keyboard).1 ((Keyboard.poll keypad).run e.keyboard).1 ∧
    SameInputs { d with keyboard := ((Keyboard.poll keypad).run d.keyboard).2 }
      { e with keyboard := ((Keyboard.poll keypad).run e.keyboard).2 }
  rw [hkeyboard]
  exact ⟨.refl (fun _ => rfl) _, rfl, hnumbers⟩

theorem draw {d d' : Devices G A K N} {frame : Frame} {r : Except Failure Unit}
    (h : (Host.draw frame).run d = (r, d')) : SameInputs d d' := by
  cases h
  exact ⟨rfl, rfl⟩

theorem play {d d' : Devices G A K N} {r : Except Failure Unit} (h : Host.play.run d = (r, d')) : SameInputs d d' := by
  cases h
  exact ⟨rfl, rfl⟩

theorem of_answers {h h' : Devices G A K N} {calls : List Call} (ha : Answers h calls h')
    (hports : ∀ call ∈ calls, call.port ∈ [Port.draw, .play]) : SameInputs h h' := by
  induction calls generalizing h with
  | nil =>
    obtain rfl : h = h' := ha
    exact ⟨rfl, rfl⟩
  | cons call calls ih =>
    obtain ⟨h₁, hcall, hrest⟩ := ha
    have hlater : SameInputs h₁ h' := ih hrest fun other hc => hports other (List.mem_cons_of_mem _ hc)
    have hport := hports call List.mem_cons_self
    cases call with
    | draw frame r => exact trans (draw hcall) hlater
    | play r => exact trans (play hcall) hlater
    | _ => simp [Call.port] at hport

end SameInputs

/-- No frame and no tone failed to be shown among the calls. -/
def AllShown (calls : List Call) : Prop := ∀ call ∈ calls, call.port ∈ [Port.draw, .play] → call.failed = false

/-- A recorder takes every frame and a silent beeper every tone. -/
theorem allShown_of_answers {K N : Type} [Keyboard K] [NumberSource N] {calls : List Call}
    {h h' : Devices (FrameRecorder Frame) SilentBeeper K N} (ha : Answers h calls h') : AllShown calls := by
  induction calls generalizing h with
  | nil => exact fun _ hc => absurd hc List.not_mem_nil
  | cons call calls ih =>
    obtain ⟨h₁, hcall, hrest⟩ := ha
    intro other hc hport
    obtain rfl | hc := List.mem_cons.mp hc
    · cases other with
      | draw | play =>
        cases hcall
        rfl
      | _ => simp [Call.port] at hport
    · exact ih hrest other hc hport

/-! ### Machines -/

namespace Machine

theorem sound_not_seen (ins : Instruction) (m : Machine) : Part.sound ∉ ins.sees m := by
  cases ins with
  | skip condition => cases condition <;> simp [Instruction.sees, Condition.sees]
  | _ => simp [Instruction.sees, Part.cells]

/-- Machines that differ in the sound timer go on to differ in nothing else. -/
theorem sound_bisimulation : Bisimulation fun m m' => m' = { m with sound := m'.sound } where
  pc h := by rw [h]
  fetched h := by
    rw [h]
    rfl
  keypad h := by rw [h]
  advance h := by
    rw [h]
    rfl
  perform ins answer h := by
    have hbefore := sameBut_sound_iff.mpr h
    refine (Instruction.perform_local hbefore.pc (fun part hpart => hbefore.kept part ?_) answer).mono ?_
    · rintro rfl
      exact sound_not_seen ins _ hpart
    · rintro n n' ⟨hpc, hsettled⟩
      exact sameBut_sound_iff.mp (hbefore.of_settled hpc hsettled)
  finish keypad h := by
    rw [h]
    rfl
  load program h := by
    refine (loadProgram_local (by rw [h]) (by rw [h]) program).mono ?_
    rintro _ _ ⟨memory, rfl, rfl⟩
    rw [h]

end Machine

/-! ### Computers -/

namespace Computer
variable {G A G' A' K N : Type} {R : Machine → Machine → Prop} {c : Computer (Devices G A K N)}
  {c' : Computer (Devices G' A' K N)}

/-- The computers have related machines and the same inputs. -/
structure SameInside (R : Machine → Machine → Prop) (c : Computer (Devices G A K N))
    (c' : Computer (Devices G' A' K N)) : Prop where
  machine : R c.machine c'.machine
  inputs : SameInputs c.host c'.host

variable [Graphics G] [Audio A] [Graphics G'] [Audio A'] [Keyboard K] [NumberSource N]

/-- A cycle in which nothing fails to be shown fails when its word is executed, or it goes on to the poll with the
    inputs that the word left. -/
theorem polls_of_allShown (h : AllShown c.calls) :
    (∃ e host, (c.machine.advance.execute c.machine.fetched).run c.host = (.error e, host) ∧ c.Fails e host) ∨
      ∃ m host host', c.Executes m host ∧ SameInputs host host' ∧ c.Plays m host' := by
  have plays {m : Machine} {host : Devices G A K N} (hp : c.Plays m host) :
      ∃ m host host', c.Executes m host ∧ SameInputs host host' ∧ c.Plays m host' := by
    obtain ⟨host₁, ⟨host₀, hx, hd⟩, hplay⟩ := id hp
    have hdrawn : SameInputs host₀ host₁ := .draw hd
    obtain ⟨-, hplay⟩ | ⟨-, rfl⟩ := hplay
    · exact ⟨m, host₀, host, hx, hdrawn.trans (.play hplay), hp⟩
    · exact ⟨m, host₀, host, hx, hdrawn, hp⟩
  have hcourse := c.course
  generalize c.calls = calls at h hcourse
  generalize c.cycle.1 = reply at hcourse
  cases hcourse with
  | notExecuted _ hx => exact .inl ⟨_, _, hx, .of_turn (Attempt.run_bind_error hx)⟩
  | notDrawn => cases h _ (List.mem_append_right _ List.mem_cons_self) (by simp [Call.port])
  | notPlayed => cases h _ (List.mem_append_right _ (List.mem_cons_of_mem _ List.mem_cons_self)) (by simp [Call.port])
  | notPolled _ hp => exact .inr (plays hp)
  | done _ hp => exact .inr (plays hp)

theorem Fails.inside {e : Failure} {host : Devices G A K N} {host' : Devices G' A' K N} (hf : c.Fails e host)
    (hf' : c'.Fails e host') (h : R c.machine c'.machine) (hsame : SameInputs host host') :
    c'.cycle.1 = c.cycle.1 ∧ SameInside R c.cycle.2 c'.cycle.2 := by
  rw [hf.reply, hf'.reply]
  exact ⟨rfl, by rwa [hf.machine, hf'.machine], by rwa [hf.host, hf'.host]⟩

/-- From the poll on a cycle depends on the inputs alone. -/
theorem Plays.inside (hR : Machine.Bisimulation R) {m m' : Machine} {host : Devices G A K N}
    {host' : Devices G' A' K N} (hp : c.Plays m host) (hp' : c'.Plays m' host') (hm : R m m')
    (hsame : SameInputs host host') (h : R c.machine c'.machine) :
    c'.cycle.1 = c.cycle.1 ∧ SameInside R c.cycle.2 c'.cycle.2 := by
  obtain ⟨hpolled, hleft⟩ := SameInputs.poll m.keypad host host' hsame
  rcases hk : (Host.poll m.keypad).run host with ⟨r, left⟩
  rcases hk' : (Host.poll m.keypad).run host' with ⟨r', left'⟩
  rw [hk, hk'] at hpolled hleft
  rw [← hR.keypad hm] at hk'
  cases hpolled with
  | error e =>
    have hf : c.Fails e left := .of_turn (hp.turn.trans (Attempt.run_bind_error hk))
    have hf' : c'.Fails e left' := .of_turn (hp'.turn.trans (Attempt.run_bind_error hk'))
    exact hf.inside hf' h hleft
  | @ok polled _ heq =>
    subst heq
    have hc : c.Commits { m.tick with keypad := polled.1 } polled.2 left :=
      .of_turn (hp.turn.trans ((Attempt.run_bind_ok hk).trans rfl))
    have hc' : c'.Commits { m'.tick with keypad := polled.1 } polled.2 left' :=
      .of_turn (hp'.turn.trans ((Attempt.run_bind_ok hk').trans rfl))
    have hfinished := hR.finish polled.1 hm
    rw [hc.reply, hc'.reply]
    exact ⟨rfl, by rwa [hc.machine, hc'.machine], by rwa [hc.host, hc'.host]⟩

theorem cycle_inside (hR : Machine.Bisimulation R) (h : SameInside R c c') (hshown : AllShown c.calls)
    (hshown' : AllShown c'.calls) : c'.cycle.1 = c.cycle.1 ∧ SameInside R c.cycle.2 c'.cycle.2 := by
  have hagree : Attempt.Agree SameInputs R
      (c.machine.advance.execute c.machine.fetched : Attempt (Devices G A K N) Machine)
      (c'.machine.advance.execute c'.machine.fetched : Attempt (Devices G' A' K N) Machine) := by
    rw [hR.fetched h.machine]
    exact Machine.execute_agree SameInputs.answer fun ins answer _ => hR.perform ins answer (hR.advance h.machine)
  obtain ⟨hexecuted, hleft⟩ := hagree c.host c'.host h.inputs
  obtain ⟨e, host, hx, hf⟩ | ⟨m, host, polled, hx, hkept, hp⟩ := polls_of_allShown hshown
  · obtain ⟨e', host', hx', hf'⟩ | ⟨m', host', polled', hx', -, -⟩ := polls_of_allShown hshown'
    · rw [hx, hx'] at hexecuted hleft
      cases hexecuted
      exact hf.inside hf' h.machine hleft
    · rw [hx, show _ = _ from hx'] at hexecuted
      cases hexecuted
  · obtain ⟨e', host', hx', -⟩ | ⟨m', host', polled', hx', hkept', hp'⟩ := polls_of_allShown hshown'
    · rw [hx', show _ = _ from hx] at hexecuted
      cases hexecuted
    · rw [show _ = _ from hx, show _ = _ from hx'] at hexecuted hleft
      cases hexecuted with
      | ok hm => exact hp.inside hR hp' hm ((hkept.symm.trans hleft).trans hkept') h.machine

/-! ### Runs -/

end Computer

/-- What came of the order, without the calls that it made. -/
def Event.reply : Event → Event
  | loaded program result => loaded program result
  | cycled _ result => cycled [] result

namespace Computer
variable {G A G' A' K N : Type} [Graphics G] [Audio A] [Graphics G'] [Audio A'] [Keyboard K] [NumberSource N]
  {R : Machine → Machine → Prop} {c : Computer (Devices G A K N)} {c' : Computer (Devices G' A' K N)}

theorem obey_inside (hR : Machine.Bisimulation R) (h : SameInside R c c') (order : Order)
    (hshown : AllShown (c.obey order).1.calls) (hshown' : AllShown (c'.obey order).1.calls) :
    (c'.obey order).1.reply = (c.obey order).1.reply ∧ SameInside R (c.obey order).2 (c'.obey order).2 := by
  cases order with
  | load program =>
    show Event.loaded program (c'.load program).1 = .loaded program (c.load program).1 ∧
      SameInside R (c.load program).2 (c'.load program).2
    obtain ⟨fault, hl, hl'⟩ | ⟨m, m', hm, hl, hl'⟩ := load_related hR h.machine program
    · rw [hl, hl']
      exact ⟨rfl, h⟩
    · rw [hl, hl']
      exact ⟨rfl, hm, h.inputs⟩
  | cycle =>
    obtain ⟨hreply, hnext⟩ := cycle_inside hR h hshown hshown'
    exact ⟨congrArg (Event.cycled []) hreply, hnext⟩

theorem obeyAll_inside (hR : Machine.Bisimulation R) (h : SameInside R c c') (orders : List Order)
    (hshown : AllShown ((c.obeyAll orders).1.flatMap Event.calls))
    (hshown' : AllShown ((c'.obeyAll orders).1.flatMap Event.calls)) :
    (c'.obeyAll orders).1.map Event.reply = (c.obeyAll orders).1.map Event.reply ∧
      SameInside R (c.obeyAll orders).2 (c'.obeyAll orders).2 := by
  induction orders generalizing c c' with
  | nil => exact ⟨rfl, h⟩
  | cons order orders ih =>
    rw [obeyAll_cons, List.flatMap_cons] at hshown hshown'
    obtain ⟨hreply, hnext⟩ := obey_inside hR h order (fun call hc => hshown call (List.mem_append_left _ hc))
      fun call hc => hshown' call (List.mem_append_left _ hc)
    obtain ⟨hreplies, hlast⟩ := ih hnext (fun call hc => hshown call (List.mem_append_right _ hc))
      fun call hc => hshown' call (List.mem_append_right _ hc)
    rw [obeyAll_cons, obeyAll_cons, List.map_cons, List.map_cons, hreply, hreplies]
    exact ⟨rfl, hlast⟩

/-- Computers that are the same inside but for their sound timers, and have any screens, beepers, journals and
    consoles, reply and fail alike to whatever is done with them, as long as nothing fails to be shown, and stay the
    same inside but for their sound timers. -/
theorem outputs_unseen (h : SameInside (fun m m' => m' = { m with sound := m'.sound }) c c') (orders : List Order)
    (hshown : AllShown ((c.obeyAll orders).1.flatMap Event.calls))
    (hshown' : AllShown ((c'.obeyAll orders).1.flatMap Event.calls)) :
    (c'.obeyAll orders).1.map Event.reply = (c.obeyAll orders).1.map Event.reply ∧
      SameInside (fun m m' => m' = { m with sound := m'.sound }) (c.obeyAll orders).2 (c'.obeyAll orders).2 :=
  obeyAll_inside Machine.sound_bisimulation h orders hshown hshown'

/-- A computer about to ask for a byte and for a key. -/
def asking (sound : Byte) (recorder : FrameRecorder Frame) (threshold : Option Level) :
    Computer (Devices (FrameRecorder Frame) SilentBeeper KeyScript ListSource) :=
  let c := ((start { graphics := recorder, audio := {}, keyboard := { presses := [7] }, numbers := ⟨[0x2A]⟩ }
    { name := "", threshold, coloured := true, timestamps := false, startedAt := 0 } {}).load
      [0xC0, 0xFF, 0xF1, 0x0A]).2
  { c with machine := { c.machine with sound } }

/-- Only the one of them plays a tone, keeps its frames and prints lines. -/
theorem outputs_unseen_asking : let loud := asking 1 { history := 2 } (some .debug)
    let quiet := asking 0 {} none
    let orders : List Order := [.cycle, .cycle]
    (loud.obeyAll orders).2.host.audio.playCount = 1 ∧ (quiet.obeyAll orders).2.host.audio.playCount = 0 ∧
      (loud.obeyAll orders).2.console.printed.size = 3 ∧ (quiet.obeyAll orders).2.console.printed.size = 0 ∧
        SameInside (fun m m' => m' = { m with sound := m'.sound }) loud quiet ∧
          (quiet.obeyAll orders).1.map Event.reply = (loud.obeyAll orders).1.map Event.reply ∧
            SameInside (fun m m' => m' = { m with sound := m'.sound }) (loud.obeyAll orders).2
              (quiet.obeyAll orders).2 := by
  intro loud quiet orders
  have h : SameInside (fun m m' => m' = { m with sound := m'.sound }) loud quiet := ⟨rfl, rfl, rfl⟩
  obtain ⟨hreplies, hlast⟩ := outputs_unseen h orders (allShown_of_answers (loud.obeyAll_answers orders))
    (allShown_of_answers (quiet.obeyAll_answers orders))
  exact ⟨by decide +kernel, by decide +kernel, by decide +kernel, by decide +kernel, h, hreplies, hlast⟩

end Computer

end Chip8
