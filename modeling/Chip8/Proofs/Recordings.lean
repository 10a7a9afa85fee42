import Chip8.Proofs.History
import Chip8.Proofs.RunOrder
import Mathlib.Data.List.Basic

/-! What a recorder keeps of the frames that it is to show: how many there were, the last one, and the last few of them
    in their order. A frame that could not be drawn leaves no trace. In a computer the frame that is drawn last is the
    one that the machine has after the cycle, and unless a cycle fails when its frame is already drawn, the recorder
    keeps the frames of exactly those cycles that went through. -/

namespace Chip8

/-! ### Recorders -/

namespace FrameRecorder
variable {F : Type} {history : Int}

/-- No frame was drawn yet. -/
def Fresh (history : Int) (r : FrameRecorder F) : Prop := ∃ scheme, r = { scheme, history }

theorem start_eq_ok {name : Value} {r : FrameRecorder F} : start history name = .ok r ↔
    history < HostError.wide ∧ ∃ scheme, ColourScheme.named name = .ok scheme ∧ r = { scheme, history } := by
  unfold start
  by_cases hwide : HostError.wide ≤ history
  · simp [hwide, Int.not_lt.mpr hwide, bind, Except.bind, throw, throwThe, MonadExceptOf.throw]
  · cases hscheme : ColourScheme.named name with
    | error e => simp [hwide, bind, Except.bind]
    | ok scheme => simp [hwide, Int.not_le.mp hwide, bind, Except.bind, pure, Except.pure, eq_comm]

/-- The recorder to which the frames were drawn, the oldest first. -/
def holding (scheme : ColourScheme) (history : Int) (drawn : List F) : FrameRecorder F where
  scheme
  history
  drawCount := drawn.length
  lastFrame := drawn.getLast?
  kept := lastOf history.toNat drawn

theorem lastOf_concat {α : Type} (n : Nat) (l : List α) (x : α) : lastOf n (lastOf n l ++ [x]) = lastOf n (l ++ [x]) := by
  -- What is cut off before the new entry comes is cut off as well after it.
  have happend : lastOf n l ++ [x] = (l ++ [x]).drop (l.length - n) :=
    (List.drop_append_of_le_length (Nat.sub_le _ _)).symm
  rw [happend, lastOf, lastOf, List.drop_drop]
  simp only [List.length_drop, List.length_append, List.length_singleton]
  congr 1
  omega

theorem record_holding (scheme : ColourScheme) (drawn : List F) (frame : F) :
    (holding scheme history drawn).record frame = holding scheme history (drawn ++ [frame]) := by
  simp [holding, record, lastOf_concat]

theorem foldl_record (scheme : ColourScheme) (drawn frames : List F) :
    frames.foldl record (holding scheme history drawn) = holding scheme history (drawn ++ frames) := by
  induction frames generalizing drawn with
  | nil => rw [List.append_nil, List.foldl_nil]
  | cons frame frames ih => rw [List.foldl_cons, record_holding, ih, List.append_cons drawn frame frames]

/-- The recorder tells how many frames were drawn and which one was the last. With a history it has the last frames, as
    many as the history asks for and there are, the oldest first; without one it has no list. -/
structure Holds (r : FrameRecorder F) (history : Int) (drawn : List F) : Prop where
  drawCount : r.drawCount = drawn.length
  lastFrame : r.lastFrame = drawn.getLast?
  frames : 0 < history → ∃ older kept, drawn = older ++ kept ∧ r.frames = some kept ∧
    (kept.length : Int) = min history drawn.length
  unkept : history ≤ 0 → r.frames = none

theorem holds_holding (scheme : ColourScheme) (drawn : List F) : (holding scheme history drawn).Holds history drawn where
  drawCount := rfl
  lastFrame := rfl
  frames h := by
    refine ⟨drawn.take (drawn.length - history.toNat), lastOf history.toNat drawn, ?_, if_pos h, ?_⟩
    · exact (List.take_append_drop _ _).symm
    · rw [lastOf, List.length_drop]
      omega
  unkept h := if_neg (Int.not_lt.mpr h)

theorem Fresh.holds {r : FrameRecorder F} (h : r.Fresh history) (drawn : List F) :
    (drawn.foldl record r).Holds history drawn := by
  obtain ⟨scheme, rfl⟩ := h
  have hempty : ({ scheme, history } : FrameRecorder F) = holding scheme history [] := by simp [holding, lastOf]
  rw [hempty, foldl_record]
  exact holds_holding scheme drawn

/-! ### Screens -/

/-- A recorder in a screen: a frame that is drawn is recorded, and one that is not leaves the recorder alone. -/
structure Within {G : Type} (recorder : G → FrameRecorder F) (draw : F → Attempt G Unit) : Prop where
  drawn : ∀ {g g' frame}, (draw frame).run g = (.ok (), g') → recorder g' = (recorder g).record frame
  failed : ∀ {g g' frame e}, (draw frame).run g = (.error e, g') → recorder g' = recorder g

theorem within_self : Within (fun r => r) (Graphics.draw (D := FrameRecorder Frame)) where
  drawn h := by
    cases h
    rfl
  failed h := by cases h

theorem Within.rigged {G : Type} {recorder : G → FrameRecorder F} {draw : F → Attempt G Unit}
    (h : Within recorder draw) : Within (fun g => recorder g.device) fun frame => Rigged.byPlan (draw frame) where
  drawn hrun := by
    rw [Rigged.run_byPlan] at hrun
    split at hrun
    · cases hrun
    · obtain ⟨hresult, rfl⟩ := Prod.mk.inj hrun
      exact h.drawn (Prod.ext hresult rfl)
  failed hrun := by
    rw [Rigged.run_byPlan] at hrun
    split at hrun
    · cases hrun
      rfl
    · obtain ⟨hresult, rfl⟩ := Prod.mk.inj hrun
      exact h.failed (Prod.ext hresult rfl)

/-- Draws the frames one after the other. Gives those that were drawn and the screen afterwards. -/
def drawAll {G : Type} (draw : F → Attempt G Unit) : List F → G → List F × G
  | [], g => ([], g)
  | frame :: frames, g =>
    match (draw frame).run g with
    | (.ok _, g) => ((drawAll draw frames g).1.cons frame, (drawAll draw frames g).2)
    | (.error _, g) => drawAll draw frames g

theorem Within.drawAll {G : Type} {recorder : G → FrameRecorder F} {draw : F → Attempt G Unit}
    (h : Within recorder draw) (frames : List F) (g : G) :
    recorder (drawAll draw frames g).2 = (drawAll draw frames g).1.foldl record (recorder g) := by
  induction frames generalizing g with
  | nil => rfl
  | cons frame frames ih =>
    unfold FrameRecorder.drawAll
    rcases hrun : (draw frame).run g with ⟨e | done, g'⟩
    · rw [ih, h.failed hrun]
    · rw [ih, List.foldl_cons, h.drawn hrun]

end FrameRecorder

/-! ### Frames of a run -/

def Call.shown? : Call → Option Frame
  | .draw frame (.ok _) => some frame
  | _ => none

def shownIn (events : List Event) : List Frame := (events.flatMap Event.calls).filterMap Call.shown?

/-- No cycle of the run failed when its frame was already drawn. -/
def FailsUndrawn (events : List Event) : Prop :=
  ∀ event ∈ events, event.succeeded = false → event.calls.filterMap Call.shown? = []

instance (events : List Event) : Decidable (FailsUndrawn events) :=
  inferInstanceAs (Decidable (∀ event ∈ events, event.succeeded = false → event.calls.filterMap Call.shown? = []))

/-- The calls record the frames that they draw. -/
theorem FrameRecorder.Within.answers {G A K N : Type} [Graphics G] [Audio A] [Keyboard K] [NumberSource N]
    {recorder : G → FrameRecorder Frame} (h : Within recorder Graphics.draw) {d d' : Devices G A K N} {calls : List Call}
    (ha : Answers d calls d') :
    recorder d'.graphics = (calls.filterMap Call.shown?).foldl record (recorder d.graphics) := by
  induction calls generalizing d with
  | nil =>
    obtain rfl : d = d' := ha
    rfl
  | cons call calls ih =>
    obtain ⟨d₁, hcall, hrest⟩ := ha
    rw [ih hrest]
    cases call with
    | draw frame r =>
      have hdraw : (Graphics.draw frame).run d.graphics = (r, d₁.graphics) := by
        cases hcall
        rfl
      cases r with
      | ok done =>
        rw [h.drawn hdraw]
        rfl
      | error e =>
        rw [h.failed hdraw]
        rfl
    | _ =>
      cases hcall
      rfl

namespace Computer

section Hosts
variable {H : Type} [Host H] {c : Computer H} {orders : List Order}

/-- A cycle that goes through draws one frame, and the machine keeps it. -/
theorem shown_of_ok {reply : Signal} (hs : c.cycle.1 = .ok reply) :
    c.calls.filterMap Call.shown? = [c.cycle.2.machine.frame] := by
  cases c.cycled with
  | committed hturn _ _ hm =>
    obtain ⟨asked, m, keypad, hx, hcalls, rfl⟩ := hturn.stages
    -- Neither the word nor the tone draws anything, so there is only the draw between them.
    have hasked : asked.filterMap Call.shown? = [] := by
      cases hx.asks <;> rfl
    have htone : m.tone.filterMap Call.shown? = [] := by
      unfold Machine.tone
      split <;> rfl
    rw [hcalls, hm, List.filterMap_append, hasked]
    show m.frame :: (m.tone ++ [Call.poll m.keypad _]).filterMap Call.shown? = _
    rw [List.filterMap_append, htone]
    rfl
  | failed _ _ hr =>
    rw [hr] at hs
    cases hs

/-- The frames of the machine after the cycles of a run, as far as these went through. -/
def committed (c : Computer H) (orders : List Order) : List Frame :=
  (c.history orders).filterMap fun
    | (c, .cycle) => some c.cycle.2.machine.frame
    | (_, .load _) => none

theorem committed_of_ok {reply : Signal} (hs : c.cycle.1 = .ok reply) :
    c.committed (.cycle :: orders) = c.cycle.2.machine.frame :: c.cycle.2.committed orders := by
  have h : (c.obey .cycle).1.succeeded = true := by rw [obey, hs, Event.succeeded]
  simp [committed, history_of_succeeded h, obey]

theorem committed_of_error {e : Failure} (he : c.cycle.1 = .error e) :
    c.committed (.cycle :: orders) = c.cycle.2.committed orders := by
  have h : ¬ (c.obey .cycle).1.succeeded = true := by simp [obey, he, Event.succeeded]
  simp [committed, history_of_not_succeeded h, obey]

theorem committed_load {program : Program} :
    c.committed (.load program :: orders) = (c.load program).2.committed orders := by
  by_cases h : (c.obey (.load program)).1.succeeded = true
  · simp [committed, history_of_succeeded h, obey]
  · simp [committed, history_of_not_succeeded h, obey]

/-- What was drawn in a run is what its cycles came to, unless one failed when its frame was already drawn. -/
theorem shownIn_eq_committed (h : FailsUndrawn (c.obeyAll orders).1) :
    shownIn (c.obeyAll orders).1 = c.committed orders := by
  induction orders generalizing c with
  | nil => rfl
  | cons order orders ih =>
    rw [obeyAll_cons] at h
    have hrest := ih fun event hmem => h event (List.mem_cons_of_mem _ hmem)
    rw [obeyAll_cons, shownIn, List.flatMap_cons, List.filterMap_append]
    cases order with
    | load program =>
      rw [committed_load]
      exact hrest
    | cycle =>
      cases hr : c.cycle.1 with
      | ok reply =>
        rw [committed_of_ok hr]
        exact congrArg₂ List.append (shown_of_ok hr) hrest
      | error e =>
        -- Nothing is committed, and by the hypothesis nothing was drawn either.
        have hnone : c.calls.filterMap Call.shown? = [] :=
          h (c.obey .cycle).1 List.mem_cons_self (by simp [obey, hr, Event.succeeded])
        rw [committed_of_error hr]
        exact congrArg₂ List.append hnone hrest

end Hosts

section Devices
variable {G A K N : Type} [Graphics G] [Audio A] [Keyboard K] [NumberSource N] {c : Computer (Devices G A K N)}
  {recorder : G → FrameRecorder Frame}

theorem lastFrame_of_ok (h : FrameRecorder.Within recorder Graphics.draw) {reply : Signal} (hs : c.cycle.1 = .ok reply) :
    (recorder c.cycle.2.host.graphics).lastFrame = some c.cycle.2.machine.frame := by
  have hanswers : Answers c.host c.calls c.cycle.2.host := c.obey_answers .cycle
  rw [h.answers hanswers, shown_of_ok hs]
  rfl

theorem holds_shownIn {history : Int} (h : FrameRecorder.Within recorder Graphics.draw)
    (hfresh : (recorder c.host.graphics).Fresh history) (orders : List Order) :
    (recorder (c.obeyAll orders).2.host.graphics).Holds history (shownIn (c.obeyAll orders).1) := by
  rw [h.answers (c.obeyAll_answers orders)]
  exact hfresh.holds _

end Devices

/-- For a history that fits into 64 bits there is a recorder, and it is fresh. A fresh one, in a screen whose draws may
    fail, always holds what was drawn so far: over any draws, and over every run of a fresh computer. There a cycle that
    goes through leaves the frame of the machine as the last one, and the frames of a run in which no cycle fails behind
    its draw are those of the cycles that went through. -/
theorem frames_recorded (history : Int) :
    (∀ {F : Type} {name : Value} {r : FrameRecorder F}, FrameRecorder.start history name = .ok r ↔
      history < HostError.wide ∧ ∃ scheme, ColourScheme.named name = .ok scheme ∧ r = { scheme, history }) ∧
    (∀ {F G : Type} {recorder : G → FrameRecorder F} {draw : F → Attempt G Unit}, FrameRecorder.Within recorder draw →
      ∀ g, (recorder g).Fresh history → ∀ frames, (recorder (FrameRecorder.drawAll draw frames g).2).Holds history
        (FrameRecorder.drawAll draw frames g).1) ∧
    ∀ {G A K N : Type} [Graphics G] [Audio A] [Keyboard K] [NumberSource N] {recorder : G → FrameRecorder Frame},
      FrameRecorder.Within recorder Graphics.draw →
        ∀ (host : Devices G A K N) logger console, (recorder host.graphics).Fresh history → ∀ orders,
          let fresh := start host logger console
          let c := (fresh.obeyAll orders).2
          (recorder c.host.graphics).Holds history (shownIn (fresh.obeyAll orders).1) ∧
            (∀ reply, c.cycle.1 = .ok reply →
              (recorder c.cycle.2.host.graphics).lastFrame = some c.cycle.2.machine.frame) ∧
            (FailsUndrawn (fresh.obeyAll orders).1 →
              (recorder c.host.graphics).Holds history (fresh.committed orders)) := by
  refine ⟨FrameRecorder.start_eq_ok, fun hwithin g hfresh frames => ?_, fun hwithin host logger console hfresh orders => ?_⟩
  · rw [hwithin.drawAll]
    exact hfresh.holds _
  · intro fresh c
    have hshown := holds_shownIn (c := fresh) hwithin hfresh orders
    refine ⟨hshown, fun reply => lastFrame_of_ok hwithin, fun hundrawn => ?_⟩
    rwa [shownIn_eq_committed hundrawn] at hshown

/-- A screen that keeps two frames and cannot draw its second one. -/
def sketchpad : Rigged (FrameRecorder Frame) where
  device := { history := 2 }
  plan := { failures := [(2, .host (.breakdown "draw"))] }

def sketching : Computer (Devices (Rigged (FrameRecorder Frame)) SilentBeeper KeyScript ListSource) :=
  start { graphics := sketchpad, audio := {}, keyboard := KeyScript.start [] [] none, numbers := ⟨[]⟩ }
    { name := "", threshold := none, coloured := false, timestamps := false, startedAt := 0 } {}

/-- A program that draws its first byte over and over, and five cycles of it. -/
def sketch : List Order :=
  .load [0xA2, 0x00, 0xD0, 0x01, 0x12, 0x02] :: List.replicate 5 .cycle

/-- Of three blank frames the second one is not drawn. Of the five cycles the second one fails, and the others come to 0,
    3, 3 and again 0 lit points: the last two of these four frames are kept. -/
theorem frames_recorded_sketch :
    (FrameRecorder.drawAll Graphics.draw [Frame.blank, .blank, .blank] sketchpad).2.device.Holds 2 [.blank, .blank] ∧
      FailsUndrawn (sketching.obeyAll sketch).1 ∧
        (sketching.committed sketch).map (fun frame => frame.toList.count 1) = [0, 3, 3, 0] ∧
          ∃ first second third last, sketching.committed sketch = [first, second, third, last] ∧
            (sketching.obeyAll sketch).2.host.graphics.device.frames = some [third, last] ∧
              (sketching.obeyAll sketch).2.host.graphics.device.drawCount = 4 := by
  obtain ⟨-, hdraws, hruns⟩ := frames_recorded 2
  have hfresh : sketchpad.device.Fresh 2 := ⟨ColourScheme.classic, rfl⟩
  have hundrawn : FailsUndrawn (sketching.obeyAll sketch).1 := by decide +kernel
  have hcounts : (sketching.committed sketch).map (fun frame => frame.toList.count 1) = [0, 3, 3, 0] := by
    decide +kernel
  have hlength : (sketching.committed sketch).length = 4 := by simpa using congrArg List.length hcounts
  have hruns := hruns FrameRecorder.within_self.rigged sketching.host sketching.journal.logger {} hfresh sketch
  rw [show start sketching.host sketching.journal.logger {} = sketching from rfl] at hruns
  have hholds := hruns.2.2 hundrawn
  obtain ⟨older, kept, happend, hframes, hkept⟩ := hholds.frames (by decide)
  have hlengths := congrArg List.length happend
  rw [hlength] at hkept hlengths
  rw [List.length_append] at hlengths
  obtain ⟨third, last, rfl⟩ := List.length_eq_two.mp (show kept.length = 2 by omega)
  obtain ⟨first, second, rfl⟩ := List.length_eq_two.mp (show older.length = 2 by omega)
  exact ⟨hdraws FrameRecorder.within_self.rigged sketchpad hfresh _, hundrawn, hcounts, first, second, third, last, happend,
    hframes, hholds.drawCount.trans hlength⟩

end Computer
end Chip8
