import Chip8.Computer
import Chip8.Proofs.Calls

/-! The stages of a cycle. After the fetch a word is executed, the frame is shown, the timers tick and the keys
    are asked for, and the first stage that fails ends the cycle. `Executed` and `Turn` tell from the calls
    alone, without the host, what comes of it: the outcome of a turn is fixed by the machine, the word and
    the results of the calls. Whatever the host, a turn makes such calls (`turn_records`). -/

namespace Chip8

/-! ### Stages -/

/-- The call with which a request is made, and what came of it. -/
def Request.call : Request → Except Failure Int → Call
  | .key => .wait
  | .byte => .generate

namespace Machine

/-- The calls with which a word is executed, and what comes of it. Only a request makes a call, and it makes
    one. -/
inductive Executed (m : Machine) (w : Word) : List Call → Except Failure Machine → Prop
  | invalid : Instruction.ofWord? w = none → Executed m w [] (.error (.fault (.invalidOpcode w.toNat)))
  | silent {ins : Instruction} : Instruction.ofWord? w = some ins → ins.request? = none →
      Executed m w [] ((ins.perform 0 m).mapError .fault)
  | refused {ins : Instruction} {request : Request} {e : Failure} : Instruction.ofWord? w = some ins →
      ins.request? = some request → Executed m w [request.call (.error e)] (.error e)
  | answered {ins : Instruction} {request : Request} {answer : Int} : Instruction.ofWord? w = some ins →
      ins.request? = some request →
      Executed m w [request.call (.ok answer)] ((ins.perform answer m).mapError .fault)

/-- The calls of a tick that goes through: the tone is played when the sound timer stands at 1. -/
def tone (m : Machine) : List Call := if m.sound = 1 then [.play (.ok ())] else []

/-- The calls of a turn and what comes of it: the stages follow each other up to the first one that fails. -/
inductive Turn (m : Machine) (w : Word) : List Call → Except Failure (Machine × Bool) → Prop
  | notExecuted {asked : List Call} {e : Failure} : m.Executed w asked (.error e) → Turn m w asked (.error e)
  | notDrawn {asked : List Call} {m₁ : Machine} {e : Failure} : m.Executed w asked (.ok m₁) →
      Turn m w (asked ++ [.draw m₁.frame (.error e)]) (.error e)
  | notPlayed {asked : List Call} {m₁ : Machine} {e : Failure} : m.Executed w asked (.ok m₁) → m₁.sound = 1 →
      Turn m w (asked ++ [.draw m₁.frame (.ok ()), .play (.error e)]) (.error e)
  | notPolled {asked : List Call} {m₁ : Machine} {e : Failure} : m.Executed w asked (.ok m₁) →
      Turn m w (asked ++ .draw m₁.frame (.ok ()) :: (m₁.tone ++ [.poll m₁.keypad (.error e)])) (.error e)
  | done {asked : List Call} {m₁ : Machine} {keypad : Keypad} {leave : Bool} : m.Executed w asked (.ok m₁) →
      Turn m w (asked ++ .draw m₁.frame (.ok ()) :: (m₁.tone ++ [.poll m₁.keypad (.ok (keypad, leave))]))
        (.ok ({ m₁.tick with keypad }, leave))

theorem beeps_iff {m : Machine} : m.beeps = true ↔ m.sound = 1 := by
  simp [beeps]

/-! ### What the calls tell -/

theorem mapError_eq_ok {α : Type} {x : Except Fault α} {a : α} : x.mapError Failure.fault = .ok a ↔ x = .ok a := by
  constructor
  · intro h
    cases x <;> cases h
    rfl
  · intro h
    cases h
    rfl

namespace Executed
variable {m m₁ : Machine} {w : Word} {calls : List Call}

/-- A word that was executed stands for an instruction, which was performed with the answer that it asked
    for. -/
theorem perform (h : m.Executed w calls (.ok m₁)) : ∃ ins answer, Instruction.ofWord? w = some ins ∧
    ins.perform answer m = .ok m₁ ∧ ((ins.request? = none ∧ calls = [] ∧ answer = 0) ∨
      ∃ request, ins.request? = some request ∧ calls = [request.call (.ok answer)]) := by
  generalize hr : (Except.ok m₁ : Except Failure Machine) = r at h
  cases h with
  | invalid => cases hr
  | silent hw hq => exact ⟨_, 0, hw, mapError_eq_ok.mp hr.symm, Or.inl ⟨hq, rfl, rfl⟩⟩
  | refused => cases hr
  | answered hw hq => exact ⟨_, _, hw, mapError_eq_ok.mp hr.symm, Or.inr ⟨_, hq, rfl⟩⟩

theorem draw_not_mem {r : Except Failure Machine} (h : m.Executed w calls r) {frame : Frame}
    {shown : Except Failure Unit} : .draw frame shown ∉ calls := by
  cases h with
  | invalid => simp
  | silent => simp
  | @refused _ request => cases request <;> simp [Request.call]
  | @answered _ request => cases request <;> simp [Request.call]

end Executed

theorem draw_not_mem_tone {m : Machine} {frame : Frame} {shown : Except Failure Unit} :
    .draw frame shown ∉ m.tone := by
  unfold tone
  split <;> simp

/-- The frame that is drawn in a turn is that of the machine that executed the word. -/
theorem Turn.drawn {m : Machine} {w : Word} {calls : List Call} {r : Except Failure (Machine × Bool)}
    (h : m.Turn w calls r) {frame : Frame} {shown : Except Failure Unit} (hd : .draw frame shown ∈ calls) :
    ∃ asked m₁, m.Executed w asked (.ok m₁) ∧ frame = m₁.frame := by
  cases h with
  | notExecuted hx => exact absurd hd hx.draw_not_mem
  | notDrawn hx =>
    simp only [List.mem_append, hx.draw_not_mem, List.mem_singleton, Call.draw.injEq, false_or] at hd
    exact ⟨_, _, hx, hd.1⟩
  | notPlayed hx _ =>
    simp [hx.draw_not_mem] at hd
    exact ⟨_, _, hx, hd.1⟩
  | notPolled hx =>
    simp [hx.draw_not_mem, draw_not_mem_tone] at hd
    exact ⟨_, _, hx, hd.1⟩
  | done hx =>
    simp [hx.draw_not_mem, draw_not_mem_tone] at hd
    exact ⟨_, _, hx, hd.1⟩

theorem Turn.stages {m m' : Machine} {w : Word} {calls : List Call} {leave : Bool}
    (h : m.Turn w calls (.ok (m', leave))) : ∃ asked m₁ keypad, m.Executed w asked (.ok m₁) ∧
      calls = asked ++ .draw m₁.frame (.ok ()) :: (m₁.tone ++ [.poll m₁.keypad (.ok (keypad, leave))]) ∧
        m' = { m₁.tick with keypad } := by
  generalize hr : (Except.ok (m', leave) : Except Failure (Machine × Bool)) = r at h
  cases h with
  | notExecuted => cases hr
  | notDrawn => cases hr
  | notPlayed => cases hr
  | notPolled => cases hr
  | done hx =>
    cases hr
    exact ⟨_, _, _, hx, rfl, rfl⟩

/-! ### What the stages call -/

section Stages
variable {H : Type} [Host H]

theorem execute_of_eq_none {m : Machine} {w : Word} (hw : Instruction.ofWord? w = none) :
    (m.execute w : Attempt H Machine) = throw (.fault (.invalidOpcode w.toNat)) := by
  unfold execute
  rw [hw]

theorem execute_of_eq_some {m : Machine} {w : Word} {ins : Instruction} (hw : Instruction.ofWord? w = some ins) :
    (m.execute w : Attempt H Machine) =
      Host.answer ins.request? >>= fun answer => Attempt.ofExcept (ins.perform answer m) := by
  unfold execute
  rw [hw]

theorem answer_records (request : Request) :
    Records (H := H) (Host.answer (some request)) (Host.answer (some request))
      fun calls r => calls = [request.call r] := by
  cases request with
  | key => exact Records.wait
  | byte => exact Records.generate

theorem execute_records (m : Machine) (w : Word) :
    Records (H := H) (m.execute w) (m.execute w) (m.Executed w) := by
  unfold execute
  cases hw : Instruction.ofWord? w with
  | none => exact Records.throw (.invalid hw)
  | some ins =>
    have perform (answer : Int) : Records (H := H) (Attempt.ofExcept (ins.perform answer m))
        (Attempt.ofExcept (ins.perform answer m))
        fun calls r => calls = [] ∧ r = (ins.perform answer m).mapError .fault := Records.ofExcept ⟨rfl, rfl⟩
    dsimp only
    cases hr : ins.request? with
    | none =>
      refine (Records.bind (P := fun calls r => calls = [] ∧ r = .ok 0) (Records.pure ⟨rfl, rfl⟩) perform).mono ?_
      rintro calls r (⟨e, ⟨-, he⟩, -⟩ | ⟨answer, first, second, ⟨rfl, hanswer⟩, ⟨rfl, rfl⟩, rfl⟩)
      · cases he
      · obtain rfl := Except.ok.inj hanswer
        exact .silent hw hr
    | some request =>
      refine (Records.bind (answer_records request) perform).mono ?_
      rintro calls r (⟨e, rfl, rfl⟩ | ⟨answer, first, second, rfl, ⟨rfl, rfl⟩, rfl⟩)
      · exact .refused hw hr
      · exact .answered hw hr

theorem tick_records (m : Machine) : Records (H := H) m.tickOnHost m.tickOnHost fun calls r =>
    (m.sound = 1 ∧ ∃ e, calls = [.play (.error e)] ∧ r = .error e) ∨ (calls = m.tone ∧ r = .ok m.tick) := by
  unfold tickOnHost
  by_cases hs : m.sound = 1
  · rw [beeps_iff.mpr hs]
    refine (Records.bind Records.play fun _ =>
      Records.pure (P := fun calls r => calls = [] ∧ r = .ok m.tick) ⟨rfl, rfl⟩).mono ?_
    rintro calls r (⟨e, rfl, rfl⟩ | ⟨⟨⟩, first, second, rfl, ⟨rfl, rfl⟩, rfl⟩)
    · exact Or.inl ⟨hs, e, rfl, rfl⟩
    · exact Or.inr ⟨by simp [tone, hs], rfl⟩
  · rw [Bool.eq_false_iff.mpr (mt beeps_iff.mp hs)]
    exact Records.pure (Or.inr ⟨by simp [tone, hs], rfl⟩)

theorem poll_records (m : Machine) :
    Records (H := H) (do let (keypad, leave) ← Host.poll m.keypad; return ({ m with keypad }, leave))
      (do let (keypad, leave) ← Host.poll m.keypad; return ({ m with keypad }, leave))
      fun calls r => (∃ e, calls = [.poll m.keypad (.error e)] ∧ r = .error e) ∨
        ∃ keypad leave, calls = [.poll m.keypad (.ok (keypad, leave))] ∧ r = .ok ({ m with keypad }, leave) := by
  refine (Records.bind (Records.poll m.keypad) fun answer =>
    Records.pure (P := fun calls r => calls = [] ∧ r = .ok ({ m with keypad := answer.1 }, answer.2)) ⟨rfl, rfl⟩).mono ?_
  rintro calls r (⟨e, rfl, rfl⟩ | ⟨⟨keypad, leave⟩, first, second, rfl, ⟨rfl, rfl⟩, rfl⟩)
  · exact Or.inl ⟨e, rfl, rfl⟩
  · exact Or.inr ⟨keypad, leave, rfl, rfl⟩

/-- A turn makes the calls of its stages, up to the first one that fails. -/
theorem turn_records (m : Machine) (w : Word) : Records (H := H) (m.turn w) (m.turn w) (m.Turn w) := by
  refine (Records.bind (execute_records m w) fun m₁ => Records.bind (Records.draw m₁.frame) fun _ =>
    Records.bind (tick_records m₁) poll_records).mono ?_
  -- The stage that failed is the last one with calls; each leaves the cases of those behind it.
  rintro calls r (⟨e, hx, rfl⟩ | ⟨m₁, asked, rest, hx, hrest, rfl⟩)
  · exact .notExecuted hx
  rcases hrest with ⟨e, rfl, rfl⟩ | ⟨⟨⟩, drawn, rest, rfl, hrest, rfl⟩
  · exact .notDrawn hx
  rcases hrest with ⟨e, htick, rfl⟩ | ⟨m₂, played, polled, htick, hpoll, rfl⟩
  · rcases htick with ⟨hs, e', rfl, he⟩ | ⟨-, he⟩
    · cases he
      exact .notPlayed hx hs
    · cases he
  · rcases htick with ⟨-, e, -, he⟩ | ⟨rfl, hm⟩
    · cases he
    · cases hm
      rcases hpoll with ⟨e, rfl, rfl⟩ | ⟨keypad, leave, rfl, rfl⟩
      · exact .notPolled hx
      · exact .done hx

end Stages
end Machine

/-! ### Cycles -/

namespace Computer

def signal (leave : Bool) : Signal := if leave then .exit else .proceed

section Failures
variable {H : Type}

theorem logFailure_machine (c : Computer H) (pc : UInt16) (e : Failure) : (c.logFailure pc e).machine = c.machine := by
  cases e <;> rfl

theorem logFailure_host (c : Computer H) (pc : UInt16) (e : Failure) : (c.logFailure pc e).host = c.host := by
  cases e <;> rfl

end Failures

variable {H : Type} [Host H]

/-- The computer with a recorder in the place of its host. -/
def recorded (c : Computer H) : Computer (Recorder H) where
  machine := c.machine
  host := ⟨c.host, []⟩
  journal := c.journal
  console := c.console

def calls (c : Computer H) : List Call := c.recorded.cycle.2.host.calls

def traced (c : Computer H) : Computer H := c.log [.traced c.machine.pc.toNat c.machine.fetched.toNat]

theorem cycle_of_ok {c : Computer H} {m : Machine} {leave : Bool} {h : H}
    (hrun : (c.machine.advance.turn c.machine.fetched).run c.host = (.ok (m, leave), h)) :
    c.cycle = (.ok (signal leave), { c.traced with machine := m, host := h }) := by
  unfold cycle
  dsimp only
  rw [hrun]
  rfl

theorem cycle_of_error {c : Computer H} {e : Failure} {h : H}
    (hrun : (c.machine.advance.turn c.machine.fetched).run c.host = (.error e, h)) :
    c.cycle = (.error e, { c.traced with host := h }.logFailure c.machine.pc e) := by
  unfold cycle
  dsimp only
  rw [hrun]
  rfl

/-- A cycle makes the calls of a turn from the fetched word, which the host answers. If no stage fails, the
    machine is what the turn made of it, else it is as it was. -/
inductive Cycled (c : Computer H) : Prop
  | committed {m : Machine} {leave : Bool} : c.machine.advance.Turn c.machine.fetched c.calls (.ok (m, leave)) →
      Answers c.host c.calls c.cycle.2.host → c.cycle.1 = .ok (signal leave) → c.cycle.2.machine = m → Cycled c
  | failed {e : Failure} : c.machine.advance.Turn c.machine.fetched c.calls (.error e) →
      Answers c.host c.calls c.cycle.2.host → c.cycle.1 = .error e → c.cycle.2.machine = c.machine → Cycled c

theorem cycled (c : Computer H) : c.Cycled := by
  obtain ⟨cs, r, h, hrun, hrec, hans, hturn⟩ := Machine.turn_records c.machine.advance c.machine.fetched c.host
  have hrec := hrec []
  rw [List.nil_append] at hrec
  cases r with
  | ok r =>
    obtain ⟨m, leave⟩ := r
    have hc := cycle_of_ok hrun
    have hcalls : c.calls = cs := by rw [calls, cycle_of_ok (c := c.recorded) hrec]
    rw [← hcalls] at hans hturn
    exact .committed hturn (by rwa [hc]) (by rw [hc]) (by rw [hc])
  | error e =>
    have hc := cycle_of_error hrun
    have hcalls : c.calls = cs := by rw [calls, cycle_of_error (c := c.recorded) hrec, logFailure_host]
    rw [← hcalls] at hans hturn
    exact .failed hturn (by rwa [hc, logFailure_host]) (by rw [hc]) (by rw [hc, logFailure_machine]; rfl)

end Computer

end Chip8
