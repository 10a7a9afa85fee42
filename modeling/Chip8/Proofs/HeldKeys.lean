import Chip8.Proofs.Parts
import Chip8.Proofs.ProgramCounter
import Chip8.Proofs.RunOrder
import Mathlib.Data.List.Induction

/-! Keys that are held down. The keys are polled at the end of a cycle, and a cycle that fails takes none over. So the
    keypad shows the keys that were held when a cycle last went through, and the skips go by these: what is held during
    a cycle counts from the next one on. -/

namespace Chip8

/-! ### Polls of a script -/

namespace KeyScript

/-- The script `n` polls later, whatever keys were waited for in between. -/
structure Polled (s : KeyScript) (n : Nat) (s' : KeyScript) : Prop where
  held : s'.held = s.held
  exitAfter : s'.exitAfter = s.exitAfter
  pollCount : s'.pollCount = s.pollCount + n

variable {s s₁ s' : KeyScript}

theorem Polled.refl (s : KeyScript) : s.Polled 0 s := ⟨rfl, rfl, rfl⟩

theorem Polled.trans {m n : Nat} (first : s.Polled m s₁) (second : s₁.Polled n s') : s.Polled (m + n) s' :=
  ⟨second.held.trans first.held, second.exitAfter.trans first.exitAfter,
    by rw [second.pollCount, first.pollCount, Nat.add_assoc]⟩

theorem polled_of_wait {r : Except Failure Int} (h : Keyboard.wait.run s = (r, s')) : s.Polled 0 s' := by
  obtain ⟨_ | ⟨key, presses⟩, held, exitAfter, pollCount⟩ := s
  · cases h
    exact .refl _
  · cases h
    exact ⟨rfl, rfl, rfl⟩

/-- A poll of a script never fails, and the keypad it was given does not matter. -/
theorem polled_of_poll {pad : Keypad} {r : Except Failure (Keypad × Bool)} (h : (Keyboard.poll pad).run s = (r, s')) :
    s.Polled 1 s' ∧ r = .ok (keypad s.held, s'.leaves) := by
  cases h
  exact ⟨⟨rfl, rfl, rfl⟩, rfl⟩

theorem get_keypad {keys : List Key} {k : Key} : (keypad keys).get k = true ↔ k ∈ keys := by
  have hget : (keypad keys).get k = keys.contains k := Vector.getElem_ofFn k.isLt
  rw [hget, List.contains_iff_mem]

end KeyScript

theorem Machine.initial_keypad : initial.keypad = KeyScript.keypad [] := by decide

/-! ### The poll of a cycle -/

theorem Machine.count_poll_tone (m : Machine) : (m.tone.map Call.port).count .poll = 0 := by
  unfold tone
  split <;> rfl

namespace Computer

section Hosts
variable {H : Type} [Host H] {c : Computer H}

omit [Host H] in
theorem load_host (c : Computer H) (program : Program) : (c.load program).2.host = c.host := by
  unfold load
  cases c.machine.loadProgram program <;> rfl

omit [Host H] in
theorem load_keypad (c : Computer H) (program : Program) : (c.load program).2.machine.keypad = c.machine.keypad := by
  unfold load
  cases hm : c.machine.loadProgram program with
  | error fault => rfl
  | ok m =>
    obtain ⟨-, rfl⟩ := Machine.loadProgram_eq_ok.mp hm
    rfl

/-- A cycle that goes through polls the keys once, behind all its other calls. -/
theorem poll_of_ok {reply : Signal} (hs : c.cycle.1 = .ok reply) : ∃ calls h pad leave,
    Answers c.host calls h ∧ (calls.map Call.port).count .poll = 0 ∧
      (Host.poll pad).run h = (.ok (c.cycle.2.machine.keypad, leave), c.cycle.2.host) ∧ reply = signal leave := by
  cases c.cycled with
  | committed hturn ha hr hm =>
    obtain ⟨asked, m, keypad, hx, hcalls, rfl⟩ := hturn.stages
    rw [hr] at hs
    rw [hcalls, ← List.cons_append, ← List.append_assoc] at ha
    obtain ⟨h, hbefore, h', hpoll, rfl⟩ := ha.of_append
    refine ⟨_, h, m.keypad, _, hbefore, ?_, hm ▸ hpoll, (Except.ok.inj hs).symm⟩
    simp [hx.asks.count_stage, m.count_poll_tone, Call.port]
  | failed _ _ hr _ =>
    rw [hr] at hs
    cases hs

/-- A cycle that fails has not polled the keys, unless it is the poll that failed. -/
theorem poll_of_error {e : Failure} (he : c.cycle.1 = .error e) :
    (∃ calls, Answers c.host calls c.cycle.2.host ∧ (calls.map Call.port).count .poll = 0) ∨
      ∃ h pad, (Host.poll pad).run h = (.error e, c.cycle.2.host) := by
  cases c.cycled with
  | committed _ _ hr _ =>
    rw [hr] at he
    cases he
  | @failed e' hturn ha hr _ =>
    obtain rfl : e' = e := Except.error.inj (hr.symm.trans he)
    generalize c.calls = calls at hturn ha
    -- The poll is the last stage, so it was called only if all others went through.
    cases hturn with
    | notExecuted hx => exact .inl ⟨_, ha, hx.asks.count_stage (by decide)⟩
    | notDrawn hx => exact .inl ⟨_, ha, by simp [hx.asks.count_stage, Call.port]⟩
    | notPlayed hx => exact .inl ⟨_, ha, by simp [hx.asks.count_stage, Call.port]⟩
    | notPolled hx =>
      rw [← List.cons_append, ← List.append_assoc] at ha
      obtain ⟨h, -, h', hpoll, rfl⟩ := ha.of_append
      exact .inr ⟨h, _, hpoll⟩

end Hosts

end Computer

/-! ### Scripts in a cycle -/

section Scripts
variable {G A N : Type} [Graphics G] [Audio A] [NumberSource N]

theorem Devices.poll_eq {K : Type} [Keyboard K] {d d' : Devices G A K N} {pad : Keypad}
    {r : Except Failure (Keypad × Bool)} (h : (Host.poll pad).run d = (r, d')) :
    (Keyboard.poll pad).run d.keyboard = (r, d'.keyboard) := by
  cases h
  rfl

theorem KeyScript.polled_of_answers {d d' : Devices G A KeyScript N} {calls : List Call} (ha : Answers d calls d') :
    d.keyboard.Polled ((calls.map Call.port).count .poll) d'.keyboard := by
  induction calls generalizing d with
  | nil =>
    obtain rfl : d = d' := ha
    exact .refl _
  | cons call calls ih =>
    obtain ⟨d₁, hcall, hrest⟩ := ha
    rw [List.map_cons, List.count_cons, Nat.add_comm]
    refine Polled.trans ?_ (ih hrest)
    cases call with
    | poll pad r => exact (polled_of_poll (Devices.poll_eq hcall)).1
    | wait r =>
      have hwait : Keyboard.wait.run d.keyboard = (r, d₁.keyboard) := by
        cases hcall
        rfl
      exact polled_of_wait hwait
    | _ =>
      cases hcall
      exact .refl _

namespace Computer
variable {c : Computer (Devices G A KeyScript N)}

/-- A cycle that goes through polls the script once, has the keypad from it, and tells whether it leaves. -/
theorem script_of_ok {reply : Signal} (hs : c.cycle.1 = .ok reply) :
    c.host.keyboard.Polled 1 c.cycle.2.host.keyboard ∧
      c.cycle.2.machine.keypad = KeyScript.keypad c.host.keyboard.held ∧
        reply = signal c.cycle.2.host.keyboard.leaves := by
  obtain ⟨calls, d, pad, leave, hbefore, hnone, hpoll, rfl⟩ := poll_of_ok hs
  have hbefore := KeyScript.polled_of_answers hbefore
  rw [hnone] at hbefore
  obtain ⟨hpolled, hanswer⟩ := KeyScript.polled_of_poll (Devices.poll_eq hpoll)
  obtain ⟨hkeypad, rfl⟩ := Prod.mk.inj (Except.ok.inj hanswer)
  rw [hbefore.held] at hkeypad
  exact ⟨hbefore.trans hpolled, hkeypad, rfl⟩

/-- A cycle that fails has not polled the script. -/
theorem script_of_error {e : Failure} (he : c.cycle.1 = .error e) :
    c.host.keyboard.Polled 0 c.cycle.2.host.keyboard := by
  obtain ⟨calls, hcalls, hnone⟩ | ⟨d, pad, hpoll⟩ := poll_of_error he
  · rw [← hnone]
    exact KeyScript.polled_of_answers hcalls
  · cases (KeyScript.polled_of_poll (Devices.poll_eq hpoll)).2

end Computer
end Scripts

/-! ### Acts -/

/-- What is done with a computer that has a key script. -/
inductive Act where
  | order (order : Order)
  /-- The keys that are held from now on, in place of those before. -/
  | hold (keys : List Int)
  | press (key : Int)

/-- The keys that are held after some acts, of which each may hold others. -/
def heldAfter (keys : List Int) : List Act → List Int
  | [] => keys
  | .hold keys :: acts => heldAfter keys acts
  | _ :: acts => heldAfter keys acts

namespace Computer
variable {G A N : Type} [Graphics G] [Audio A] [NumberSource N]

def hold (c : Computer (Devices G A KeyScript N)) (keys : List Int) : Computer (Devices G A KeyScript N) :=
  { c with host := { c.host with keyboard := c.host.keyboard.hold keys } }

def press (c : Computer (Devices G A KeyScript N)) (key : Int) : Computer (Devices G A KeyScript N) :=
  { c with host := { c.host with keyboard := c.host.keyboard.press key } }

def act (c : Computer (Devices G A KeyScript N)) : Act → Computer (Devices G A KeyScript N)
  | .order order => (c.obey order).2
  | .hold keys => c.hold keys
  | .press key => c.press key

def actAll (c : Computer (Devices G A KeyScript N)) : List Act → Computer (Devices G A KeyScript N)
  | [] => c
  | act :: acts => (c.act act).actAll acts

/-- No cycle among the acts goes through. -/
def Idle (c : Computer (Devices G A KeyScript N)) : List Act → Prop
  | [] => True
  | act :: acts => (act = .order .cycle → ∃ e, c.cycle.1 = .error e) ∧ (c.act act).Idle acts

/-- The keys that were held when a cycle last went through; none if no cycle did. -/
inductive LastPolled (c : Computer (Devices G A KeyScript N)) (keys : List Int) : List Act → List Int → Prop
  | never {acts : List Act} : c.Idle acts → LastPolled c keys acts []
  | since {earlier later : List Act} {reply : Signal} : (c.actAll earlier).cycle.1 = .ok reply →
      (c.actAll earlier).cycle.2.Idle later →
      LastPolled c keys (earlier ++ .order .cycle :: later) (heldAfter keys earlier)

variable {c : Computer (Devices G A KeyScript N)} {keys : List Int} {acts : List Act}

theorem actAll_append (c : Computer (Devices G A KeyScript N)) (acts later : List Act) :
    c.actAll (acts ++ later) = (c.actAll acts).actAll later := by
  induction acts generalizing c with
  | nil => rfl
  | cons act acts ih => exact ih (c.act act)

theorem held_cycle (c : Computer (Devices G A KeyScript N)) :
    c.cycle.2.host.keyboard.held = c.host.keyboard.held := by
  cases hr : c.cycle.1 with
  | ok reply => exact (script_of_ok hr).1.held
  | error e => exact (script_of_error hr).held

theorem held_actAll (hc : c.host.keyboard.held = keys.map Key.ofInt) :
    (c.actAll acts).host.keyboard.held = (heldAfter keys acts).map Key.ofInt := by
  induction acts generalizing c keys with
  | nil => exact hc
  | cons act acts ih =>
    cases act with
    | hold keys' => exact ih rfl
    | press key => exact ih hc
    | order order =>
      refine ih ?_
      cases order with
      | cycle => exact c.held_cycle.trans hc
      | load program =>
        show (c.load program).2.host.keyboard.held = _
        rw [load_host, hc]

/-! ### The last poll -/

theorem keypad_of_act {act : Act} (h : act = .order .cycle → ∃ e, c.cycle.1 = .error e) :
    (c.act act).machine.keypad = c.machine.keypad := by
  match act with
  | .hold _ => rfl
  | .press _ => rfl
  | .order (.load program) => exact c.load_keypad program
  | .order .cycle =>
    obtain ⟨e, he⟩ := h rfl
    exact congrArg Machine.keypad (machine_of_failed he)

theorem Idle.keypad (h : c.Idle acts) : (c.actAll acts).machine.keypad = c.machine.keypad := by
  induction acts generalizing c with
  | nil => rfl
  | cons act acts ih => exact (ih h.2).trans (keypad_of_act h.1)

theorem Idle.concat {act : Act} (h : c.Idle acts)
    (hact : act = .order .cycle → ∃ e, (c.actAll acts).cycle.1 = .error e) : c.Idle (acts ++ [act]) := by
  induction acts generalizing c with
  | nil => exact ⟨hact, trivial⟩
  | cons first acts ih => exact ⟨h.1, ih h.2 hact⟩

theorem LastPolled.concat {act : Act} {polled : List Int} (h : c.LastPolled keys acts polled)
    (hact : act = .order .cycle → ∃ e, (c.actAll acts).cycle.1 = .error e) :
    c.LastPolled keys (acts ++ [act]) polled := by
  cases h with
  | never hidle => exact .never (hidle.concat hact)
  | since hs hidle =>
    rw [actAll_append] at hact
    rw [List.append_assoc, List.cons_append]
    exact .since hs (hidle.concat hact)

theorem exists_lastPolled (c : Computer (Devices G A KeyScript N)) (keys : List Int) (acts : List Act) :
    ∃ polled, c.LastPolled keys acts polled := by
  -- From the back: the last act is a cycle that goes through, or it leaves the last poll where it was.
  induction acts using List.reverseRecOn with
  | nil => exact ⟨[], .never trivial⟩
  | append_singleton acts act ih =>
    obtain ⟨polled, hpolled⟩ := ih
    cases hr : (c.actAll acts).cycle.1 with
    | error e => exact ⟨polled, hpolled.concat fun _ => ⟨e, hr⟩⟩
    | ok reply =>
      by_cases hact : act = .order .cycle
      · subst hact
        exact ⟨_, .since hr trivial⟩
      · exact ⟨polled, hpolled.concat fun h => absurd h hact⟩

theorem LastPolled.keypad {polled : List Int} (h : c.LastPolled keys acts polled)
    (hheld : c.host.keyboard.held = keys.map Key.ofInt) (hkeypad : c.machine.keypad = KeyScript.keypad []) :
    (c.actAll acts).machine.keypad = KeyScript.keypad (polled.map Key.ofInt) := by
  cases h with
  | never hidle => exact hidle.keypad.trans hkeypad
  | since hs hidle =>
    rw [actAll_append]
    exact hidle.keypad.trans ((script_of_ok hs).2.1.trans (congrArg KeyScript.keypad (held_actAll hheld)))

/-! ### Skips -/

section Hosts
variable {H : Type} [Host H]

/-- The fetched word skips if `P` holds and only then: in the machine that it is executed to, and in the one that is
    committed if the cycle goes through. -/
structure SkipsIf (c : Computer H) (P : Prop) : Prop where
  executed : ∀ m h, c.Executes m h → c.machine.Skips m P
  committed : ∀ reply, c.cycle.1 = .ok reply → c.machine.Skips c.cycle.2.machine P

theorem skipsIf_of_reads {c : Computer H} {condition : Condition} {P : Prop}
    (hr : Instruction.Reads c.machine.fetched (.skip condition)) (hP : condition.holds c.machine = true ↔ P) :
    c.SkipsIf P where
  executed m h hx := by
    have hrun := (Machine.execute_of_reads (m := c.machine.advance) hr rfl c.host).symm.trans hx
    have hp := Machine.mapError_eq_ok.mp (Prod.mk.inj hrun).1
    exact .of_bool hP (Instruction.pc_of_fetched_skip hp)
  committed reply hs := skips hs hr hP

/-- What the next cycle makes of the keys, if `held` are held and `polled` were held when a cycle last went through. -/
structure TakesKeys (c : Computer H) (held polled : List Int) : Prop where
  taken : ∀ reply, c.cycle.1 = .ok reply → ∀ k, c.cycle.2.machine.keypad.get k = true ↔ k ∈ held.map Key.ofInt
  kept : ∀ e, c.cycle.1 = .error e → c.cycle.2.machine.keypad = c.machine.keypad
  shown : ∀ k, c.machine.keypad.get k = true ↔ k ∈ polled.map Key.ofInt
  keyDown : Form.skipKeyDown.Fits c.machine.fetched →
    c.SkipsIf (Key.ofInt (c.machine.v.get c.machine.fetched.x).toNat ∈ polled.map Key.ofInt)
  keyUp : Form.skipKeyUp.Fits c.machine.fetched →
    c.SkipsIf (Key.ofInt (c.machine.v.get c.machine.fetched.x).toNat ∉ polled.map Key.ofInt)

end Hosts

theorem takesKeys {polled : List Int} (hheld : c.host.keyboard.held = keys.map Key.ofInt)
    (hkeypad : c.machine.keypad = KeyScript.keypad (polled.map Key.ofInt)) : c.TakesKeys keys polled where
  taken reply hs k := by
    rw [(script_of_ok hs).2.1, hheld, KeyScript.get_keypad]
  kept e he := congrArg Machine.keypad (machine_of_failed he)
  shown k := by
    rw [hkeypad, KeyScript.get_keypad]
  keyDown hf := by
    refine skipsIf_of_reads (.skipKeyDown hf) ?_
    show c.machine.keypad.get _ = true ↔ _
    rw [hkeypad, KeyScript.get_keypad]
    rfl
  keyUp hf := by
    refine skipsIf_of_reads (.skipKeyUp hf) ?_
    show (!c.machine.keypad.get _) = true ↔ _
    rw [Bool.not_eq_true', ← Bool.not_eq_true, hkeypad, KeyScript.get_keypad]
    rfl

/-- Whatever is done with a fresh computer, of which some cycles may fail, and whichever keys are held in between: a cycle
    that goes through leaves exactly the keys down that are held at that time, one that fails leaves the keypad alone,
    and a skip goes by the keys that were held when a cycle last went through. -/
theorem held_keys_count_from_next_cycle (graphics : G) (audio : A) (numbers : N) (presses keys : List Int)
    (exitAfter : Option Int) (logger : Logger) (console : Console) (acts : List Act) :
    let fresh : Computer (Devices G A KeyScript N) :=
      start { graphics, audio, keyboard := KeyScript.start presses keys exitAfter, numbers } logger console
    (∃ polled, fresh.LastPolled keys acts polled) ∧
      ∀ polled, fresh.LastPolled keys acts polled → (fresh.actAll acts).TakesKeys (heldAfter keys acts) polled := by
  intro fresh
  exact ⟨fresh.exists_lastPolled keys acts,
    fun polled hpolled => takesKeys (held_actAll rfl) (hpolled.keypad rfl Machine.initial_keypad)⟩

/-- A fresh computer that cannot draw its third frame. -/
def tapping : Computer (Devices (Rigged (FrameRecorder Frame)) SilentBeeper KeyScript ListSource) :=
  start
    { graphics := { device := {}, plan := { failures := [(3, .host (.breakdown "draw"))] } }
      audio := {}
      keyboard := KeyScript.start [] [] none
      numbers := ⟨[]⟩ }
    { name := "", threshold := none, coloured := false, timestamps := false, startedAt := 0 } {}

/-- A program that skips while the key 0 is down, and one cycle with this key held. -/
def tapped : List Act := [.order (.load [0xE0, 0x9E, 0x12, 0x00, 0x12, 0x00]), .hold [16], .order .cycle]

/-- The key 0 is held in the second cycle and the key 1 in the third one, which fails, and in the fourth one, which skips
    for the key 0 and leaves the key 1 alone down. -/
theorem held_keys_count_from_next_cycle_tapping :
    let acts := tapped ++ .order .cycle :: [.hold [-15], .order .cycle]
    tapping.LastPolled [] acts [16] ∧ (tapping.actAll acts).cycle.1 = .ok .proceed ∧
      (tapping.actAll acts).machine.pc.toNat = 0x200 ∧ (tapping.actAll acts).cycle.2.machine.pc.toNat = 0x204 ∧
        ∀ k, (tapping.actAll acts).cycle.2.machine.keypad.get k = true ↔ k = 1 := by
  intro acts
  have hsecond : (tapping.actAll tapped).cycle.1 = .ok .proceed := by decide +kernel
  have hthird : ((tapping.actAll tapped).cycle.2.hold [-15]).cycle.1 = .error (.host (.breakdown "draw")) := by
    decide +kernel
  have hpolled : tapping.LastPolled [] acts (heldAfter [] tapped) :=
    .since hsecond ⟨fun h => (by cases h), fun _ => ⟨_, hthird⟩, trivial⟩
  obtain ⟨hs, hpc, hword, hkey⟩ : (tapping.actAll acts).cycle.1 = .ok .proceed ∧
      (tapping.actAll acts).machine.pc.toNat = 0x200 ∧ Form.skipKeyDown.Fits (tapping.actAll acts).machine.fetched ∧
        Key.ofInt ((tapping.actAll acts).machine.v.get (tapping.actAll acts).machine.fetched.x).toNat = 0 := by
    decide +kernel
  have htakes : (tapping.actAll acts).TakesKeys [-15] [16] :=
    (held_keys_count_from_next_cycle _ _ _ [] [] none _ _ acts).2 _ hpolled
  have hdown := (htakes.keyDown hword).committed _ hs
  rw [hkey] at hdown
  have hnext : ((tapping.actAll acts).machine.following + 2) % 4096 = 0x204 := by rw [Machine.following, hpc]
  refine ⟨hpolled, hs, hpc, (hdown.taken.mpr (by decide)).trans hnext, fun k => ?_⟩
  exact (htakes.taken _ hs k).trans List.mem_singleton

end Computer
end Chip8
