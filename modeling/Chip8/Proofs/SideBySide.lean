import Chip8.Proofs.Orders

/-! Two runs side by side. Attempts agree if on related devices they fail alike or have related results, and leave
    related devices; attempts in parts agree if their parts do. A relation of machines that holds on through all that
    may be done to them, a `Bisimulation`, is kept by every word that is executed, as long as the devices answer alike;
    and if it hides nothing that a device is shown, then related machines cannot be told apart from outside. -/

namespace Chip8

/-! ### Outcomes -/

/-- The outcomes are the same failure, or results that are related. -/
inductive Matches {ε α β : Type} (R : α → β → Prop) : Except ε α → Except ε β → Prop
  | error (e : ε) : Matches R (.error e) (.error e)
  | ok {a : α} {b : β} : R a b → Matches R (.ok a) (.ok b)

namespace Matches
variable {ε ε' α β : Type} {R T : α → β → Prop} {x : Except ε α} {y : Except ε β}

theorem refl {R : α → α → Prop} (hR : ∀ a, R a a) (x : Except ε α) : Matches R x x := by
  cases x with
  | error e => exact .error e
  | ok a => exact .ok (hR a)

theorem mono (h : Matches R x y) (hRT : ∀ a b, R a b → T a b) : Matches T x y := by
  cases h with
  | error e => exact .error e
  | ok hab => exact .ok (hRT _ _ hab)

/-- What is known of the results may be used in what relates them. -/
theorem attach (h : Matches R x y) : Matches (fun a b => x = .ok a ∧ y = .ok b ∧ R a b) x y := by
  cases h with
  | error e => exact .error e
  | ok hab => exact .ok ⟨rfl, rfl, hab⟩

theorem mapError (h : Matches R x y) (f : ε → ε') : Matches R (x.mapError f) (y.mapError f) := by
  cases h with
  | error e => exact .error (f e)
  | ok hab => exact .ok hab

end Matches

/-! ### Attempts -/

namespace Attempt
variable {D E α β γ δ : Type}

/-- On related devices the attempts fail alike or have related results, and the devices stay related. -/
def Agree (S : D → E → Prop) (R : α → β → Prop) (a : Attempt D α) (b : Attempt E β) : Prop :=
  ∀ d e, S d e → Matches R (a.run d).1 (b.run e).1 ∧ S (a.run d).2 (b.run e).2

namespace Agree
variable {S : D → E → Prop} {R : α → β → Prop} {T : γ → δ → Prop}

theorem same (a : Attempt D α) : Agree Eq Eq a a := by
  rintro d e rfl
  exact ⟨.refl (fun _ => rfl) _, rfl⟩

theorem pure {x : α} {y : β} (h : R x y) : Agree S R (Pure.pure x) (Pure.pure y) := fun _ _ hde => ⟨.ok h, hde⟩

theorem ofExcept {x : Except Fault α} {y : Except Fault β} (h : Matches R x y) :
    Agree S R (Attempt.ofExcept x) (Attempt.ofExcept y) := by
  intro d e hde
  rw [run_ofExcept, run_ofExcept]
  exact ⟨h.mapError _, hde⟩

theorem bind {a : Attempt D α} {b : Attempt E β} {f : α → Attempt D γ} {g : β → Attempt E δ} (hab : Agree S R a b)
    (hfg : ∀ x y, R x y → Agree S T (f x) (g y)) : Agree S T (a >>= f) (b >>= g) := by
  intro d e hde
  obtain ⟨hresult, hnext⟩ := hab d e hde
  rcases ha : a.run d with ⟨x, d'⟩
  rcases hb : b.run e with ⟨y, e'⟩
  rw [ha, hb] at hresult hnext
  cases hresult with
  | error failure =>
    rw [run_bind_error ha, run_bind_error hb]
    exact ⟨.error failure, hnext⟩
  | ok hxy =>
    rw [run_bind_ok ha, run_bind_ok hb]
    exact hfg _ _ hxy d' e' hnext

end Agree
end Attempt

/-! ### Machines -/

namespace Machine

/-- Whatever is done to related machines, they fail alike or stay related. They stand at the same word, and their
    keypads are the same. -/
structure Bisimulation (R : Machine → Machine → Prop) : Prop where
  pc : ∀ {m m'}, R m m' → m'.pc = m.pc
  fetched : ∀ {m m'}, R m m' → m'.fetched = m.fetched
  keypad : ∀ {m m'}, R m m' → m'.keypad = m.keypad
  advance : ∀ {m m'}, R m m' → R m.advance m'.advance
  perform : ∀ {m m'} (ins : Instruction) (answer : Int), R m m' → Matches R (ins.perform answer m) (ins.perform answer m')
  finish : ∀ {m m'} (keypad : Keypad), R m m' → R { m.tick with keypad } { m'.tick with keypad }
  load : ∀ {m m'} (program : Program), R m m' → Matches R (m.loadProgram program) (m'.loadProgram program)

theorem eq_bisimulation : Bisimulation Eq where
  pc h := by rw [h]
  fetched h := by rw [h]
  keypad h := by rw [h]
  advance h := by rw [h]
  perform ins answer h := by
    rw [h]
    exact .refl (fun _ => rfl) _
  finish keypad h := by rw [h]
  load program h := by
    rw [h]
    exact .refl (fun _ => rfl) _

/-- A program goes into machines alike that stand at the same place of the same memory. -/
theorem loadProgram_local {m m' : Machine} (hpc : m'.pc = m.pc) (hmemory : m'.memory = m.memory) (program : Program) :
    Matches (fun n n' => ∃ memory, n = { m with memory } ∧ n' = { m' with memory }) (m.loadProgram program)
      (m'.loadProgram program) := by
  have hcapacity : m'.capacity = m.capacity := by
    unfold capacity
    rw [hpc]
  unfold Machine.loadProgram
  rw [hcapacity, hpc, hmemory]
  split
  · exact .ok ⟨_, rfl, rfl⟩
  · exact .error _

variable {H H' : Type} [Host H] [Host H'] {R : Machine → Machine → Prop} {m m' : Machine}

/-- Devices that answer alike are asked alike by a word, and the machines stay related if the instruction keeps them
    so. -/
theorem execute_agree {S : H → H' → Prop} {w : Word}
    (hask : ∀ request, Attempt.Agree S Eq (Host.answer (some request)) (Host.answer (some request)))
    (hperform : ∀ ins answer, Instruction.ofWord? w = some ins →
      Matches R (ins.perform answer m) (ins.perform answer m')) : Attempt.Agree S R (m.execute w) (m'.execute w) := by
  have hanswer : ∀ request?, Attempt.Agree S Eq (Host.answer request?) (Host.answer request?)
    | none => .pure rfl
    | some request => hask request
  cases hw : Instruction.ofWord? w with
  | none =>
    rw [execute_of_eq_none hw, execute_of_eq_none hw]
    exact fun _ _ hde => ⟨.error _, hde⟩
  | some ins =>
    rw [execute_of_eq_some hw, execute_of_eq_some hw]
    refine (hanswer ins.request?).bind ?_
    rintro answer _ rfl
    exact .ofExcept (hperform ins answer hw)

/-- The relation hides nothing that a device is shown: neither the frame nor the sound timer. -/
def ShowsAlike (R : Machine → Machine → Prop) : Prop := ∀ {m m'}, R m m' → m'.frame = m.frame ∧ m'.sound = m.sound

theorem tick_agree (hR : Bisimulation R) (hshown : ShowsAlike R) (h : R m m') :
    Attempt.Agree (@Eq H) (fun a a' => a'.keypad = a.keypad ∧ ∀ keypad, R { a with keypad } { a' with keypad })
      m.tickOnHost m'.tickOnHost := by
  have hbeeps : m'.beeps = m.beeps := by
    unfold beeps
    rw [(hshown h).2]
  have hticked : m'.tick.keypad = m.tick.keypad ∧ ∀ keypad, R { m.tick with keypad } { m'.tick with keypad } :=
    ⟨show m'.keypad = m.keypad from hR.keypad h, fun keypad => hR.finish keypad h⟩
  unfold tickOnHost
  rw [hbeeps]
  cases m.beeps with
  | true => exact (Attempt.Agree.same Host.play).bind fun _ _ _ => .pure hticked
  | false => exact .pure hticked

/-- Related machines go through a turn alike on the same devices, which cannot tell them apart. -/
theorem turn_agree (hR : Bisimulation R) (hshown : ShowsAlike R) (h : R m m') (w : Word) :
    Attempt.Agree (@Eq H) (fun r r' => R r.1 r'.1 ∧ r'.2 = r.2) (m.turn w) (m'.turn w) := by
  unfold turn
  refine (execute_agree (fun _ => .same _) fun ins answer _ => hR.perform ins answer h).bind fun m₁ m₁' h₁ => ?_
  rw [(hshown h₁).1]
  refine (Attempt.Agree.same _).bind fun _ _ _ => (tick_agree hR hshown h₁).bind ?_
  rintro a a' ⟨hkeypad, hfinish⟩
  rw [hkeypad]
  refine (Attempt.Agree.same _).bind ?_
  rintro polled _ rfl
  exact .pure ⟨hfinish _, rfl⟩

end Machine

/-! ### Computers -/

namespace Computer
variable {H : Type} {R : Machine → Machine → Prop} {c c' : Computer H}

/-- The computers are the same but for their machines, which are related. -/
structure Alike (R : Machine → Machine → Prop) (c c' : Computer H) : Prop where
  machine : R c.machine c'.machine
  host : c'.host = c.host
  journal : c'.journal = c.journal
  console : c'.console = c.console

namespace Alike

theorem recorded (h : Alike R c c') : Alike R c.recorded c'.recorded where
  machine := h.machine
  host := by rw [Computer.recorded, Computer.recorded, h.host]
  journal := h.journal
  console := h.console

theorem log (h : Alike R c c') (messages : List Message) : Alike R (c.log messages) (c'.log messages) where
  machine := h.machine
  host := h.host
  journal := h.journal
  console := by rw [Computer.log, Computer.log, h.journal, h.console]

theorem logFailure (h : Alike R c c') (pc : UInt16) (e : Failure) :
    Alike R (c.logFailure pc e) (c'.logFailure pc e) := by
  cases e with
  | host error => exact h
  | fault fault =>
    unfold Computer.logFailure
    rw [h.journal, h.console]
    exact ⟨h.machine, h.host, rfl, rfl⟩

end Alike

/-- Loading into related machines fails alike, or makes them related ones and is logged. -/
theorem load_related {H' : Type} {c' : Computer H'} (hR : Machine.Bisimulation R) (h : R c.machine c'.machine)
    (program : Program) : (∃ fault, c.load program = (.error fault, c) ∧ c'.load program = (.error fault, c')) ∨
      ∃ m m', R m m' ∧ c.load program = (.ok (), { c with machine := m }.log [.loaded program.length m.pc.toNat]) ∧
        c'.load program = (.ok (), { c' with machine := m' }.log [.loaded program.length m.pc.toNat]) := by
  have hloaded := hR.load program h
  unfold load
  generalize c.machine.loadProgram program = r at hloaded
  generalize c'.machine.loadProgram program = r' at hloaded
  cases hloaded with
  | error fault => exact .inl ⟨fault, rfl, rfl⟩
  | @ok m m' hm => exact .inr ⟨m, m', hm, rfl, by rw [← hR.pc hm]⟩

theorem load_alike (hR : Machine.Bisimulation R) (h : Alike R c c') (program : Program) :
    (c'.load program).1 = (c.load program).1 ∧ Alike R (c.load program).2 (c'.load program).2 := by
  obtain ⟨fault, hl, hl'⟩ | ⟨m, m', hm, hl, hl'⟩ := load_related hR h.machine program
  · rw [hl, hl']
    exact ⟨rfl, h⟩
  · have hleft : Alike R { c with machine := m } { c' with machine := m' } := { h with machine := hm }
    rw [hl, hl']
    exact ⟨rfl, hleft.log _⟩

variable [Host H]

theorem cycle_alike (hR : Machine.Bisimulation R) (hshown : Machine.ShowsAlike R) (h : Alike R c c') :
    c'.cycle.1 = c.cycle.1 ∧ Alike R c.cycle.2 c'.cycle.2 := by
  have hpc := hR.pc h.machine
  have hfetched := hR.fetched h.machine
  have htraced : Alike R c.traced c'.traced := by
    unfold traced
    rw [hpc, hfetched]
    exact h.log _
  have hagree := Machine.turn_agree (H := H) hR hshown (hR.advance h.machine) c.machine.fetched c.host c'.host h.host.symm
  rcases hrun : (c.machine.advance.turn c.machine.fetched).run c.host with ⟨r, host⟩
  rcases hrun' : (c'.machine.advance.turn c.machine.fetched).run c'.host with ⟨r', host'⟩
  rw [hrun, hrun'] at hagree
  rw [← hfetched] at hrun'
  obtain ⟨hresult, hhost⟩ := hagree
  cases hresult with
  | error e =>
    rw [cycle_of_error hrun, cycle_of_error hrun', hpc]
    have hleft : Alike R { c.traced with host } { c'.traced with host := host' } := { htraced with host := hhost.symm }
    exact ⟨rfl, hleft.logFailure _ e⟩
  | ok hrr =>
    rw [cycle_of_ok hrun, cycle_of_ok hrun', hrr.2]
    exact ⟨rfl, { htraced with machine := hrr.1, host := hhost.symm }⟩

theorem calls_alike (hR : Machine.Bisimulation R) (hshown : Machine.ShowsAlike R) (h : Alike R c c') :
    c'.calls = c.calls := by
  obtain ⟨-, hnext⟩ := cycle_alike hR hshown h.recorded
  unfold calls
  rw [hnext.host]

theorem obey_alike (hR : Machine.Bisimulation R) (hshown : Machine.ShowsAlike R) (h : Alike R c c') (order : Order) :
    (c'.obey order).1 = (c.obey order).1 ∧ Alike R (c.obey order).2 (c'.obey order).2 := by
  cases order with
  | load program =>
    obtain ⟨hresult, hnext⟩ := load_alike hR h program
    exact ⟨by rw [obey, obey, hresult], hnext⟩
  | cycle =>
    obtain ⟨hresult, hnext⟩ := cycle_alike hR hshown h
    exact ⟨by rw [obey, obey, hresult, calls_alike hR hshown h], hnext⟩

/-- Whatever is done with computers that differ in related machines, the difference does not show. -/
theorem obeyAll_alike (hR : Machine.Bisimulation R) (hshown : Machine.ShowsAlike R) (h : Alike R c c')
    (orders : List Order) : (c'.obeyAll orders).1 = (c.obeyAll orders).1 ∧
      Alike R (c.obeyAll orders).2 (c'.obeyAll orders).2 := by
  induction orders generalizing c c' with
  | nil => exact ⟨rfl, h⟩
  | cons order orders ih =>
    obtain ⟨hevent, hnext⟩ := obey_alike hR hshown h order
    obtain ⟨hevents, hlast⟩ := ih hnext
    rw [obeyAll_cons, obeyAll_cons, hevent, hevents]
    exact ⟨rfl, hlast⟩

end Computer

end Chip8
