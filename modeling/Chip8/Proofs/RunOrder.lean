import Chip8.Device.FrameRecorder
import Chip8.Device.SilentBeeper
import Chip8.Proofs.CallOrder
import Chip8.Proofs.Supply

/-! The calls of a run. Every cycle makes its calls in order, and the answers of the number source and the keyboard
    come one after the other through all cycles of the run, also those that fail afterwards: devices keep what they
    did although the machine does not. -/

namespace Chip8

/-! ### Answers in order -/

section Hosts
variable {H : Type} [Host H] {take : Call → Option Int} {R : H → Nat → Int → Prop}

/-- The calls of which `take` tells the answer get the values that `R` numbers, one after the other; the other calls
    take none. -/
structure Numbered (take : Call → Option Int) (R : H → Nat → Int → Prop) : Prop where
  first : ∀ {call h h' x}, call.Answered h h' → take call = some x → R h 0 x
  rest : ∀ {call h h' x j y}, call.Answered h h' → take call = some x → R h' j y → R h (j + 1) y
  other : ∀ {call h h' j y}, call.Answered h h' → take call = none → R h' j y → R h j y

/-- Over any calls the answers are the first values, and the values that come next are left. -/
theorem Numbered.answers (hn : Numbered take R) {calls : List Call} {h h' : H} (ha : Answers h calls h') :
    (∀ j x, (calls.filterMap take)[j]? = some x → R h j x) ∧
      ∀ j y, R h' j y → R h (j + (calls.filterMap take).length) y := by
  -- The host is another one after each call, but the values that it numbers are the rest of those before.
  induction calls generalizing h with
  | nil =>
    obtain rfl : h = h' := ha
    constructor
    · intro j x hx
      cases hx
    · intro j y hy
      exact hy
  | cons call calls ih =>
    obtain ⟨h₁, hcall, hrest⟩ := ha
    obtain ⟨hvalues, hleft⟩ := ih hrest
    cases htake : take call with
    | none =>
      rw [List.filterMap_cons_none htake]
      constructor
      · intro j x hx
        exact hn.other hcall htake (hvalues j x hx)
      · intro j y hy
        exact hn.other hcall htake (hleft j y hy)
    | some value =>
      rw [List.filterMap_cons_some htake]
      constructor
      · intro j x hx
        cases j with
        | zero =>
          obtain rfl := Option.some.inj hx
          exact hn.first hcall htake
        | succ j => exact hn.rest hcall htake (hvalues j x hx)
      · intro j y hy
        exact hn.rest hcall htake (hleft j y hy)

end Hosts

def Call.number? : Call → Option Int
  | .generate (.ok number) => some number
  | _ => none

def Call.pressed? : Call → Option Int
  | .wait (.ok key) => some key
  | _ => none

section Devices
variable {G A K N : Type} [Graphics G] [Audio A] [Keyboard K] [NumberSource N]

namespace Devices
variable {d d' : Devices G A K N} {call : Call}

/-- A call is one of the number source, or it leaves the source alone. -/
theorem numbers_of_answered (ha : call.Answered d d') :
    (∃ r, call = .generate r ∧ NumberSource.generate.run d.numbers = (r, d'.numbers)) ∨
      (call.number? = none ∧ d'.numbers = d.numbers) := by
  cases call with
  | generate r =>
    cases ha
    exact Or.inl ⟨_, rfl, rfl⟩
  | _ =>
    cases ha
    exact Or.inr ⟨rfl, rfl⟩

/-- A call is one of the keyboard, or it leaves the keyboard alone. -/
theorem keyboard_of_answered (ha : call.Answered d d') :
    (∃ r, call = .wait r ∧ Keyboard.wait.run d.keyboard = (r, d'.keyboard)) ∨
      (∃ pad r, call = .poll pad r ∧ (Keyboard.poll pad).run d.keyboard = (r, d'.keyboard)) ∨
        (call.pressed? = none ∧ d'.keyboard = d.keyboard) := by
  cases call with
  | wait r =>
    cases ha
    exact Or.inl ⟨_, rfl, rfl⟩
  | poll pad r =>
    cases ha
    exact Or.inr (Or.inl ⟨_, _, rfl, rfl⟩)
  | _ =>
    cases ha
    exact Or.inr (Or.inr ⟨rfl, rfl⟩)

theorem numbers_numbered : Numbered Call.number? fun (d : Devices G A K N) j x =>
    NumberSource.generate.Hands d.numbers j x where
  first ha ht := by
    rcases numbers_of_answered ha with ⟨r | x, rfl, hrun⟩ | ⟨hnone, -⟩
    · cases ht
    · cases ht
      exact .now hrun
    · rw [hnone] at ht
      cases ht
  rest ha ht hrest := by
    rcases numbers_of_answered ha with ⟨r | x, rfl, hrun⟩ | ⟨hnone, -⟩
    · cases ht
    · exact .later hrun hrest
    · rw [hnone] at ht
      cases ht
  other ha ht hrest := by
    rcases numbers_of_answered ha with ⟨r | x, rfl, hrun⟩ | ⟨-, hsame⟩
    · exact .retry hrun hrest
    · cases ht
    · rwa [hsame] at hrest

theorem keys_numbered (hk : Keyboard.PollsSpareKeys K) : Numbered Call.pressed? fun (d : Devices G A K N) j x =>
    Keyboard.wait.Hands d.keyboard j x where
  first ha ht := by
    rcases keyboard_of_answered ha with ⟨r | x, rfl, hrun⟩ | ⟨pad, r, rfl, -⟩ | ⟨hnone, -⟩
    · cases ht
    · cases ht
      exact .now hrun
    · cases ht
    · rw [hnone] at ht
      cases ht
  rest ha ht hrest := by
    rcases keyboard_of_answered ha with ⟨r | x, rfl, hrun⟩ | ⟨pad, r, rfl, -⟩ | ⟨hnone, -⟩
    · cases ht
    · exact .later hrun hrest
    · cases ht
    · rw [hnone] at ht
      cases ht
  other ha ht hrest := by
    rcases keyboard_of_answered ha with ⟨r | x, rfl, hrun⟩ | ⟨pad, r, rfl, hrun⟩ | ⟨-, hsame⟩
    · exact .retry hrun hrest
    · cases ht
    · exact (hk _ _ pad r hrun _ _).mp hrest
    · rwa [hsame] at hrest

end Devices
end Devices

/-! ### Runs -/

def numbersIn (events : List Event) : List Int := (events.flatMap Event.calls).filterMap Call.number?

/-- The keys that were pressed for the waits of a run. -/
def keysIn (events : List Event) : List Int := (events.flatMap Event.calls).filterMap Call.pressed?

namespace Computer
variable {G A K N : Type} [Graphics G] [Audio A] [Keyboard K] [NumberSource N]

/-- In every run each cycle makes its calls in order, and every device answers a call as those before left it. So the
    numbers that the source gives are those that it hands out, from the first one on without a gap, and so are the
    keys if polls leave them alone. -/
theorem runs_call_in_order (c : Computer (Devices G A K N)) (orders : List Order) :
    (∀ event ∈ (c.obeyAll orders).1, ∃ earlier order later, orders = earlier ++ order :: later ∧
      event = ((c.obeyAll earlier).2.obey order).1 ∧ (c.obeyAll earlier).2.Orderly) ∧
      Answers c.host ((c.obeyAll orders).1.flatMap Event.calls) (c.obeyAll orders).2.host ∧
      (∀ j x, (numbersIn (c.obeyAll orders).1)[j]? = some x → NumberSource.generate.Hands c.host.numbers j x) ∧
      (∀ j x, NumberSource.generate.Hands (c.obeyAll orders).2.host.numbers j x →
        NumberSource.generate.Hands c.host.numbers (j + (numbersIn (c.obeyAll orders).1).length) x) ∧
      (Keyboard.PollsSpareKeys K →
        (∀ j x, (keysIn (c.obeyAll orders).1)[j]? = some x → Keyboard.wait.Hands c.host.keyboard j x) ∧
        ∀ j x, Keyboard.wait.Hands (c.obeyAll orders).2.host.keyboard j x →
          Keyboard.wait.Hands c.host.keyboard (j + (keysIn (c.obeyAll orders).1).length) x) := by
  have hnumbers := Devices.numbers_numbered.answers (c.obeyAll_answers orders)
  refine ⟨fun event hevent => ?_, c.obeyAll_answers orders, hnumbers.1, hnumbers.2, fun hk => ?_⟩
  · obtain ⟨earlier, order, later, horders, rfl⟩ := exists_of_mem_events hevent
    exact ⟨earlier, order, later, horders, rfl, orderly _⟩
  · exact (Devices.keys_numbered hk).answers (c.obeyAll_answers orders)

/-- A fresh computer whose devices fail: the source and the keyboard when they are first asked, and the second poll. -/
def rigged : Computer (Devices (FrameRecorder Frame) SilentBeeper RiggedKeyboard (Rigged ListSource)) :=
  start
    { graphics := {}
      audio := {}
      keyboard :=
        { script := { presses := [7] }
          polls := { failures := [(2, .host (.breakdown "poll"))] }
          waits := { failures := [(1, .host (.breakdown "wait"))] }
          rawCodes := [-1] }
      numbers := { device := ⟨[300, -2]⟩, plan := { failures := [(1, .host (.breakdown "source"))] } } }
    { name := "", threshold := none, coloured := false, timestamps := false, startedAt := 0 } {}

/-- A program that asks for a byte and then for a key, and five cycles, of which only the second and the last one go
    through. -/
def riggedOrders : List Order := .load [0xC1, 0xF0, 0xF2, 0x0A] :: List.replicate 5 .cycle

/-- The key that was pressed in a cycle that failed is gone, and the next wait gets the one behind it. -/
theorem runs_call_in_order_rigged : Keyboard.PollsSpareKeys RiggedKeyboard ∧
    numbersIn (rigged.obeyAll riggedOrders).1 = [300] ∧ NumberSource.generate.Hands rigged.host.numbers 0 300 ∧
      keysIn (rigged.obeyAll riggedOrders).1 = [-1, 7] ∧ Keyboard.wait.Hands rigged.host.keyboard 1 7 := by
  have hnumbers : numbersIn (rigged.obeyAll riggedOrders).1 = [300] := by decide +kernel
  have hkeys : keysIn (rigged.obeyAll riggedOrders).1 = [-1, 7] := by decide +kernel
  obtain ⟨-, -, hgiven, -, hpressed⟩ := runs_call_in_order rigged riggedOrders
  exact ⟨RiggedKeyboard.pollsSpareKeys, hnumbers, hgiven 0 300 (by rw [hnumbers]; rfl), hkeys,
    (hpressed RiggedKeyboard.pollsSpareKeys).1 1 7 (by rw [hkeys]; rfl)⟩

end Computer

end Chip8
