import Chip8.Proofs.Atomicity
import Chip8.Proofs.Forms
import Mathlib.Data.Int.Bitwise

/-! The order of the calls in a cycle. The word is executed first and asks for a byte or a key if its form does. Then
    the frame is drawn, the tone played if the sound timer stands at 1, and the keys polled. Each stage follows only
    if the one before went through, so a call that fails is the last one. -/

namespace Chip8

/-! ### Ports -/

inductive Port where
  | draw | play | stop | poll | wait | generate
  deriving DecidableEq

namespace Call

def port : Call → Port
  | .draw _ _ => .draw
  | .play _ => .play
  | .stop _ => .stop
  | .poll _ _ => .poll
  | .wait _ => .wait
  | .generate _ => .generate

def failed : Call → Bool
  | .draw _ (.error _) | .play (.error _) | .stop (.error _) | .poll _ (.error _) => true
  | .wait (.error _) | .generate (.error _) => true
  | _ => false

end Call

/-- The calls with which a word is executed: one if its form asks for a byte or a key, else none. -/
inductive Word.Asks (w : Word) : List Call → Prop
  | byte (r : Except Failure Int) : Form.random.Fits w → Asks w [.generate r]
  | key (r : Except Failure Int) : Form.waitKey.Fits w → Asks w [.wait r]
  | nothing : ¬ Form.random.Fits w → ¬ Form.waitKey.Fits w → Asks w []

theorem Form.not_random_of_waitKey {w : Word} (h : waitKey.Fits w) : ¬ random.Fits w := by
  intro h'
  exact absurd (h.first.symm.trans h'.first) (by decide)

namespace Word.Asks
variable {w : Word} {asked : List Call}

theorem count_generate (h : w.Asks asked) :
    (asked.map Call.port).count .generate = if Form.random.Fits w then 1 else 0 := by
  cases h with
  | byte r hw => simp [Call.port, hw]
  | key r hw => simp [Call.port, Form.not_random_of_waitKey hw]
  | nothing hbyte _ => simp [hbyte]

theorem count_wait (h : w.Asks asked) :
    (asked.map Call.port).count .wait = if Form.waitKey.Fits w then 1 else 0 := by
  cases h with
  | byte r hw =>
    have hkey : ¬ Form.waitKey.Fits w := mt Form.not_random_of_waitKey (not_not_intro hw)
    simp [Call.port, hkey]
  | key r hw => simp [Call.port, hw]
  | nothing _ hkey => simp [hkey]

/-- A word asks for nothing at the ports of the stages behind it. -/
theorem count_stage (h : w.Asks asked) {port : Port} (hport : port ∈ [Port.draw, .play, .poll]) :
    (asked.map Call.port).count port = 0 := by
  rw [List.count_eq_zero]
  intro hmem
  cases h <;> simp_all [Call.port]

end Word.Asks

/-! ### Executed words -/

namespace Machine.Executed
variable {m m₁ : Machine} {w : Word} {asked : List Call} {r : Except Failure Machine}

theorem asks (h : m.Executed w asked r) : w.Asks asked := by
  have of_request {ins : Instruction} {request : Request} (x : Except Failure Int)
      (hw : Instruction.ofWord? w = some ins) (hr : ins.request? = some request) : w.Asks [request.call x] := by
    cases request with
    | key => exact .key x ((Instruction.request?_eq_key_iff hw).mp hr)
    | byte => exact .byte x ((Instruction.request?_eq_byte_iff hw).mp hr)
  cases h with
  | invalid hw =>
    exact .nothing (Instruction.not_fits_of_eq_none hw (by decide)) (Instruction.not_fits_of_eq_none hw (by decide))
  | silent hw hr =>
    apply Word.Asks.nothing
    · intro hbyte
      rw [(Instruction.request?_eq_byte_iff hw).mpr hbyte] at hr
      cases hr
    · intro hkey
      rw [(Instruction.request?_eq_key_iff hw).mpr hkey] at hr
      cases hr
  | refused hw hr => exact of_request _ hw hr
  | answered hw hr => exact of_request _ hw hr

/-- What a word was executed to is what executing it on the host that gave the answers comes to. -/
theorem run_execute {H : Type} [Host H] {h h₁ : H} (hx : m.Executed w asked r) (ha : Answers h asked h₁) :
    (m.execute w).run h = (r, h₁) := by
  have answered {request : Request} {x : Except Failure Int} (ha : Answers h [request.call x] h₁) :
      (Host.answer (some request)).run h = (x, h₁) := by
    obtain ⟨h₂, hcall, rfl⟩ := ha
    cases request <;> exact hcall
  cases hx with
  | invalid hw =>
    obtain rfl : h = h₁ := ha
    rw [execute_of_eq_none hw]
    rfl
  | silent hw hr =>
    obtain rfl : h = h₁ := ha
    rw [execute_of_eq_some hw, hr]
    exact (Attempt.run_bind_ok rfl).trans (Attempt.run_ofExcept _ _)
  | refused hw hr =>
    rw [execute_of_eq_some hw, hr]
    exact Attempt.run_bind_error (answered ha)
  | answered hw hr =>
    rw [execute_of_eq_some hw, hr]
    exact (Attempt.run_bind_ok (answered ha)).trans (Attempt.run_ofExcept _ _)

theorem not_failed (h : m.Executed w asked (.ok m₁)) {call : Call} (hc : call ∈ asked) : call.failed = false := by
  obtain ⟨ins, answer, -, -, ⟨-, rfl, -⟩ | ⟨request, -, rfl⟩⟩ := h.perform
  · cases hc
  · obtain rfl := List.mem_singleton.mp hc
    cases request <;> rfl

end Machine.Executed

/-! ### Answers -/

theorem Instruction.ofWord?_of_random {w : Word} (h : Form.random.Fits w) : ofWord? w = some (.random w.x w.nn) := by
  unfold ofWord?
  rw [Form.fits_family_iff.mp h]
  rfl

theorem Instruction.ofWord?_of_waitKey {w : Word} (h : Form.waitKey.Fits w) : ofWord? w = some (.waitKey w.x) := by
  unfold ofWord?
  rw [(Form.fits_byte_iff.mp h).1, (Form.fits_byte_iff.mp h).2]
  rfl

/-- Masked by a number of `p` bits, only the low `p` bits of a number count. -/
theorem land_eq (n : Int) {k p : Nat} (hk : k < 2 ^ p) : Int.land n k = ((n % 2 ^ p).toNat &&& k : Nat) := by
  have hhigh {j : Nat} (hj : p ≤ j) : k.testBit j = false :=
    Nat.testBit_lt_two_pow (Nat.lt_of_lt_of_le hk (Nat.pow_le_pow_right (by decide) hj))
  cases n with
  | ofNat m =>
    show ((m &&& k : Nat) : Int) = (((m : Int) % 2 ^ p).toNat &&& k : Nat)
    have hm : ((m : Int) % 2 ^ p).toNat = m % 2 ^ p := by
      exact_mod_cast Int.toNat_natCast (m % 2 ^ p)
    rw [hm]
    congr 1
    refine Nat.eq_of_testBit_eq fun j => ?_
    rw [Nat.testBit_and, Nat.testBit_and, Nat.testBit_mod_two_pow]
    by_cases hj : j < p
    · simp [hj]
    · simp [hhigh (Nat.le_of_not_lt hj)]
  | negSucc m =>
    -- The bits of a negative number are those that `m` lacks.
    show ((Nat.ldiff k m : Nat) : Int) = ((Int.negSucc m % 2 ^ p).toNat &&& k : Nat)
    have hlt : m % 2 ^ p < 2 ^ p := Nat.mod_lt _ (Nat.two_pow_pos p)
    have hm : (Int.negSucc m % 2 ^ p).toNat = 2 ^ p - (m % 2 ^ p + 1) := by
      rw [Int.negSucc_emod _ (Int.pow_pos (by decide)), show (2 : Int) ^ p = (2 ^ p : Nat) by norm_cast]
      omega
    rw [hm]
    congr 1
    refine Nat.eq_of_testBit_eq fun j => ?_
    rw [Nat.testBit_ldiff, Nat.testBit_and, Nat.testBit_two_pow_sub_succ hlt, Nat.testBit_mod_two_pow]
    by_cases hj : j < p
    · simp [hj, Bool.and_comm]
    · simp [hhigh (Nat.le_of_not_lt hj)]

theorem toNat_ofInt_and (n : Int) (b : Byte) : ((UInt8.ofInt n &&& b).toNat : Int) = Int.land n b.toNat := by
  rw [land_eq n (p := 8) b.toNat_lt, UInt8.toNat_and]
  unfold UInt8.ofInt
  rw [UInt8.toNat_ofNat', Nat.mod_eq_of_lt (by omega)]

theorem toNat_key (n : Int) : ((UInt8.ofNat (Key.ofInt n)).toNat : Int) = Int.land n 15 := by
  have hlt : (n % 16).toNat < 2 ^ 4 := by omega
  rw [show (15 : Int) = (15 : Nat) from rfl, land_eq n (p := 4) (by decide), UInt8.toNat_ofNat']
  show (((n % 16).toNat % 256 : Nat) : Int) = ((n % 16).toNat &&& (2 ^ 4 - 1) : Nat)
  rw [Nat.and_two_pow_sub_one_eq_mod]
  omega

namespace Machine.Executed
variable {m m₁ : Machine} {w : Word} {asked : List Call} {r : Int}

/-- An answer among the calls is the one that the instruction was performed with. -/
theorem performed (request : Request) (h : m.Executed w asked (.ok m₁)) (hr : request.call (.ok r) ∈ asked) :
    ∃ ins, Instruction.ofWord? w = some ins ∧ ins.request? = some request ∧ ins.perform r m = .ok m₁ := by
  obtain ⟨ins, answer, hw, hp, ⟨-, rfl, -⟩ | ⟨request', hask, rfl⟩⟩ := h.perform
  · cases hr
  · obtain ⟨rfl, rfl⟩ : request = request' ∧ r = answer := by
      cases request <;> cases request' <;> simp_all [Request.call]
    exact ⟨ins, hw, hask, hp⟩

theorem random_register (h : m.Executed w asked (.ok m₁)) (hr : .generate (.ok r) ∈ asked) :
    (m₁.v[w.x].toNat : Int) = Int.land r w.nn.toNat := by
  obtain ⟨ins, hw, hask, hp⟩ := h.performed .byte hr
  rw [Instruction.ofWord?_of_random ((Instruction.request?_eq_byte_iff hw).mp hask)] at hw
  cases hw
  cases hp
  rw [← toNat_ofInt_and]
  simp [setRegister]

theorem key_register (h : m.Executed w asked (.ok m₁)) (hr : .wait (.ok r) ∈ asked) :
    (m₁.v[w.x].toNat : Int) = Int.land r 15 := by
  obtain ⟨ins, hw, hask, hp⟩ := h.performed .key hr
  rw [Instruction.ofWord?_of_waitKey ((Instruction.request?_eq_key_iff hw).mp hask)] at hw
  cases hw
  cases hp
  rw [← toNat_key]
  simp [setRegister]

end Machine.Executed

/-! ### Cycles -/

namespace Computer
variable {H : Type} [Host H]

/-- The calls of a cycle and what it replies, by the first of its stages that fails on the host. -/
inductive Course (c : Computer H) : List Call → Except Failure Signal → Prop
  | notExecuted {asked : List Call} {e : Failure} {h : H} : c.machine.fetched.Asks asked →
      (c.machine.advance.execute c.machine.fetched).run c.host = (.error e, h) → Course c asked (.error e)
  | notDrawn {asked : List Call} {m : Machine} {e : Failure} {h h' : H} : c.machine.fetched.Asks asked →
      c.Executes m h → (Host.draw m.frame).run h = (.error e, h') →
      Course c (asked ++ [.draw m.frame (.error e)]) (.error e)
  | notPlayed {asked : List Call} {m : Machine} {e : Failure} {h h' : H} : c.machine.fetched.Asks asked →
      c.Draws m h → m.sound = 1 → Host.play.run h = (.error e, h') →
      Course c (asked ++ [.draw m.frame (.ok ()), .play (.error e)]) (.error e)
  | notPolled {asked : List Call} {m : Machine} {e : Failure} {h h' : H} : c.machine.fetched.Asks asked →
      c.Plays m h → (Host.poll m.keypad).run h = (.error e, h') →
      Course c (asked ++ .draw m.frame (.ok ()) :: (m.tone ++ [.poll m.keypad (.error e)])) (.error e)
  | done {asked : List Call} {m : Machine} {keypad : Keypad} {leave : Bool} {h h' : H} :
      c.machine.fetched.Asks asked → c.Plays m h → (Host.poll m.keypad).run h = (.ok (keypad, leave), h') →
      Course c (asked ++ .draw m.frame (.ok ()) :: (m.tone ++ [.poll m.keypad (.ok (keypad, leave))]))
        (.ok (signal leave))

variable {c : Computer H} {calls : List Call}

theorem Draws.plays {m : Machine} {h h' : H} (hd : c.Draws m h) (ha : Answers h m.tone h') : c.Plays m h' := by
  unfold Machine.tone at ha
  split at ha
  · rename_i hs
    obtain ⟨h₁, hp, rfl⟩ := ha
    exact ⟨h, hd, Or.inl ⟨hs, hp⟩⟩
  · rename_i hs
    obtain rfl : h = h' := ha
    exact ⟨h, hd, Or.inr ⟨hs, rfl⟩⟩

theorem course_of_turn {r : Except Failure (Machine × Bool)} {h : H}
    (ht : c.machine.advance.Turn c.machine.fetched calls r) (ha : Answers c.host calls h) :
    c.Course calls (r.map fun moved => signal moved.2) := by
  cases ht with
  | notExecuted hx => exact .notExecuted hx.asks (hx.run_execute ha)
  | notDrawn hx =>
    obtain ⟨h₁, hasked, h₂, hd, -⟩ := ha.of_append
    exact .notDrawn hx.asks (hx.run_execute hasked) hd
  | notPlayed hx hs =>
    obtain ⟨h₁, hasked, h₂, hd, h₃, hp, -⟩ := ha.of_append
    exact .notPlayed hx.asks ⟨h₁, hx.run_execute hasked, hd⟩ hs hp
  | notPolled hx =>
    obtain ⟨h₁, hasked, h₂, hd, hrest⟩ := ha.of_append
    obtain ⟨h₃, htone, h₄, hk, -⟩ := Answers.of_append hrest
    exact .notPolled hx.asks (Draws.plays ⟨h₁, hx.run_execute hasked, hd⟩ htone) hk
  | done hx =>
    obtain ⟨h₁, hasked, h₂, hd, hrest⟩ := ha.of_append
    obtain ⟨h₃, htone, h₄, hk, -⟩ := Answers.of_append hrest
    exact .done hx.asks (Draws.plays ⟨h₁, hx.run_execute hasked, hd⟩ htone) hk

theorem course (c : Computer H) : c.Course c.calls c.cycle.1 := by
  cases c.cycled with
  | committed ht ha hr _ =>
    rw [hr]
    exact course_of_turn ht ha
  | failed ht ha hr _ =>
    rw [hr]
    exact course_of_turn ht ha

/-! ### Order -/

/-- Behind what the word asks for come calls for a frame, the tone and the keys, in this order. -/
theorem Course.split {reply : Except Failure Signal} (hc : c.Course calls reply) : ∃ asked shown,
    c.machine.fetched.Asks asked ∧ calls = asked ++ shown ∧ (shown.map Call.port).Sublist [.draw, .play, .poll] := by
  have tone_port (m : Machine) : (m.tone.map Call.port).Sublist [.play] := by
    unfold Machine.tone
    split <;> simp [Call.port]
  cases hc with
  | notExecuted ha => exact ⟨_, [], ha, (List.append_nil _).symm, List.nil_sublist _⟩
  | notDrawn ha => exact ⟨_, _, ha, rfl, by simp [Call.port]⟩
  | notPlayed ha => exact ⟨_, _, ha, rfl, by simp [Call.port]⟩
  | @notPolled _ m =>
    refine ⟨_, _, by assumption, rfl, ?_⟩
    simpa [Call.port] using (tone_port m).append_right [.poll]
  | @done _ m =>
    refine ⟨_, _, by assumption, rfl, ?_⟩
    simpa [Call.port] using (tone_port m).append_right [.poll]

/-- A port that the stages have no call for is called only by the word. -/
theorem count_of_not_stage (c : Computer H) (port : Port) (hport : port ∉ [Port.draw, .play, .poll]) :
    ∃ asked, c.machine.fetched.Asks asked ∧ (c.calls.map Call.port).count port = (asked.map Call.port).count port := by
  obtain ⟨asked, shown, ha, hcalls, hshown⟩ := c.course.split
  have hnone : (shown.map Call.port).count port = 0 := List.count_eq_zero.mpr fun h => hport (hshown.subset h)
  exact ⟨asked, ha, by rw [hcalls, List.map_append, List.count_append, hnone, Nat.add_zero]⟩

theorem count_generate (c : Computer H) :
    (c.calls.map Call.port).count .generate = if Form.random.Fits c.machine.fetched then 1 else 0 := by
  obtain ⟨asked, ha, hcount⟩ := c.count_of_not_stage .generate (by decide)
  rw [hcount, ha.count_generate]

theorem count_wait (c : Computer H) :
    (c.calls.map Call.port).count .wait = if Form.waitKey.Fits c.machine.fetched then 1 else 0 := by
  obtain ⟨asked, ha, hcount⟩ := c.count_of_not_stage .wait (by decide)
  rw [hcount, ha.count_wait]

theorem stop_not_mem (c : Computer H) : .stop ∉ c.calls.map Call.port := by
  obtain ⟨asked, ha, hcount⟩ := c.count_of_not_stage .stop (by decide)
  rw [← List.count_eq_zero, hcount]
  cases ha <;> rfl

theorem Course.exit_iff {reply : Except Failure Signal} (hc : c.Course calls reply) :
    reply = .ok .exit ↔ ∃ pad keypad, .poll pad (.ok (keypad, true)) ∈ calls := by
  have not_asked {asked : List Call} (ha : c.machine.fetched.Asks asked) (pad : Keypad)
      (r : Except Failure (Keypad × Bool)) : .poll pad r ∉ asked := by
    cases ha <;> simp
  have not_tone (m : Machine) (pad : Keypad) (r : Except Failure (Keypad × Bool)) : .poll pad r ∉ m.tone := by
    unfold Machine.tone
    split <;> simp
  cases hc with
  | notExecuted ha => simp [not_asked ha]
  | notDrawn ha => simp [not_asked ha]
  | notPlayed ha => simp [not_asked ha]
  | notPolled ha => simp [not_asked ha, not_tone]
  | @done asked m keypad leave _ _ ha => cases leave <;> simp [not_asked ha, not_tone, signal]

theorem not_failed_of_mem_tone {m : Machine} {call : Call} (hc : call ∈ m.tone) : call.failed = false := by
  unfold Machine.tone at hc
  split at hc
  · obtain rfl := List.mem_singleton.mp hc
    rfl
  · cases hc

/-- In a turn only the last call may have failed. -/
theorem not_failed_of_turn {m : Machine} {w : Word} {r : Except Failure (Machine × Bool)} (ht : m.Turn w calls r)
    {call : Call} (hc : call ∈ calls.dropLast) : call.failed = false := by
  have before_poll {asked : List Call} {m₁ : Machine} {last : Call} (hx : m.Executed w asked (.ok m₁))
      (hc : call ∈ (asked ++ .draw m₁.frame (.ok ()) :: (m₁.tone ++ [last])).dropLast) : call.failed = false := by
    rw [← List.cons_append, ← List.append_assoc, List.dropLast_concat] at hc
    rcases List.mem_append.mp hc with hc | hc
    · exact hx.not_failed hc
    · rcases List.mem_cons.mp hc with rfl | hc
      · rfl
      · exact not_failed_of_mem_tone hc
  cases ht with
  | notExecuted hx =>
    cases hx.asks with
    | byte => cases hc
    | key => cases hc
    | nothing => cases hc
  | notDrawn hx =>
    rw [List.dropLast_concat] at hc
    exact hx.not_failed hc
  | notPlayed hx =>
    rw [List.append_cons, List.dropLast_concat] at hc
    rcases List.mem_append.mp hc with hc | hc
    · exact hx.not_failed hc
    · obtain rfl := List.mem_singleton.mp hc
      rfl
  | notPolled hx => exact before_poll hx hc
  | done hx => exact before_poll hx hc

/-- The calls of a cycle: which there are, in which order, and what the answers do. -/
structure Orderly (c : Computer H) : Prop where
  course : c.Course c.calls c.cycle.1
  answers : Answers c.host c.calls c.cycle.2.host
  generates : (c.calls.map Call.port).count .generate = if Form.random.Fits c.machine.fetched then 1 else 0
  waits : (c.calls.map Call.port).count .wait = if Form.waitKey.Fits c.machine.fetched then 1 else 0
  unstopped : .stop ∉ c.calls.map Call.port
  /-- No call follows one that failed. -/
  halts : ∀ call ∈ c.calls.dropLast, call.failed = false
  exit : c.cycle.1 = .ok .exit ↔ ∃ pad keypad, .poll pad (.ok (keypad, true)) ∈ c.calls
  /-- The byte that was asked for is masked by that of the word. -/
  byte : ∀ r s, .generate (.ok r) ∈ c.calls → c.cycle.1 = .ok s →
    (c.cycle.2.machine.v[c.machine.fetched.x].toNat : Int) = Int.land r c.machine.fetched.nn.toNat
  /-- Of the key that was asked for the low four bits count. -/
  key : ∀ r s, .wait (.ok r) ∈ c.calls → c.cycle.1 = .ok s →
    (c.cycle.2.machine.v[c.machine.fetched.x].toNat : Int) = Int.land r 15

/-- A cycle that succeeds keeps the registers of the machine that executed the word, and any answer is one that the
    word asked for. -/
theorem registers_of_ok {s : Signal} (hs : c.cycle.1 = .ok s) : ∃ asked m, c.machine.advance.Executed
    c.machine.fetched asked (.ok m) ∧ c.cycle.2.machine.v = m.v ∧ (∀ r, .generate r ∈ c.calls → .generate r ∈ asked) ∧
      ∀ r, .wait r ∈ c.calls → .wait r ∈ asked := by
  cases c.cycled with
  | committed ht _ _ hm =>
    obtain ⟨asked, m, keypad, hx, hcalls, rfl⟩ := ht.stages
    have not_tone (r : Except Failure Int) : .generate r ∉ m.tone ∧ .wait r ∉ m.tone := by
      unfold Machine.tone
      split <;> simp
    refine ⟨asked, m, hx, by rw [hm]; rfl, fun r hr => ?_, fun r hr => ?_⟩
    · rw [hcalls] at hr
      simpa [not_tone] using hr
    · rw [hcalls] at hr
      simpa [not_tone] using hr
  | failed _ _ hr =>
    rw [hr] at hs
    cases hs

theorem orderly (c : Computer H) : c.Orderly where
  course := c.course
  answers := by
    cases c.cycled with
    | committed _ ha => exact ha
    | failed _ ha => exact ha
  generates := c.count_generate
  waits := c.count_wait
  unstopped := c.stop_not_mem
  halts call hc := by
    cases c.cycled with
    | committed ht => exact not_failed_of_turn ht hc
    | failed ht => exact not_failed_of_turn ht hc
  exit := c.course.exit_iff
  byte r s hr hs := by
    obtain ⟨asked, m, hx, hv, hasked, -⟩ := registers_of_ok hs
    rw [hv]
    exact hx.random_register (hasked _ hr)
  key r s hr hs := by
    obtain ⟨asked, m, hx, hv, -, hasked⟩ := registers_of_ok hs
    rw [hv]
    exact hx.key_register (hasked _ hr)

end Computer

end Chip8
