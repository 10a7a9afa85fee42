import Chip8.Proofs.BoundedRuns
import Chip8.Proofs.CallOrder
import Chip8.Proofs.Parts
import Mathlib.Algebra.BigOperators.Group.Finset.Piecewise
import Mathlib.Order.Interval.Finset.Nat

/-! Timers over runs. Every cycle that goes through takes one off each timer behind its instruction, and plays the tone
    if that was the last one of the sound timer. So a timer that nothing sets counts down to zero and stays there, what
    is read from the delay timer is what was put there less the cycles since, and from one setting of the sound timer to
    the next there is at most one tone. -/

namespace Chip8

namespace Machine
variable {m m' : Machine} {ins : Instruction} {answer : Int}

theorem count_play_tone (m : Machine) : (m.tone.map Call.port).count .play = if m.sound = 1 then 1 else 0 := by
  unfold tone
  split <;> rfl

/-- The sound timer once the fetched word is executed, before it ticks. -/
def sounding (m : Machine) : Byte := if Form.setSound.Fits m.fetched then m.v.get m.fetched.x else m.sound

theorem sound_of_performed (hr : ins.Reads m.fetched) (hp : ins.perform answer m.advance = .ok m') :
    m'.sound = m.sounding := by
  unfold sounding
  by_cases hset : Form.setSound.Fits m.fetched
  · have hins : some ins = some (.setSound m.fetched.x) :=
      hr.ofWord?_eq.symm.trans (Instruction.Reads.setSound hset).ofWord?_eq
    cases hins
    cases hp
    rw [if_pos hset]
    rfl
  · rw [if_neg hset]
    have hkept : Part.Kept 0 m.advance m' .sound := hr.kept hp hset
    exact UInt8.toNat_inj.mp hkept

end Machine

namespace Computer
variable {H : Type} [Host H] {c : Computer H} {signal : Signal}

/-! ### Cycles -/

/-- A cycle that goes through plays the tone if the sound timer stands at 1 behind its instruction, and then ticks. -/
theorem sounds_of_ok (hs : c.cycle.1 = .ok signal) : ∃ m h, c.Executes m h ∧ m.sound = c.machine.sounding ∧
    (c.calls.map Call.port).count .play = (if m.sound = 1 then 1 else 0) ∧
      c.cycle.2.machine.sound.toNat = m.sound.toNat - 1 := by
  cases c.cycled with
  | failed _ _ hr =>
    rw [hr] at hs
    cases hs
  | committed hturn ha _ hm =>
    obtain ⟨asked, m, keypad, hx, hcalls, rfl⟩ := hturn.stages
    obtain ⟨ins, answer, hw, hp, -⟩ := hx.perform
    rw [hcalls] at ha
    obtain ⟨h, hasked, -⟩ := ha.of_append
    refine ⟨m, h, hx.run_execute hasked, Machine.sound_of_performed (Instruction.reads_of_ofWord? hw) hp, ?_, ?_⟩
    · rw [hcalls]
      simp [hx.asks.count_stage, m.count_play_tone, Call.port]
    · rw [hm]
      exact Part.toNat_countDown m.sound

theorem delay_of_setDelay (hs : c.cycle.1 = .ok signal) (hw : Form.setDelay.Fits c.machine.fetched) :
    c.cycle.2.machine.delay.toNat = (c.machine.v.get c.machine.fetched.x).toNat - 1 := by
  obtain ⟨answer, m, keypad, hp, hm⟩ := performed_of_reads hs (.setDelay hw)
  cases hp
  rw [hm]
  exact Part.toNat_countDown _

theorem register_of_getDelay (hs : c.cycle.1 = .ok signal) (hw : Form.getDelay.Fits c.machine.fetched) :
    c.cycle.2.machine.v.get c.machine.fetched.x = c.machine.delay := by
  obtain ⟨answer, m, keypad, hp, hm⟩ := performed_of_reads hs (.getDelay hw)
  cases hp
  rw [hm]
  exact Machine.setRegister_self _ _ _

/-! ### Runs -/

/-- The word that is fetched by the cycle after `n` others. -/
def wordAt (c : Computer H) (n : Nat) : Word := (c.after n).machine.fetched

/-- How often the cycle after `n` others plays the tone. -/
def plays (c : Computer H) (n : Nat) : Nat := ((c.after n).calls.map Call.port).count .play

theorem writes_delay_iff : c.Writes .cycle .delay ↔ Form.setDelay.Fits c.machine.fetched :=
  ⟨fun h => h.elim id fun ⟨_, _, hdiffers⟩ => hdiffers.elim, Or.inl⟩

theorem writes_sound_iff : c.Writes .cycle .sound ↔ Form.setSound.Fits c.machine.fetched :=
  ⟨fun h => h.elim id fun ⟨_, _, hdiffers⟩ => hdiffers.elim, Or.inl⟩

section Runs
variable {n a : Nat} (hok : ∀ j < n, ∃ signal, c.reply j = .ok signal)
include hok

theorem kept_between {part : Part} {k : Nat} (hk : a + k ≤ n)
    (h : ∀ j, a ≤ j → j < a + k → ¬ (c.after j).Writes .cycle part) :
    part.Kept k (c.after a).machine (c.after (a + k)).machine := by
  induction k with
  | zero => exact Part.Kept.refl _ _
  | succ k ih =>
    obtain ⟨signal, hs⟩ := hok (a + k) hk
    have hbefore := ih (by omega) fun j hj hlt => h j hj (by omega)
    rw [← Nat.add_assoc, after_succ]
    exact hbefore.trans (kept_of_ok hs (h _ (Nat.le_add_right a k) (by omega)))

theorem delay_between {k : Nat} (hk : a + k ≤ n)
    (h : ∀ j, a ≤ j → j < a + k → ¬ Form.setDelay.Fits (c.wordAt j)) :
    (c.after (a + k)).machine.delay.toNat = (c.after a).machine.delay.toNat - k := by
  have hkept : Part.delay.Kept k (c.after a).machine (c.after (a + k)).machine :=
    kept_between hok hk fun j hj hlt => writes_delay_iff.not.mpr (h j hj hlt)
  exact hkept

theorem sound_between {k : Nat} (hk : a + k ≤ n)
    (h : ∀ j, a ≤ j → j < a + k → ¬ Form.setSound.Fits (c.wordAt j)) :
    (c.after (a + k)).machine.sound.toNat = (c.after a).machine.sound.toNat - k := by
  have hkept : Part.sound.Kept k (c.after a).machine (c.after (a + k)).machine :=
    kept_between hok hk fun j hj hlt => writes_sound_iff.not.mpr (h j hj hlt)
  exact hkept

theorem sounding_between {j : Nat} (haj : a ≤ j) (hj : j < n)
    (h : ∀ i, a < i → i ≤ j → ¬ Form.setSound.Fits (c.wordAt i)) :
    (c.after j).machine.sounding.toNat = (c.after a).machine.sounding.toNat - (j - a) := by
  -- The first cycle may set the timer itself; those behind it find it as it was left.
  rcases Nat.eq_or_lt_of_le haj with rfl | hlt
  · rw [Nat.sub_self, Nat.sub_zero]
  · obtain ⟨k, rfl⟩ := Nat.exists_eq_add_of_le hlt
    obtain ⟨signal, hs⟩ := hok a (by omega)
    obtain ⟨m, -, -, hsounding, -, htick⟩ := sounds_of_ok hs
    have hkept := sound_between hok (a := a + 1) (k := k) (by omega) fun i hi hik => h i hi (by omega)
    have hlast : (c.after (a + 1 + k)).machine.sounding = (c.after (a + 1 + k)).machine.sound :=
      if_neg (h _ (by omega) le_rfl)
    rw [hlast, hkept, after_succ, htick, hsounding]
    omega

theorem plays_between {j : Nat} (haj : a ≤ j) (hj : j < n)
    (h : ∀ i, a < i → i ≤ j → ¬ Form.setSound.Fits (c.wordAt i)) :
    c.plays j = if j + 1 = a + (c.after a).machine.sounding.toNat then 1 else 0 := by
  obtain ⟨signal, hs⟩ := hok j hj
  obtain ⟨m, -, -, hsounding, hplays, -⟩ := sounds_of_ok hs
  have hleft := sounding_between hok haj hj h
  have hone : m.sound = 1 ↔ j + 1 = a + (c.after a).machine.sounding.toNat := by
    rw [hsounding, ← UInt8.toNat_inj, hleft]
    show _ = 1 ↔ _
    omega
  exact hplays.trans (if_congr hone rfl rfl)

/-- A cycle reads from the delay timer what an earlier one put there, less the cycles since. -/
theorem delay_read {j k : Nat} (hk : 1 ≤ k) (hn : j + k < n) (hset : Form.setDelay.Fits (c.wordAt j))
    (h : ∀ i, j < i → i < j + k → ¬ Form.setDelay.Fits (c.wordAt i)) (hget : Form.getDelay.Fits (c.wordAt (j + k))) :
    ((c.after (j + k + 1)).machine.v.get (c.wordAt (j + k)).x).toNat =
      ((c.after j).machine.v.get (c.wordAt j).x).toNat - k := by
  obtain ⟨k, rfl⟩ := Nat.exists_eq_add_of_le hk
  rw [← Nat.add_assoc] at hn hget ⊢
  obtain ⟨_, hs⟩ := hok j (by omega)
  have hstored := delay_of_setDelay hs hset
  have hkept := delay_between hok (a := j + 1) (k := k) (by omega) fun i hi hik => h i hi (by omega)
  obtain ⟨_, hs⟩ := hok (j + 1 + k) hn
  have hread := register_of_getDelay hs hget
  rw [← after_succ] at hstored hread
  rw [wordAt, wordAt, hread, hkept, hstored]
  omega

/-- From one setting of the sound timer up to the next the tone is played in at most one cycle. -/
theorem plays_once {b : Nat} (hb : b ≤ n) (h : ∀ j, a < j → j < b → ¬ Form.setSound.Fits (c.wordAt j)) :
    ∑ j ∈ Finset.Ico a b, c.plays j ≤ 1 := by
  have hplays : ∀ j ∈ Finset.Ico a b, c.plays j = if j + 1 = a + (c.after a).machine.sounding.toNat then 1 else 0 := by
    intro j hj
    obtain ⟨haj, hjb⟩ := Finset.mem_Ico.mp hj
    exact plays_between hok haj (by omega) fun i hi hij => h i hi (by omega)
  rw [Finset.sum_congr rfl hplays, ← Finset.card_filter, Finset.card_le_one]
  intro j hj k hk
  have hj := (Finset.mem_filter.mp hj).2
  have hk := (Finset.mem_filter.mp hk).2
  omega

end Runs

/-- What the timers do in the first `n` cycles. -/
structure Timed (c : Computer H) (n : Nat) : Prop where
  delay : (∀ j < n, ¬ Form.setDelay.Fits (c.wordAt j)) →
    (c.after n).machine.delay.toNat = c.machine.delay.toNat - n
  sound : (∀ j < n, ¬ Form.setSound.Fits (c.wordAt j)) →
    (c.after n).machine.sound.toNat = c.machine.sound.toNat - n ∧
      ∀ j < n, c.plays j = if j + 1 = c.machine.sound.toNat then 1 else 0
  reading : ∀ j k, 1 ≤ k → j + k < n → Form.setDelay.Fits (c.wordAt j) →
    (∀ i, j < i → i < j + k → ¬ Form.setDelay.Fits (c.wordAt i)) → Form.getDelay.Fits (c.wordAt (j + k)) →
      ((c.after (j + k + 1)).machine.v.get (c.wordAt (j + k)).x).toNat =
        ((c.after j).machine.v.get (c.wordAt j).x).toNat - k
  tone : ∀ j < n, ∃ m h, (c.after j).Executes m h ∧ c.plays j = if m.sound = 1 then 1 else 0
  once : ∀ a b, b ≤ n → (∀ j, a < j → j < b → ¬ Form.setSound.Fits (c.wordAt j)) →
    ∑ j ∈ Finset.Ico a b, c.plays j ≤ 1

/-- In any number of cycles that go through, the timers are as late as the cycles since they were set, and the tone is
    played in the cycles that find the sound timer at 1 when their instruction is done. -/
theorem keeps_time {n : Nat} (hok : ∀ j < n, ∃ signal, c.reply j = .ok signal) : c.Timed n where
  delay hnone := by
    have hcounted := delay_between hok (a := 0) (Nat.zero_add n).le fun j _ hj => hnone j (by omega)
    rwa [Nat.zero_add] at hcounted
  sound hnone := by
    have hcounted := sound_between hok (a := 0) (Nat.zero_add n).le fun j _ hj => hnone j (by omega)
    rw [Nat.zero_add] at hcounted
    refine ⟨hcounted, fun j hj => ?_⟩
    have hsounding : (c.after 0).machine.sounding = c.machine.sound := if_neg (hnone 0 (by omega))
    rw [plays_between hok (Nat.zero_le j) hj fun i _ hij => hnone i (by omega), hsounding, Nat.zero_add]
  reading _ _ := delay_read hok
  tone j hj := by
    obtain ⟨signal, hs⟩ := hok j hj
    obtain ⟨m, h, hx, -, hplays, -⟩ := sounds_of_ok hs
    exact ⟨m, h, hx, hplays⟩
  once _ _ := plays_once hok

/-- A computer with a program that puts 3 into both timers, reads the delay timer and then clears the screen. -/
def timing : Computer (Devices (FrameRecorder Frame) SilentBeeper KeyScript ListSource) :=
  ((start { graphics := {}, audio := {}, keyboard := {}, numbers := ⟨[]⟩ }
    { name := "", threshold := none, coloured := false, timestamps := false, startedAt := 0 } {}).load
      [0x60, 0x03, 0xF0, 0x15, 0xF0, 0x18, 0xF1, 0x07, 0x00, 0xE0, 0x00, 0xE0]).2

/-- The delay timer is read two cycles after it was set and gives 1. The sound timer is set in the third cycle, and the
    tone comes in the fifth. -/
theorem keeps_time_timing :
    (∀ j < 6, timing.reply j = .ok .proceed) ∧
    (Form.setDelay.Fits (timing.wordAt 1) ∧ Form.getDelay.Fits (timing.wordAt 3) ∧
      ((timing.after 4).machine.v.get 1).toNat = 3 - 2) ∧
    (Form.setSound.Fits (timing.wordAt 2) ∧ ∑ j ∈ Finset.Ico 2 6, timing.plays j ≤ 1) ∧
    ((timing.after 3).after 3).machine.delay.toNat = 1 - 3 ∧ ((timing.after 3).after 3).machine.sound.toNat = 2 - 3 ∧
    (timing.after 3).plays 1 = 1 ∧ (timing.after 3).plays 2 = 0 := by
  obtain ⟨hreply, ⟨hset, hget, hx, hstored⟩, hsound, ⟨hdelays, hsounds⟩, hlater, hdelay, htone⟩ :
      (∀ j < 6, timing.reply j = .ok .proceed) ∧
      (Form.setDelay.Fits (timing.wordAt 1) ∧ Form.getDelay.Fits (timing.wordAt 3) ∧ (timing.wordAt 3).x = 1 ∧
        ((timing.after 1).machine.v.get (timing.wordAt 1).x).toNat = 3) ∧
      Form.setSound.Fits (timing.wordAt 2) ∧
      ((∀ j < 6, 1 < j → ¬ Form.setDelay.Fits (timing.wordAt j)) ∧
        ∀ j < 6, 2 < j → ¬ Form.setSound.Fits (timing.wordAt j)) ∧
      (∀ j < 3, (timing.after 3).reply j = .ok .proceed ∧ ¬ Form.setDelay.Fits ((timing.after 3).wordAt j) ∧
        ¬ Form.setSound.Fits ((timing.after 3).wordAt j)) ∧
      (timing.after 3).machine.delay.toNat = 1 ∧ (timing.after 3).machine.sound.toNat = 2 := by decide +kernel
  have htimed : timing.Timed 6 := keeps_time fun j hj => ⟨_, hreply j hj⟩
  have hlate : (timing.after 3).Timed 3 := keeps_time fun j hj => ⟨_, (hlater j hj).1⟩
  have hread := htimed.reading 1 2 (by decide) (by decide) hset (fun i hi hlt => hdelays i (by omega) hi) hget
  simp only [Nat.reduceAdd, hx, hstored] at hread
  obtain ⟨hcounted, hplays⟩ := hlate.sound fun j hj => (hlater j hj).2.2
  rw [htone] at hcounted hplays
  refine ⟨hreply, ⟨hset, hget, hread⟩, ⟨hsound, htimed.once 2 6 le_rfl fun j hj hlt => hsounds j hlt hj⟩, ?_, hcounted,
    hplays 1 (by decide), hplays 2 (by decide)⟩
  rw [hlate.delay fun j hj => (hlater j hj).2.1, hdelay]

end Computer

end Chip8
