import Chip8.Proofs.Transcript
import Mathlib.Data.List.Basic

/-! Levels of a log. What is said to a log does not depend on its level, and neither do the lines in which it would be
    printed; the level is a threshold that only selects from them. So of two logs that are told the same, the one with
    the higher threshold prints a part of what the other one prints, refuses the same and counts the same faults. -/

namespace Chip8

/-! ### Thresholds -/

namespace Level

/-- The number of the level of this name, from the least urgent one up; for any other name the number behind the last. -/
def number (name : String) : Nat := (all.map Level.name).idxOf name

theorem mem_names_iff {s : String} : s ∈ all.map name ↔ ∃ level, ofName? s = some level := by
  unfold ofName?
  simp only [List.mem_map, ← Option.isSome_iff_exists, List.find?_isSome, beq_iff_eq]

theorem ofName?_eq_some_iff {s : String} {level : Level} : ofName? s = some level ↔ s = level.name := by
  constructor
  · intro h
    have hfound := List.find?_some h
    simp only [beq_iff_eq] at hfound
    exact hfound.symm
  · rintro rfl
    cases level <;> decide +kernel

theorem contains_names (s : String) : (all.map name).contains s = (ofName? s).isSome := by
  rw [Bool.eq_iff_iff, List.contains_iff_mem, mem_names_iff, Option.isSome_iff_exists]

theorem number_name (level : Level) : number level.name = level.rank := by
  cases level <;> decide +kernel

theorem number_of_not_mem {s : String} (h : s ∉ all.map name) : number s = 4 := List.idxOf_eq_length h

theorem rank_lt (level : Level) : level.rank < 4 := by
  cases level <;> decide

/-- The number of the least urgent level that is shown with a setting, which may mix small and capital letters. -/
def threshold (setting : String) : Nat := number (setting.map capital)

end Level

theorem Logger.shows_start (settings : LogSettings) (c : Console) (level : Level) :
    (start settings c).shows level = decide (Level.threshold settings.level ≤ level.rank) := by
  show (Level.ofSetting? settings.level).any (fun least => decide (least.rank ≤ level.rank)) = _
  rw [Level.ofSetting?, Level.threshold]
  cases h : Level.ofName? (settings.level.map Level.capital) with
  | none =>
    have hnone : settings.level.map Level.capital ∉ Level.all.map Level.name := by
      rw [Level.mem_names_iff, h]
      simp
    rw [Level.number_of_not_mem hnone, decide_eq_false (Nat.not_le_of_lt level.rank_lt)]
    rfl
  | some least =>
    rw [Level.ofName?_eq_some_iff.mp h, Level.number_name]
    rfl

/-! ### Notices -/

/-- What a journal can be told or asked, and the time that passes. -/
inductive Notice where
  | named (level text : String)
  | asked (level : String)
  | said (level : Level) (text : String)
  | loaded (size address : Int)
  | traced (pc word : Int)
  | aborted (pc : Int) (reason : String)
  | runStarted (settings : Table)
  | runEnded (cycles : Int) (leave : Bool)
  | passed (ticks : Int)

namespace Notice

/-- The notice is about a level that there is not. -/
def misnames : Notice → Bool
  | named level _ | asked level => !(Level.all.map Level.name).contains level
  | _ => false

theorem misnames_named (s text : String) : (named s text).misnames = (Level.ofName? s).isNone := by
  rw [misnames, Level.contains_names, Option.not_isSome]

theorem misnames_asked (s : String) : (asked s).misnames = (Level.ofName? s).isNone := misnames_named s ""

def isAborted : Notice → Bool
  | aborted _ _ => true
  | _ => false

def time : Notice → Int
  | passed ticks => ticks
  | _ => 0

/-- How often the clock is looked at before anything is said. -/
def looks : Notice → Nat
  | runEnded _ _ => 1
  | _ => 0

/-- What the notice says when a log has run for the given time. -/
def messages (elapsed : Duration) : Notice → List Message
  | named level text => (Level.ofName? level).toList.map fun level => ⟨level, text⟩
  | said level text => [⟨level, text⟩]
  | loaded size address => [.loaded size address]
  | traced pc word => [.traced pc word]
  | aborted pc reason => [.aborted pc reason]
  | runStarted settings => Message.runStarted settings
  | runEnded cycles leave => Message.runEnded cycles elapsed leave
  | asked _ | passed _ => []

/-- What is replied by a log that shows the levels from the given number up. -/
def reply (threshold : Nat) (notice : Notice) : Except HostError (Option Bool) :=
  if notice.misnames then .error .unknownLevel
  else match notice with
    | asked level => .ok (some (decide (threshold ≤ Level.number level)))
    | _ => .ok none

end Notice

namespace Journal

/-- The reply to a notice, and what becomes of the journal and the console. -/
def take (j : Journal) (c : Console) : Notice → Except HostError (Option Bool) × Journal × Console
  | .named level text =>
    match j.logger.writeNamed c level text with
    | .ok c => (.ok none, j, c)
    | .error e => (.error e, j, c)
  | .asked level => ((Level.named level).map fun level => some (j.logger.shows level), j, c)
  | .said level text => (.ok none, j, j.logger.write c [⟨level, text⟩])
  | .loaded size address => (.ok none, j, j.logger.write c [.loaded size address])
  | .traced pc word => (.ok none, j, if j.logger.shows .debug then j.logger.write c [.traced pc word] else c.tick)
  | .aborted pc reason => (.ok none, j.report c pc reason)
  | .runStarted settings => (.ok none, j, j.logger.write c (Message.runStarted settings))
  | .runEnded cycles leave => (.ok none, j, j.logger.writeEnd c cycles leave)
  | .passed ticks => (.ok none, j, c.pass ticks)

/-- Takes the notices one after the other, whether they are refused or not. -/
def takeAll (j : Journal) (c : Console) : List Notice → List (Except HostError (Option Bool)) × Journal × Console
  | [] => ([], j, c)
  | notice :: notices =>
    let (reply, j, c) := j.take c notice
    let (replies, j, c) := j.takeAll c notices
    (reply :: replies, j, c)

end Journal

namespace Logger

/-- What the notice says at its time. -/
def heard (lg : Logger) (c : Console) (notice : Notice) : List Message :=
  notice.messages (lg.elapsed (c.later notice.looks))

/-- The console when the time of the notice is over, whatever is printed of it. -/
def behind (lg : Logger) (c : Console) (notice : Notice) : Console :=
  ((c.later notice.looks).later (lg.heard c notice).length).pass notice.time

/-- All that the notices say, each line as it would be printed at its time, and with its level. -/
def record (lg : Logger) (c : Console) : List Notice → List (Level × String)
  | [] => []
  | notice :: notices =>
    lg.stamped (c.later notice.looks) (lg.heard c notice) ++ lg.record (lg.behind c notice) notices

/-- The console once the notice is taken. -/
def tell (lg : Logger) (c : Console) (notice : Notice) : Console :=
  (lg.write (c.later notice.looks) (lg.heard c notice)).pass notice.time

section Printing
variable (lg : Logger) (c : Console) (l : List String)

theorem pass_printAll (ticks : Int) : (c.printAll l).pass ticks = (c.pass ticks).printAll l := by
  induction l generalizing c with
  | nil => rfl
  | cons s l ih => exact ih (c.print s)

theorem heard_printAll (notice : Notice) : lg.heard (c.printAll l) notice = lg.heard c notice := by
  rw [heard, Console.later_printAll, elapsed_printAll, heard]

theorem record_printAll (notices : List Notice) : lg.record (c.printAll l) notices = lg.record c notices := by
  induction notices generalizing c with
  | nil => rfl
  | cons notice notices ih =>
    rw [record, record, behind, heard_printAll, Console.later_printAll, stamped_printAll, Console.later_printAll,
      pass_printAll, ih]
    rfl

theorem tell_eq (notice : Notice) : lg.tell c notice =
    (lg.behind c notice).printAll (lg.lines (c.later notice.looks) (lg.heard c notice)) := by
  rw [tell, write_eq, pass_printAll, behind]

theorem printed_behind (notice : Notice) : (lg.behind c notice).printed = c.printed :=
  (Console.printed_later _ _).trans (Console.printed_later _ _)

theorem tell_printed (notice : Notice) : (lg.tell c notice).printed.toList =
    c.printed.toList ++ lg.lines (c.later notice.looks) (lg.heard c notice) := by
  rw [tell_eq, Console.printAll_printed, printed_behind]

end Printing

theorem stamped_threshold (lg : Logger) (threshold : Option Level) (c : Console) (messages : List Message) :
    stamped { lg with threshold } c messages = lg.stamped c messages := by
  induction messages generalizing c with
  | nil => rfl
  | cons m messages ih => exact congrArg _ (ih c.tick)

theorem record_threshold (lg : Logger) (threshold : Option Level) (c : Console) (notices : List Notice) :
    record { lg with threshold } c notices = lg.record c notices := by
  induction notices generalizing c with
  | nil => rfl
  | cons notice notices ih =>
    rw [record, record, ih, stamped_threshold]
    rfl

end Logger

/-! ### What becomes of a notice -/

namespace Journal
variable {j : Journal} {t : Nat}

/-- The journal once the notice is taken. -/
def noted (j : Journal) (notice : Notice) : Journal :=
  { j with faultCount := j.faultCount + if notice.isAborted then 1 else 0 }

/-- What becomes of a notice, said at once for every kind of it: the level decides on nothing but what is shown. -/
theorem take_eq (ht : ∀ level, j.logger.shows level = decide (t ≤ level.rank)) (c : Console) (notice : Notice) :
    j.take c notice = (notice.reply t, j.noted notice, j.logger.tell c notice) := by
  have hstill (c : Console) : c.pass 0 = c := by simp [Console.pass]
  cases notice with
  | passed ticks => rfl
  | named s text =>
    simp only [take, Logger.writeNamed, Level.named, Notice.reply, Logger.tell, Logger.heard, Notice.messages,
      Notice.misnames_named, Notice.time, hstill]
    cases Level.ofName? s <;> rfl
  | asked s =>
    simp only [take, Level.named, Notice.reply, Logger.tell, Logger.heard, Notice.messages, Notice.misnames_asked,
      Notice.time, hstill]
    cases hs : Level.ofName? s with
    | none => rfl
    | some level =>
      obtain rfl := Level.ofName?_eq_some_iff.mp hs
      rw [Level.number_name, ← ht]
      rfl
  | traced pc word =>
    -- Tracing looks at the level on its own, before the message is looked at.
    simp only [take, Notice.reply, Logger.tell, Logger.heard, Notice.messages, Notice.time, hstill]
    cases hs : j.logger.shows .debug with
    | false =>
      have hsay : j.logger.say c (.traced pc word) = c.tick := by
        rw [Logger.say, show (Message.traced pc word).level = .debug from rfl, hs]
        rfl
      exact congrArg (fun console => (_, _, console)) hsay.symm
    | true => rfl
  | said | loaded | aborted | runStarted | runEnded =>
    simp only [Logger.tell, Notice.time, hstill]
    rfl

theorem take_of_misnames {notice : Notice} (h : notice.misnames = true) (c : Console) : (j.take c notice).2 = (j, c) := by
  cases notice with
  | asked s => rfl
  | named s text =>
    rw [Notice.misnames_named, Option.isNone_iff_eq_none] at h
    simp only [take, Logger.writeNamed, Level.named, h]
    rfl
  | _ => cases h

/-! ### Notices in a row -/

theorem takeAll_cons (j : Journal) (c : Console) (notice : Notice) (notices : List Notice) :
    j.takeAll c (notice :: notices) = ((j.take c notice).1 ::
      ((j.take c notice).2.1.takeAll (j.take c notice).2.2 notices).1,
        ((j.take c notice).2.1.takeAll (j.take c notice).2.2 notices).2) := rfl

/-- Notices that are refused may as well not have been given. -/
theorem takeAll_filter (j : Journal) (c : Console) (notices : List Notice) :
    (j.takeAll c (notices.filter fun notice => !notice.misnames)).2 = (j.takeAll c notices).2 := by
  induction notices generalizing j c with
  | nil => rfl
  | cons notice notices ih =>
    rw [takeAll_cons]
    cases h : notice.misnames with
    | false =>
      rw [List.filter_cons_of_pos (by rw [h]; rfl), takeAll_cons]
      exact ih _ _
    | true =>
      rw [List.filter_cons_of_neg (by rw [h]; decide), take_of_misnames h]
      exact ih j c

section Thresholds
variable (ht : ∀ level, j.logger.shows level = decide (t ≤ level.rank)) (c : Console) (notices : List Notice)
include ht

theorem takeAll_replies : (j.takeAll c notices).1 = notices.map (Notice.reply t) := by
  induction notices generalizing j c with
  | nil => rfl
  | cons notice notices ih =>
    have hrest := ih (j := j.noted notice) ht (j.logger.tell c notice)
    rw [takeAll_cons, take_eq ht, List.map_cons, hrest]

theorem takeAll_faultCount : (j.takeAll c notices).2.1.faultCount = j.faultCount + notices.countP Notice.isAborted := by
  induction notices generalizing j c with
  | nil => rfl
  | cons notice notices ih =>
    have hrest := ih (j := j.noted notice) ht (j.logger.tell c notice)
    have hone : (j.noted notice).faultCount = j.faultCount + if notice.isAborted then 1 else 0 := rfl
    rw [takeAll_cons, take_eq ht, hrest, hone, List.countP_cons]
    omega

theorem takeAll_printed : (j.takeAll c notices).2.2.printed.toList =
    c.printed.toList ++ ((j.logger.record c notices).filter fun entry => j.logger.shows entry.1).map Prod.snd := by
  induction notices generalizing j c with
  | nil => exact (List.append_nil _).symm
  | cons notice notices ih =>
    -- What was printed does not count for the later lines, only the time that has passed does.
    have hrest : ((j.noted notice).takeAll (j.logger.tell c notice) notices).2.2.printed.toList =
        (j.logger.tell c notice).printed.toList ++
          ((j.logger.record (j.logger.behind c notice) notices).filter fun entry => j.logger.shows entry.1).map Prod.snd := by
      have hnext := ih (j := j.noted notice) ht (j.logger.tell c notice)
      rw [Logger.tell_eq] at hnext ⊢
      rw [hnext, show (j.noted notice).logger = j.logger from rfl, Logger.record_printAll]
    rw [takeAll_cons, take_eq ht, hrest, Logger.tell_printed, Logger.record, List.filter_append, List.map_append,
      List.append_assoc]
    rfl

end Thresholds

/-- A journal that is set up with the level in the place of the one of the settings. -/
def started (settings : LogSettings) (level : String) (c : Console) : Journal where
  logger := Logger.start { settings with level } c

/-- Whatever they are told, journals that differ in their levels alone print the same lines as far as these are not below
    their thresholds, count the same faults and refuse the same, namely what is about a level that there is not, which
    then leaves no trace. So a higher threshold only removes lines, and a level of another name removes them all. -/
theorem raised_level_only_removes (settings : LogSettings) (c : Console) (notices : List Notice) :
    (∀ level,
      ((started settings level c).takeAll c notices).1 = notices.map (Notice.reply (Level.threshold level)) ∧
      ((started settings level c).takeAll c notices).2.1.faultCount = notices.countP Notice.isAborted ∧
      ((started settings level c).takeAll c notices).2.2.printed.toList = c.printed.toList ++
        (((Logger.start settings c).record c notices).filter fun entry =>
          Level.threshold level ≤ entry.1.rank).map Prod.snd ∧
      ((started settings level c).takeAll c (notices.filter fun notice => !notice.misnames)).2 =
        ((started settings level c).takeAll c notices).2) ∧
    (∀ level level', Level.threshold level ≤ Level.threshold level' →
      ((started settings level' c).takeAll c notices).2.2.printed.toList.Sublist
        ((started settings level c).takeAll c notices).2.2.printed.toList) ∧
    ∀ level, level.map Level.capital ∉ Level.all.map Level.name →
      ((started settings level c).takeAll c notices).2.2.printed = c.printed := by
  have ht (level : String) (l : Level) :
      (started settings level c).logger.shows l = decide (Level.threshold level ≤ l.rank) := Logger.shows_start _ c l
  have hrecord (level : String) : (started settings level c).logger.record c notices =
      (Logger.start settings c).record c notices := Logger.record_threshold (Logger.start settings c) _ c notices
  have hprinted (level : String) := takeAll_printed (ht level) c notices
  simp only [hrecord, ht] at hprinted
  refine ⟨fun level => ⟨takeAll_replies (ht level) c notices, ?_, hprinted level, takeAll_filter _ c notices⟩, ?_, ?_⟩
  · exact (takeAll_faultCount (ht level) c notices).trans (Nat.zero_add _)
  · intro level level' hle
    rw [hprinted, hprinted]
    refine List.Sublist.append_left (List.Sublist.map _ (List.monotone_filter_right _ fun entry hentry => ?_)) _
    rw [decide_eq_true_eq] at hentry ⊢
    exact Nat.le_trans hle hentry
  · intro level hnone
    have hfour : Level.threshold level = 4 := Level.number_of_not_mem hnone
    have hnothing : ((Logger.start settings c).record c notices).filter
        (fun entry => decide (Level.threshold level ≤ entry.1.rank)) = [] := by
      rw [List.filter_eq_nil_iff, hfour]
      intro entry _
      rw [decide_eq_true_eq]
      exact Nat.not_le_of_lt entry.1.rank_lt
    rw [← Array.toList_inj, hprinted, hnothing, List.map_nil, List.append_nil]

/-- Notices at different times, of which two name levels in small letters. -/
def chatter : List Notice := [.said .info "ready", .named "error" "lost", .passed 3, .traced 0x200 0x00E0, .asked "INFO",
  .aborted 0x202 "no light", .asked "info", .named "WARNING" "dim", .runEnded 1 false]

/-- The log for warnings prints two of the seven lines of the one that prints all, and both refuse the second notice and
    the seventh. -/
theorem raised_level_only_removes_chatter : Level.threshold "debug" ≤ Level.threshold "warnıng" ∧
    ((started {} "debug" {}).takeAll {} chatter).2.2.printed.toList = [
      "[    0.00s][    INFO][Chip8] ready",
      "[    0.38s][   DEBUG][Chip8] pc=0x200 opcode=0x00E0",
      "[    0.38s][   ERROR][Chip8] Cycle at pc=0x202 aborted: no light",
      "[    0.38s][ WARNING][Chip8] dim",
      "[    0.38s][    INFO][Chip8] ============================================================",
      "[    0.38s][    INFO][Chip8] Run finished after 1 cycles in 0.4s (cycle limit reached)",
      "[    0.38s][    INFO][Chip8] ============================================================"] ∧
    ((started {} "warnıng" {}).takeAll {} chatter).2.2.printed.toList = [
      "[    0.38s][   ERROR][Chip8] Cycle at pc=0x202 aborted: no light",
      "[    0.38s][ WARNING][Chip8] dim"] ∧
    ((started {} "warnıng" {}).takeAll {} chatter).2.2.printed.toList.Sublist
      ((started {} "debug" {}).takeAll {} chatter).2.2.printed.toList ∧
    ((started {} "warnıng" {}).takeAll {} chatter).1 = [.ok none, .error .unknownLevel, .ok none, .ok none,
      .ok (some false), .ok none, .error .unknownLevel, .ok none, .ok none] ∧
    ((started {} "no level" {}).takeAll {} chatter).2.2.printed = #[] := by
  obtain ⟨htold, hless, hnone⟩ := raised_level_only_removes {} {} chatter
  have hle : Level.threshold "debug" ≤ Level.threshold "warnıng" := by decide +kernel
  refine ⟨hle, (htold "debug").2.2.1.trans (by decide +kernel), (htold "warnıng").2.2.1.trans (by decide +kernel),
    hless _ _ hle, (htold "warnıng").1.trans (by decide +kernel), hnone "no level" (by decide +kernel)⟩

end Journal
end Chip8
