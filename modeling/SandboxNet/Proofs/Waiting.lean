import SandboxNet.Proofs.Looks
import Mathlib.Order.Bounds.Defs

/-! Waits and escalations on the simulated clock: which checks they make and how they end. The bound
on the number of checks of a wait is shown never to be what ends it. -/
namespace SandboxNet

variable {S σ : Type} {b : PollBehaviour S σ} {deadline interval timeout : Nanos}
  {w w' : PollWorld S σ}

namespace PollWorld

/-- The world after an action. -/
def acted (b : PollBehaviour S σ) (signal : S) (w : PollWorld S σ) : PollWorld S σ :=
  (answer b (.act signal) w).2

/-- Whether a check made now passes. -/
def passes (b : PollBehaviour S σ) (w : PollWorld S σ) : Bool :=
  (b.check w.clock w.state).2.1

/-- The world after a check. -/
def checked (b : PollBehaviour S σ) (w : PollWorld S σ) : PollWorld S σ :=
  (answer b .check w).2

/-- The world after a sleep of an interval, or up to the deadline if that is sooner. -/
def rested (b : PollBehaviour S σ) (deadline interval : Nanos) (w : PollWorld S σ) :
    PollWorld S σ :=
  { w with clock := b.timer.wake w.clock (min interval (deadline - w.clock)) }

theorem le_acted (b : PollBehaviour S σ) (signal : S) (w : PollWorld S σ) :
    w.clock ≤ (w.acted b signal).clock :=
  Nat.le_add_right _ _

theorem le_checked (b : PollBehaviour S σ) (w : PollWorld S σ) : w.clock ≤ (w.checked b).clock :=
  Nat.le_add_right _ _

theorem clock_acted {signal : S} (hact : (b.act signal w.clock w.state).1 = 0) :
    (w.acted b signal).clock = w.clock := by
  have hclock : (w.acted b signal).clock = w.clock + (b.act signal w.clock w.state).1 := rfl
  rw [hclock, hact, Nat.add_zero]

theorem clock_checked (hcheck : (b.check w.clock w.state).1 = 0) :
    (w.checked b).clock = w.clock := by
  have hclock : (w.checked b).clock = w.clock + (b.check w.clock w.state).1 := rfl
  rw [hclock, hcheck, Nat.add_zero]

theorem le_rested (b : PollBehaviour S σ) (interval : Nanos) (hd : w.clock ≤ deadline) :
    min (w.clock + min interval b.timer.longest) deadline ≤ (w.rested b deadline interval).clock :=
  b.timer.le_wake hd

theorem lt_rested (b : PollBehaviour S σ) (hi : 0 < interval) (hd : w.clock < deadline) :
    w.clock < (w.rested b deadline interval).clock :=
  b.timer.moves _ (Nat.lt_min.mpr ⟨hi, Nat.sub_pos_of_lt hd⟩)

theorem log_acted (b : PollBehaviour S σ) (signal : S) (w : PollWorld S σ) :
    (w.acted b signal).log = w.log ++ [.act w.clock (w.acted b signal).clock signal] := rfl

theorem log_checked (b : PollBehaviour S σ) (w : PollWorld S σ) :
    (w.checked b).log = w.log ++ [.check w.clock (w.checked b).clock (w.passes b)] := rfl

theorem run_waitFor_succ (n : Nat) (w : PollWorld S σ) :
    run b (Polling.waitFor deadline interval (n + 1)) w =
      if w.passes b then (.ok true, w.checked b)
      else if deadline ≤ (w.checked b).clock then (.ok false, w.checked b)
      else run b (Polling.waitFor deadline interval n)
        ((w.checked b).rested b deadline interval) := by
  have hc : run b (Polling.waitFor deadline interval (n + 1)) w =
      run b (if w.passes b then return true else do
        let t ← Polling.now
        if deadline ≤ t then return false else do
          Polling.sleep (min interval (deadline - t))
          Polling.waitFor deadline interval n) (w.checked b) := rfl
  rw [hc]
  cases w.passes b with
  | true => rfl
  | false =>
    have hn : run b (if deadline ≤ (w.checked b).clock then return false else do
        Polling.sleep (min interval (deadline - (w.checked b).clock))
        Polling.waitFor deadline interval n) (w.checked b) =
      if deadline ≤ (w.checked b).clock then (.ok false, w.checked b)
      else run b (Polling.waitFor deadline interval n)
        ((w.checked b).rested b deadline interval) := by
      split <;> rfl
    exact hn

end PollWorld

open PollWorld

/-- A check, from its start to its end. -/
structure Check where
  start : Nanos
  finish : Nanos
  passed : Bool

def Check.event (c : Check) : PollEvent S :=
  .check c.start c.finish c.passed

/-- What one stage of an escalation did: it acted once and then checked. -/
structure StageLog (S : Type) where
  signal : S
  start : Nanos
  finish : Nanos
  checks : List Check

def StageLog.events (l : StageLog S) : List (PollEvent S) :=
  .act l.start l.finish l.signal :: l.checks.map Check.event

/-- A wait with its checks, whether it ended in one that passed, and the world it ends in. -/
inductive Waits (b : PollBehaviour S σ) (deadline interval : Nanos) :
    PollWorld S σ → List Check → Bool → PollWorld S σ → Prop where
  | passed {w : PollWorld S σ} (hc : w.passes b = true) :
    Waits b deadline interval w [⟨w.clock, (w.checked b).clock, true⟩] true (w.checked b)
  | late {w : PollWorld S σ} (hc : w.passes b = false) (hd : deadline ≤ (w.checked b).clock) :
    Waits b deadline interval w [⟨w.clock, (w.checked b).clock, false⟩] false (w.checked b)
  | again {w w' : PollWorld S σ} {checks : List Check} {r : Bool} (hc : w.passes b = false)
    (hd : (w.checked b).clock < deadline)
    (rest : Waits b deadline interval ((w.checked b).rested b deadline interval) checks r w') :
    Waits b deadline interval w (⟨w.clock, (w.checked b).clock, false⟩ :: checks) r w'

/-- An escalation with what its stages did, how it ended, and the world it ends in. It ends with the
signal that settled things or without one, or breaks off where a deadline cannot be told. -/
inductive Escalates (b : PollBehaviour S σ) (interval : Nanos) :
    List (Stage S) → PollWorld S σ → List (StageLog S) → Except ClockFault (Option S) →
      PollWorld S σ → Prop where
  | exhausted {w : PollWorld S σ} : Escalates b interval [] w [] (.ok none) w
  | settled {stage : Stage S} {rest : List (Stage S)} {w w' : PollWorld S σ} {checks : List Check}
    (wait : Waits b ((w.acted b stage.signal).clock + stage.timeout) interval
      (w.acted b stage.signal) checks true w')
    (told : (w.acted b stage.signal).clock + stage.timeout < b.timer.limit) :
    Escalates b interval (stage :: rest) w
      [⟨stage.signal, w.clock, (w.acted b stage.signal).clock, checks⟩]
      (.ok (some stage.signal)) w'
  | ranOut {stage : Stage S} {rest : List (Stage S)} {w w₁ w' : PollWorld S σ}
    {checks : List Check} {logs : List (StageLog S)} {r : Except ClockFault (Option S)}
    (wait : Waits b ((w.acted b stage.signal).clock + stage.timeout) interval
      (w.acted b stage.signal) checks false w₁)
    (told : (w.acted b stage.signal).clock + stage.timeout < b.timer.limit)
    (next : Escalates b interval rest w₁ logs r w') :
    Escalates b interval (stage :: rest) w
      (⟨stage.signal, w.clock, (w.acted b stage.signal).clock, checks⟩ :: logs) r w'
  | brokeOff {stage : Stage S} {rest : List (Stage S)} {w : PollWorld S σ}
    (untold : b.timer.limit ≤ (w.acted b stage.signal).clock + stage.timeout) :
    Escalates b interval (stage :: rest) w
      [⟨stage.signal, w.clock, (w.acted b stage.signal).clock, []⟩] (.error .outOfRange)
      (w.acted b stage.signal)

/-- How an escalation ended that took some time. -/
def Outcome.ofSettled : Option S → Nanos → Outcome S
  | some signal, elapsed => .settled signal elapsed
  | none, elapsed => .exhausted elapsed

@[simp] theorem Outcome.elapsed_ofSettled (r : Option S) (t : Nanos) :
    (Outcome.ofSettled r t).elapsed = t := by
  cases r <;> rfl

section Runs

/-- Every sleep takes time, so as many checks as there are nanoseconds left, and one more, are
enough. -/
theorem waits_run_waitFor {n : Nat} (hi : 0 < interval) (enough : deadline ≤ w.clock + n) :
    ∃ checks r w', Waits b deadline interval w checks r w' ∧
      run b (Polling.waitFor deadline interval (n + 1)) w = (.ok r, w') := by
  induction n generalizing w with
  | zero =>
    rw [run_waitFor_succ]
    have hd : deadline ≤ (w.checked b).clock := Nat.le_trans enough (le_checked b w)
    cases hc : w.passes b with
    | true => exact ⟨_, _, _, .passed hc, rfl⟩
    | false =>
      simp only [Bool.false_eq_true, if_false, hd, if_true]
      exact ⟨_, _, _, .late hc hd, rfl⟩
  | succ n ih =>
    rw [run_waitFor_succ]
    have hle := le_checked b w
    cases hc : w.passes b with
    | true => exact ⟨_, _, _, .passed hc, rfl⟩
    | false =>
      by_cases hd : deadline ≤ (w.checked b).clock
      · simp only [Bool.false_eq_true, if_false, hd, if_true]
        exact ⟨_, _, _, .late hc hd, rfl⟩
      · simp only [Bool.false_eq_true, if_false, hd]
        have hlt := lt_rested b hi (Nat.lt_of_not_le hd)
        have henough : deadline ≤ ((w.checked b).rested b deadline interval).clock + n := by
          unfold Nanos at *
          omega
        obtain ⟨checks, r, w', hrest, hrun⟩ := ih henough
        exact ⟨_, r, w', .again hc (Nat.lt_of_not_le hd) hrest, hrun⟩

theorem answer_deadline (told : w.clock + timeout < b.timer.limit) :
    answer b (.deadline timeout) w = (.ok (w.clock + timeout), w) := by
  rw [answer, deadlineBefore, if_pos told]

theorem answer_deadline_untold (untold : b.timer.limit ≤ w.clock + timeout) :
    answer b (.deadline timeout) w = (.error .outOfRange, w) := by
  rw [answer, deadlineBefore, if_neg (Nat.not_lt.mpr untold)]

theorem waits_run_waitUntil (hi : 0 < interval) (told : w.clock + timeout < b.timer.limit) :
    ∃ checks r w', Waits b (w.clock + timeout) interval w checks r w' ∧
      run b (Polling.waitUntil timeout interval) w = (.ok r, w') := by
  obtain ⟨checks, r, w', hwait, hrun⟩ :=
    waits_run_waitFor (b := b) hi (Nat.le_refl (w.clock + timeout))
  exact ⟨checks, r, w', hwait, (Program.attempt_ask_ok (answer_deadline told) _).trans hrun⟩

theorem run_waitUntil_untold (untold : b.timer.limit ≤ w.clock + timeout) (interval : Nanos) :
    run b (Polling.waitUntil timeout interval) w = (.error .outOfRange, w) :=
  Program.attempt_ask_error (answer_deadline_untold untold) _

theorem run_runFrom_cons (start : Nanos) (stage : Stage S) (rest : List (Stage S))
    (w : PollWorld S σ) :
    run b (Escalation.runFrom start interval (stage :: rest)) w =
      match run b (Polling.waitUntil stage.timeout interval) (w.acted b stage.signal) with
      | (.ok true, w') => (.ok (.settled stage.signal (w'.clock - start)), w')
      | (.ok false, w') => run b (Escalation.runFrom start interval rest) w'
      | (.error e, w') => (.error e, w') := by
  have ha : run b (Escalation.runFrom start interval (stage :: rest)) w =
      run b (do
        if ← Polling.waitUntil stage.timeout interval then
          return .settled stage.signal ((← Polling.now) - start)
        else
          Escalation.runFrom start interval rest) (w.acted b stage.signal) := rfl
  rw [ha, run, Program.attempt_bind]
  simp only [run]
  generalize (Polling.waitUntil stage.timeout interval).attempt (answer b) _ = waited
  obtain ⟨r, w'⟩ := waited
  rcases r with e | passed
  · rfl
  · cases passed <;> rfl

theorem escalates_run (hi : 0 < interval) (start : Nanos) (stages : List (Stage S))
    (w : PollWorld S σ) :
    ∃ logs r w', Escalates b interval stages w logs r w' ∧
      run b (Escalation.runFrom start interval stages) w =
        (r.map fun settled => .ofSettled settled (w'.clock - start), w') := by
  induction stages generalizing w with
  | nil => exact ⟨[], .ok none, w, .exhausted, rfl⟩
  | cons stage rest ih =>
    rw [run_runFrom_cons]
    rcases Nat.lt_or_ge ((w.acted b stage.signal).clock + stage.timeout) b.timer.limit with
      told | untold
    · obtain ⟨checks, passed, w₁, hwait, hrun⟩ := waits_run_waitUntil hi told
      rw [hrun]
      cases passed with
      | true => exact ⟨_, _, w₁, .settled hwait told, rfl⟩
      | false =>
        obtain ⟨logs, r, w', hnext, hr⟩ := ih w₁
        exact ⟨_, r, w', .ranOut hwait told hnext, hr⟩
    · rw [run_waitUntil_untold untold]
      exact ⟨_, _, _, .brokeOff untold, rfl⟩

end Runs

namespace Waits

variable {checks : List Check} {r : Bool}

theorem log_eq (hw : Waits b deadline interval w checks r w') :
    w'.log = w.log ++ checks.map Check.event := by
  induction hw with
  | passed hc =>
    rw [log_checked, hc]
    rfl
  | late hc hd =>
    rw [log_checked, hc]
    rfl
  | @again w w' checks r hc hd rest ih =>
    have hrested : ((w.checked b).rested b deadline interval).log = (w.checked b).log := rfl
    rw [ih, hrested, log_checked, hc, List.append_assoc]
    rfl

/-- Only the last check can pass, and it says how the wait ended and when. -/
theorem last_decides (hw : Waits b deadline interval w checks r w') :
    ∃ earlier last, checks = earlier ++ [last] ∧ (∀ c ∈ earlier, c.passed = false) ∧
      last.passed = r ∧ last.finish = w'.clock := by
  induction hw with
  | passed => exact ⟨[], _, rfl, by simp, rfl, rfl⟩
  | late => exact ⟨[], _, rfl, by simp, rfl, rfl⟩
  | @again w w' checks r hc hd rest ih =>
    obtain ⟨earlier, last, rfl, hearlier, hlast⟩ := ih
    exact ⟨_ :: earlier, last, rfl, by simpa using hearlier, hlast⟩

theorem none_passed (hw : Waits b deadline interval w checks false w') :
    ∀ c ∈ checks, c.passed = false := by
  obtain ⟨earlier, last, rfl, hearlier, hlast, _⟩ := hw.last_decides
  intro c hc
  rcases List.mem_append.mp hc with hc | hc
  · exact hearlier c hc
  · rw [List.mem_singleton.mp hc, hlast]

theorem deadline_le (hw : Waits b deadline interval w checks r w') (hr : r = false) :
    deadline ≤ w'.clock := by
  induction hw with
  | passed => cases hr
  | late hc hd => exact hd
  | again hc hd rest ih => exact ih hr

theorem clock_mono (hw : Waits b deadline interval w checks r w') : w.clock ≤ w'.clock := by
  induction hw with
  | passed => exact le_checked b _
  | late => exact le_checked b _
  | @again w w' checks passed hc hd rest ih =>
    have hslept : (w.checked b).clock ≤ ((w.checked b).rested b deadline interval).clock :=
      Nat.le_trans (Nat.le_add_right _ _) (b.timer.full _ _)
    exact Nat.le_trans (Nat.le_trans (le_checked b w) hslept) ih

end Waits

/-- The stages of an escalation take their turn: each acts once and then checks, and the next one
acts only after the whole timeout of the one before and only if none of its checks has passed. -/
structure InTurn (stages : List (Stage S)) (logs : List (StageLog S)) : Prop where
  started : stages ≠ [] → logs ≠ []
  ordered : logs.map (·.signal) <+: stages.map (·.signal)
  patient : ∀ (i : Nat) (stage : Stage S) (l next : StageLog S), stages[i]? = some stage →
    logs[i]? = some l → logs[i + 1]? = some next →
    l.checks ≠ [] ∧ (∀ c ∈ l.checks, c.passed = false) ∧ l.start + stage.timeout ≤ next.start
  decisive : ∀ c ∈ (logs.flatMap (·.checks)).dropLast, c.passed = false

/-- Every stage that had its turn has checked, and if no check ever passed all of them had it. -/
structure Concluded (stages : List (Stage S)) (logs : List (StageLog S)) : Prop
    extends InTurn stages logs where
  checked : ∀ l ∈ logs, l.checks ≠ []
  exhausted : (∀ c ∈ logs.flatMap (·.checks), c.passed = false) → logs.length = stages.length

/-- The last stage to have its turn has acted, but its deadline cannot be told and it makes no
check. -/
structure BrokenOff (limit : Nanos) (stages : List (Stage S)) (logs : List (StageLog S)) : Prop
    extends InTurn stages logs where
  unchecked : ∃ earlier l stage, logs = earlier ++ [l] ∧ stages[earlier.length]? = some stage ∧
    l.checks = [] ∧ limit ≤ l.finish + stage.timeout
  failed : ∀ c ∈ logs.flatMap (·.checks), c.passed = false

namespace Escalates

variable {stages : List (Stage S)} {logs : List (StageLog S)} {r : Except ClockFault (Option S)}

theorem log_eq (he : Escalates b interval stages w logs r w') :
    w'.log = w.log ++ logs.flatMap StageLog.events := by
  induction he with
  | exhausted => simp
  | settled wait told =>
    rw [wait.log_eq, log_acted]
    simp [StageLog.events]
  | ranOut wait told next ih =>
    rw [ih, wait.log_eq, log_acted]
    simp [StageLog.events]
  | brokeOff untold =>
    rw [log_acted]
    simp [StageLog.events]

theorem first_start {l : StageLog S} (he : Escalates b interval stages w logs r w')
    (hl : logs[0]? = some l) : l.start = w.clock := by
  cases he <;> cases hl <;> rfl

theorem clock_mono (he : Escalates b interval stages w logs r w') : w.clock ≤ w'.clock := by
  induction he with
  | exhausted => exact Nat.le_refl _
  | settled wait told => exact Nat.le_trans (le_acted b _ _) wait.clock_mono
  | ranOut wait told next ih =>
    exact Nat.le_trans (Nat.le_trans (le_acted b _ _) wait.clock_mono) ih
  | brokeOff untold => exact le_acted b _ _

theorem inTurn (he : Escalates b interval stages w logs r w') : InTurn stages logs := by
  induction he with
  | exhausted => exact ⟨by simp, by simp, by simp, by simp⟩
  | settled wait told =>
    obtain ⟨earlier, last, rfl, hearlier, _⟩ := wait.last_decides
    exact ⟨by simp, by simp, by simp, by simpa using hearlier⟩
  | brokeOff untold => exact ⟨by simp, by simp, by simp, by simp⟩
  | @ranOut stage rest w w₁ w' checks logs r wait told next ih =>
    have hfailed := wait.none_passed
    refine ⟨by simp, by simpa using ih.ordered, ?_, ?_⟩
    · intro i st l l' hst hl hl'
      cases i with
      | zero =>
        cases hst
        cases hl
        obtain ⟨earlier, last, rfl, _⟩ := wait.last_decides
        refine ⟨by simp, hfailed, ?_⟩
        rw [next.first_start hl']
        exact Nat.le_trans (Nat.add_le_add_right (le_acted b stage.signal w) _)
          (wait.deadline_le rfl)
      | succ i => exact ih.patient i st l l' hst hl hl'
    · intro c hc
      simp only [List.flatMap_cons] at hc
      by_cases hnil : logs.flatMap (·.checks) = []
      · rw [hnil, List.append_nil] at hc
        exact hfailed c (List.dropLast_subset _ hc)
      · rw [List.dropLast_append_of_ne_nil hnil] at hc
        rcases List.mem_append.mp hc with hc | hc
        · exact hfailed c hc
        · exact ih.decisive c hc

theorem none_passed (he : Escalates b interval stages w logs r w')
    (hr : ∀ signal, r ≠ .ok (some signal)) : ∀ c ∈ logs.flatMap (·.checks), c.passed = false := by
  induction he with
  | exhausted => simp
  | @settled stage _ _ _ _ wait told => exact absurd rfl (hr stage.signal)
  | brokeOff untold => simp
  | ranOut wait told next ih =>
    rw [List.flatMap_cons]
    intro c hc
    rcases List.mem_append.mp hc with hc | hc
    · exact wait.none_passed c hc
    · exact ih hr c hc

theorem concluded {settled : Option S}
    (he : Escalates b interval stages w logs (.ok settled) w') : Concluded stages logs := by
  have hturn := he.inTurn
  generalize hr : (Except.ok settled : Except ClockFault (Option S)) = r at he
  suffices h : (∀ l ∈ logs, l.checks ≠ []) ∧
      ((∀ c ∈ logs.flatMap (·.checks), c.passed = false) → logs.length = stages.length) from
    ⟨hturn, h.1, h.2⟩
  clear hturn
  induction he with
  | exhausted => simp
  | settled wait told =>
    obtain ⟨earlier, last, rfl, _, hlast, _⟩ := wait.last_decides
    refine ⟨by simp, fun hall => ?_⟩
    rw [hall last (by simp)] at hlast
    cases hlast
  | brokeOff untold => cases hr
  | @ranOut stage rest w w₁ w' checks logs r wait told next ih =>
    obtain ⟨earlier, last, rfl, _⟩ := wait.last_decides
    obtain ⟨hchecked, hexhausted⟩ := ih hr
    refine ⟨?_, fun hall => ?_⟩
    · rw [List.forall_mem_cons]
      exact ⟨by simp, hchecked⟩
    · rw [List.flatMap_cons] at hall
      rw [List.length_cons, List.length_cons,
        hexhausted fun c hc => hall c (List.mem_append_right _ hc)]

theorem brokenOff {e : ClockFault} (he : Escalates b interval stages w logs (.error e) w') :
    BrokenOff b.timer.limit stages logs := by
  have hturn := he.inTurn
  have hfailed := he.none_passed nofun
  refine ⟨hturn, ?_, hfailed⟩
  generalize hr : (Except.error e : Except ClockFault (Option S)) = r at he
  clear hturn hfailed
  induction he with
  | exhausted => cases hr
  | settled wait told => cases hr
  | @brokeOff stage rest w untold => exact ⟨[], _, stage, rfl, rfl, rfl, untold⟩
  | ranOut wait told next ih =>
    obtain ⟨earlier, l, stage, rfl, hstage, hl⟩ := ih hr
    exact ⟨_ :: earlier, l, stage, rfl, hstage, hl⟩

end Escalates

end SandboxNet
