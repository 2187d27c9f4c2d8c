import SandboxNet.Proofs.Timing

/-! What an escalation logs and what it returns. The log falls into one block for each stage that
had its turn, and the last check of all decides between the two ways to end. -/
namespace SandboxNet

variable {S σ : Type} {b : PollBehaviour S σ} {interval : Nanos} {stages : List (Stage S)}
  {w w' : PollWorld S σ} {logs : List (StageLog S)} {r : Option S}
  {ending : Except ClockFault (Option S)}

open PollWorld

/-- The last check of all, with the signal of the stage that made it. -/
def lastCheck? (logs : List (StageLog S)) : Option (S × Check) :=
  logs.getLast?.bind fun l => l.checks.getLast?.map (l.signal, ·)

theorem Outcome.ofSettled_settled {signal : S} {t : Nanos} :
    (∃ t', Outcome.ofSettled r t = .settled signal t') ↔ r = some signal := by
  cases r <;> simp [Outcome.ofSettled]

theorem Outcome.ofSettled_exhausted {t : Nanos} :
    (∃ t', Outcome.ofSettled r t = .exhausted t') ↔ r = none := by
  cases r <;> simp [Outcome.ofSettled]

theorem lastCheck?_cons (l : StageLog S) (hne : logs ≠ []) :
    lastCheck? (l :: logs) = lastCheck? logs := by
  obtain ⟨first, rest, rfl⟩ := List.exists_cons_of_ne_nil hne
  rw [lastCheck?, List.getLast?_cons_cons, lastCheck?]

theorem lastCheck?_singleton {l : StageLog S} {earlier : List Check} {last : Check}
    (hl : l.checks = earlier ++ [last]) : lastCheck? [l] = some (l.signal, last) := by
  simp [lastCheck?, hl]

theorem mem_checks_of_lastCheck? {signal : S} {c : Check}
    (hc : lastCheck? logs = some (signal, c)) : c ∈ logs.flatMap (·.checks) := by
  obtain ⟨l, hl, hc⟩ := Option.bind_eq_some_iff.mp hc
  obtain ⟨c', hc', he⟩ := Option.map_eq_some_iff.mp hc
  cases he
  exact List.mem_flatMap.mpr ⟨l, List.mem_of_getLast? hl, List.mem_of_getLast? hc'⟩

namespace Escalates

/-- Without a stage nothing is done, and else the last check says how the escalation ended and
when. -/
theorem last_decides (he : Escalates b interval stages w logs ending w')
    (hr : ending = .ok r) :
    (stages = [] ∧ logs = [] ∧ r = none ∧ w' = w) ∨
      ∃ signal last, lastCheck? logs = some (signal, last) ∧ last.finish = w'.clock ∧
        r = if last.passed = true then some signal else none := by
  induction he with
  | exhausted =>
    cases hr
    exact Or.inl ⟨rfl, rfl, rfl, rfl⟩
  | @settled stage rest w w' checks wait told =>
    cases hr
    obtain ⟨earlier, last, hchecks, _, hpassed, hfinish⟩ := wait.last_decides
    exact Or.inr ⟨stage.signal, last, lastCheck?_singleton hchecks, hfinish, by rw [if_pos hpassed]⟩
  | brokeOff untold => cases hr
  | @ranOut stage rest w w₁ w' checks logs ending wait told next ih =>
    obtain ⟨earlier, last, hchecks, _, hpassed, hfinish⟩ := wait.last_decides
    obtain ⟨_, rfl, rfl, rfl⟩ | ⟨signal, last, hlast, hend⟩ := ih hr
    · refine Or.inr ⟨stage.signal, last, lastCheck?_singleton hchecks, hfinish, ?_⟩
      rw [hpassed]
      rfl
    · have hne : logs ≠ [] := by
        rintro rfl
        cases hlast
      exact Or.inr ⟨signal, last, (lastCheck?_cons _ hne).trans hlast, hend⟩

theorem settled_iff (he : Escalates b interval stages w logs (.ok r) w') {signal : S} :
    r = some signal ↔ ∃ last, lastCheck? logs = some (signal, last) ∧ last.passed = true := by
  obtain ⟨_, rfl, rfl, _⟩ | ⟨signal', last, hlast, _, rfl⟩ := he.last_decides rfl
  · simp [lastCheck?]
  constructor
  · intro hr
    split at hr
    · rename_i hp
      cases hr
      exact ⟨last, hlast, hp⟩
    · cases hr
  · rintro ⟨last', hlast', hp⟩
    cases hlast.symm.trans hlast'
    rw [if_pos hp]

/-- A stage acts at once when the one before it has made its last check. -/
theorem handed_over (he : Escalates b interval stages w logs ending w') {i : Nat} {stage : Stage S}
    {l next : StageLog S} (hstage : stages[i]? = some stage) (hl : logs[i]? = some l)
    (hnext : logs[i + 1]? = some next) :
    ∃ last, l.checks.getLast? = some last ∧ next.start = last.finish ∧
      l.finish + stage.timeout ≤ last.finish := by
  induction he generalizing i with
  | exhausted => cases hl
  | settled wait told => cases hnext
  | brokeOff untold => cases hnext
  | @ranOut stage rest w w₁ w' checks logs ending wait told rest' ih =>
    cases i with
    | zero =>
      cases hstage
      cases hl
      obtain ⟨earlier, last, rfl, _, _, hfinish⟩ := wait.last_decides
      refine ⟨last, by simp, ?_, ?_⟩
      · rw [rest'.first_start hnext, hfinish]
      · rw [hfinish]
        exact wait.deadline_le rfl
    | succ i => exact ih hstage hl hnext

/-- Where no stage settles things, each of them has waited as long as it may. -/
theorem le_clock (he : Escalates b interval stages w logs ending w') (hr : ending = .ok none) :
    w.clock + (stages.map (·.timeout)).sum ≤ w'.clock := by
  induction he with
  | exhausted => exact Nat.le_refl _
  | settled wait told => cases hr
  | brokeOff untold => cases hr
  | @ranOut stage rest w w₁ w' checks logs ending wait told next ih =>
    have hacted := le_acted b stage.signal w
    have hwaited := wait.deadline_le rfl
    have hrest := ih hr
    rw [List.map_cons, List.sum_cons]
    unfold Nanos at *
    omega

end Escalates

/-- What an escalation called at `start` logs and how it ends: its stages take their turn, each at
once when the one before has given up, and its last check says in which of them it settled, if in
any, and how long it has taken. -/
structure Accounts (stages : List (Stage S)) (start : Nanos) (logs : List (StageLog S))
    (outcome : Outcome S) : Prop extends Concluded stages logs where
  called : ∀ l, logs[0]? = some l → l.start = start
  handover : ∀ (i : Nat) (stage : Stage S) (l next : StageLog S), stages[i]? = some stage →
    logs[i]? = some l → logs[i + 1]? = some next → ∃ last, l.checks.getLast? = some last ∧
      next.start = last.finish ∧ l.finish + stage.timeout ≤ last.finish
  settles : ∀ signal, (∃ t, outcome = .settled signal t) ↔
    ∃ last, lastCheck? logs = some (signal, last) ∧ last.passed = true
  exhausts : (∃ t, outcome = .exhausted t) ↔ ∀ c ∈ logs.flatMap (·.checks), c.passed = false
  elapsed : ∀ signal last, lastCheck? logs = some (signal, last) →
    start + outcome.elapsed = last.finish
  idle : stages = [] → outcome.elapsed = 0

theorem Escalates.accounts (he : Escalates b interval stages w logs (.ok r) w') :
    Accounts stages w.clock logs (.ofSettled r (w'.clock - w.clock)) := by
  have hmono := he.clock_mono
  refine ⟨he.concluded, fun l => he.first_start, fun i stage l next => he.handed_over, ?_, ?_, ?_,
    ?_⟩
  · intro signal
    rw [Outcome.ofSettled_settled, he.settled_iff]
  · rw [Outcome.ofSettled_exhausted]
    constructor
    · rintro rfl
      exact he.none_passed nofun
    · intro hall
      cases hr : r with
      | none => rfl
      | some signal =>
        obtain ⟨last, hlast, hpassed⟩ := he.settled_iff.mp hr
        rw [hall last (mem_checks_of_lastCheck? hlast)] at hpassed
        cases hpassed
  · intro signal last hlast
    obtain ⟨_, rfl, _⟩ | ⟨signal', last', hlast', hfinish, _⟩ := he.last_decides rfl
    · cases hlast
    · cases hlast.symm.trans hlast'
      rw [Outcome.elapsed_ofSettled, hfinish, Nat.add_sub_of_le hmono]
  · rintro rfl
    cases he
    rw [Outcome.elapsed_ofSettled, Nat.sub_self]

/-- The log of an escalation gains one block for each stage that had its turn. They account for how
it ended, or it has broken off. If nothing but sleep takes time, an escalation from a tick on that
is exhausted took the timeouts of its stages in whole ticks. -/
theorem escalation_accounts (b : PollBehaviour S σ) (e : Escalation S) (hi : 0 < e.interval)
    (w : PollWorld S σ) :
    let ended := PollWorld.run b e.run w
    (∃ blocks : List (StageLog S), ended.2.log = w.log ++ blocks.flatMap StageLog.events ∧
      (∀ outcome, ended.1 = .ok outcome → Accounts e.stages w.clock blocks outcome) ∧
      ∀ fault, ended.1 = .error fault → BrokenOff b.timer.limit e.stages blocks) ∧
    ∀ t, ended.1 = .ok (.exhausted t) →
      (e.stages.map (·.timeout)).sum ≤ t ∧
      ∀ tick, b.timer.KeepsTicks tick → tick ∣ w.clock → (∀ s t x, (b.act s t x).1 = 0) →
        (∀ t x, (b.check t x).1 = 0) →
        t = (e.stages.map fun stage => tickFrom tick stage.timeout).sum := by
  intro ended
  obtain ⟨logs, ending, w', he, hrun⟩ := escalates_run (b := b) hi w.clock e.stages w
  have hended : ended = _ := hrun
  have hmono := he.clock_mono
  rw [hended]
  refine ⟨⟨logs, he.log_eq, ?_, ?_⟩, ?_⟩
  · intro outcome hok
    cases ending with
    | error fault => cases hok
    | ok r =>
      cases hok
      exact he.accounts
  · intro fault herror
    cases ending with
    | error fault => exact he.brokenOff
    | ok r => cases herror
  · intro t ht
    obtain ⟨rfl, rfl⟩ : ending = .ok none ∧ w'.clock - w.clock = t := by
      rcases ending with fault | (_ | signal) <;> cases ht
      exact ⟨rfl, rfl⟩
    refine ⟨Nat.le_sub_of_add_le' (he.le_clock rfl), fun tick hticks hw hact hcheck => ?_⟩
    rw [(he.clock_on_ticks hticks hact hcheck hw).2 rfl, Nat.add_sub_cancel_left]

/-- A check passes in the second stage of three, where actions take 5 and checks 7. If nothing takes
time and no check passes, all three stages wait to the end. -/
theorem escalation_accounts_second :
    let e : Escalation Int := ⟨[⟨15, millis 20⟩, ⟨2, millis 30⟩, ⟨9, millis 40⟩], millis 10⟩
    let w : PollWorld Int SettleState := ⟨millis 100, {}, []⟩
    let ended := PollWorld.run (Settle.behaviour ⟨some 4, none, none⟩ (millis 5) (millis 7)) e.run w
    let spent := PollWorld.run (.idle Int) e.run ⟨millis 100, (), []⟩
    0 < e.interval ∧ ended.1 = .ok (.settled 2 (millis 58)) ∧
    (∃ blocks, ended.2.log = blocks.flatMap StageLog.events ∧
      Accounts e.stages (millis 100) blocks (.settled 2 (millis 58)) ∧
      ∃ last, lastCheck? blocks = some (2, last) ∧ last.passed = true ∧
        last.finish = millis 158) ∧
    ∃ t, spent.1 = .ok (.exhausted t) ∧ t = millis 20 + millis 30 + millis 40 := by
  intro e w ended spent
  have hended : ended.1 = .ok (.settled 2 (millis 58)) := by decide +kernel
  obtain ⟨⟨blocks, hlog, haccounts, -⟩, -⟩ := escalation_accounts
    (Settle.behaviour ⟨some 4, none, none⟩ (millis 5) (millis 7)) e (by decide) w
  rw [List.nil_append] at hlog
  have haccounts := haccounts _ hended
  obtain ⟨last, hlast, hpassed⟩ := (haccounts.settles 2).mp ⟨_, rfl⟩
  have hfinish : millis 100 + millis 58 = last.finish := haccounts.elapsed 2 last hlast
  obtain ⟨t, ht⟩ : ∃ t, spent.1 = .ok (.exhausted t) := ⟨millis 90, by decide +kernel⟩
  obtain ⟨-, hspent⟩ := (escalation_accounts (.idle Int) e (by decide) ⟨millis 100, (), []⟩).2 t ht
  have ht' := hspent (millis 1) Timer.simulated_keepsTicks (by decide) (fun _ _ _ => rfl)
    fun _ _ => rfl
  refine ⟨by decide, hended, ⟨blocks, ?_, haccounts, last, hlast, hpassed, hfinish.symm⟩, t, ht,
    ht'.trans (by decide)⟩
  rw [← hlog]

/-- A timeout of half a millisecond takes a whole one, and no check is made after an action whose
deadline cannot be told. -/
theorem escalation_overstays_or_breaks_off :
    let short : Escalation Int := ⟨[⟨15, 500000⟩], millis 1⟩
    let endless : Escalation Int := ⟨[⟨15, longestDuration⟩], millis 1⟩
    (PollWorld.run (.idle Int) short.run ⟨0, (), []⟩).1 = .ok (.exhausted (millis 1)) ∧
    (short.stages.map (·.timeout)).sum ≠ millis 1 ∧
    (PollWorld.run (.idle Int) endless.run ⟨0, (), []⟩).1 = .error .outOfRange ∧
    (PollWorld.run (.idle Int) endless.run ⟨0, (), []⟩).2.log = [.act 0 0 15] := by
  intro short endless
  exact ⟨by decide +kernel, by decide, by decide +kernel, by decide +kernel⟩

end SandboxNet
