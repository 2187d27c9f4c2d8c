import SandboxNet.Proofs.EscalationLog

/-! Two escalations that differ only in how often they look. They look at different times, but each
stage ends with a look, so if what is looked out for does not go away again, they use the same
force. -/
namespace SandboxNet

variable {S : Type} {timer : Timer} {settled : List (S × Nanos) → Nanos → Bool}
  {tick deadline p q : Nanos} {w w' v v' : PollWorld S (List (S × Nanos))}

open PollWorld

/-- Actions are noted with their times. A check asks about nothing but these and the time, and
neither an action nor a check takes time. -/
def PollBehaviour.noting (timer : Timer) (settled : List (S × Nanos) → Nanos → Bool) :
    PollBehaviour S (List (S × Nanos)) where
  timer := timer
  act signal now fired := (0, fired ++ [(signal, now)])
  check now fired := (0, settled fired now, fired)

def PollEvent.action? : PollEvent S → Option (S × Nanos)
  | .act start _ signal => some (signal, start)
  | .check .. => none

/-- The actions in a log, each with its time. -/
def actions (log : List (PollEvent S)) : List (S × Nanos) :=
  log.filterMap PollEvent.action?

/-- The signal that settled things, if one did. -/
def Outcome.signal? : Outcome S → Option S
  | .settled signal _ => some signal
  | .exhausted _ => none

@[simp] theorem Outcome.signal?_ofSettled (r : Option S) (t : Nanos) :
    (Outcome.ofSettled r t).signal? = r := by
  cases r <;> rfl

theorem actions_append (log more : List (PollEvent S)) :
    actions (log ++ more) = actions log ++ actions more :=
  List.filterMap_append ..

theorem actions_stages (logs : List (StageLog S)) :
    actions (logs.flatMap StageLog.events) = logs.map fun l => (l.signal, l.start) := by
  induction logs with
  | nil => rfl
  | cons l logs ih =>
    have hchecks : actions (l.checks.map (Check.event (S := S))) = [] := by
      simp [actions, PollEvent.action?, Check.event]
    have hstage : actions l.events =
      (l.signal, l.start) :: actions (l.checks.map (Check.event (S := S))) := rfl
    rw [List.flatMap_cons, actions_append, hstage, hchecks, ih]
    rfl

namespace Waits

variable {checks checks₁ : List Check} {r r₁ : Bool}

/-- A wait for something that does not go away again runs out with its last look or ends with the
first look that finds it. -/
theorem first_found (hticks : timer.KeepsTicks tick)
    (hw : Waits (.noting timer settled) deadline p w checks r w') (hp : 0 < p)
    (hstays : ∀ t t', t ≤ t' → settled w.state t = true → settled w.state t' = true) :
    w'.state = w.state ∧ r = settled w.state (lastLook tick deadline w.clock) ∧
      (r = false → w'.clock = lastLook tick deadline w.clock) ∧
      (r = true → IsLeast {t | t ∈ looks tick deadline (min p timer.longest) w.clock ∧
        settled w.state t = true} w'.clock) := by
  have hcheck : ∀ t x, x = w.state → ((PollBehaviour.noting timer settled).check t x).1 = 0 ∧
      ((PollBehaviour.noting timer settled).check t x).2.1 = settled w.state t ∧
      ((PollBehaviour.noting timer settled).check t x).2.2 = w.state := by
    rintro t x rfl
    exact ⟨rfl, rfl, rfl⟩
  have hsleep : 0 < min p timer.longest := Nat.lt_min.mpr ⟨hp, timer.positive⟩
  obtain ⟨hstate, ⟨rfl, hleast⟩ | ⟨rfl, hclock, hnone⟩⟩ := hw.ends_at_first hticks hcheck rfl
  · have hfound := hstays _ _ (le_lastLook_of_mem hticks.positive hleast.1.1) hleast.1.2
    exact ⟨hstate, hfound.symm, nofun, fun _ => hleast⟩
  · have hlast := hnone _ (lastLook_mem hticks.positive hsleep _ _)
    exact ⟨hstate, hlast.symm, fun _ => hclock, nofun⟩

/-- If it is found at some time, the wait ends about an interval later: in less than one if both
that time and the first look are on ticks. -/
theorem soon_found (hticks : timer.KeepsTicks tick)
    (hw : Waits (.noting timer settled) deadline p w checks true w') (hp : 0 < p)
    (hstays : ∀ t t', t ≤ t' → settled w.state t = true → settled w.state t' = true)
    {t : Nanos} (hs : w.clock ≤ t) (ht : t ≤ lastLook tick deadline w.clock)
    (hfound : settled w.state t = true) :
    w'.clock < t + p + (tick - 1) ∧ (tick ∣ w.clock → tick ∣ t → w'.clock < t + p) := by
  have hsleep : 0 < min p timer.longest := Nat.lt_min.mpr ⟨hp, timer.positive⟩
  obtain ⟨-, -, -, hleast⟩ := hw.first_found hticks hp hstays
  obtain ⟨look, hlook, hle, hlt, hlt'⟩ := exists_look hticks.positive hsleep hs ht
  have hend := (hleast rfl).2 ⟨hlook, hstays _ _ hle hfound⟩
  have hcut : min p timer.longest ≤ p := Nat.min_le_left _ _
  refine ⟨?_, fun hclock hdvd => ?_⟩
  · unfold Nanos at *
    omega
  · have hsoon := hlt' hclock hdvd
    unfold Nanos at *
    omega

end Waits

/-- One time is no more than an interval, and some nanoseconds below a tick, after the other, and
from a tick on less than an interval. -/
structure Near (tick start p t t' : Nanos) : Prop where
  about : t < t' + p + (tick - 1)
  on_ticks : tick ∣ start → t < t' + p

theorem Near.refl (hp : 0 < p) (tick start t : Nanos) : Near tick start p t t where
  about := by
    unfold Nanos at *
    omega
  on_ticks _ := Nat.lt_add_of_pos_right hp

theorem Near.narrow {start start' t t' : Nanos} (hn : Near tick start' p t t')
    (h : tick ∣ start → tick ∣ start') : Near tick start p t t' where
  about := hn.about
  on_ticks hdvd := hn.on_ticks (h hdvd)

namespace Waits

variable {checks checks₁ : List Check} {r r₁ : Bool}

/-- Two waits with one deadline that look at different times end alike. -/
theorem alike (hticks : timer.KeepsTicks tick)
    (hw : Waits (.noting timer settled) deadline p w checks r w')
    (hv : Waits (.noting timer settled) deadline q v checks₁ r₁ v') (hp : 0 < p) (hq : 0 < q)
    (hclock : w.clock = v.clock) (hstate : w.state = v.state)
    (hstays : ∀ t t', t ≤ t' → settled w.state t = true → settled w.state t' = true) :
    r = r₁ ∧ w'.state = v'.state ∧
      (r = false → w'.clock = lastLook tick deadline w.clock ∧ v'.clock = w'.clock) ∧
      Near tick w.clock p w'.clock v'.clock ∧ Near tick w.clock q v'.clock w'.clock := by
  have hstays₁ := hstate ▸ hstays
  obtain ⟨hkept, hr, hlate, hfirst⟩ := hw.first_found hticks hp hstays
  obtain ⟨hkept₁, hr₁, hlate₁, hfirst₁⟩ := hv.first_found hticks hq hstays₁
  have hsame : r = r₁ := by rw [hr, hr₁, hstate, hclock]
  refine ⟨hsame, by rw [hkept, hkept₁, hstate], ?_⟩
  subst hsame
  cases r with
  | false =>
    have hend : v'.clock = w'.clock := by rw [hlate rfl, hlate₁ rfl, hclock]
    rw [hend]
    exact ⟨fun _ => ⟨hlate rfl, rfl⟩, .refl hp _ _ _, .refl hq _ _ _⟩
  | true =>
    obtain ⟨⟨hlook, hfound⟩, -⟩ := hfirst rfl
    obtain ⟨⟨hlook₁, hfound₁⟩, -⟩ := hfirst₁ rfl
    refine ⟨nofun, ?_, ?_⟩
    · obtain ⟨habout, hexact⟩ := hw.soon_found hticks hp hstays
        (hclock ▸ le_of_mem_looks hticks.positive hlook₁)
        (hclock ▸ le_lastLook_of_mem hticks.positive hlook₁) (hstate ▸ hfound₁)
      exact ⟨habout, fun hdvd => hexact hdvd (dvd_of_mem_looks (hclock ▸ hdvd) hlook₁)⟩
    · obtain ⟨habout, hexact⟩ := hv.soon_found hticks hq hstays₁
        (hclock ▸ le_of_mem_looks hticks.positive hlook)
        (hclock ▸ le_lastLook_of_mem hticks.positive hlook) (hstate ▸ hfound)
      exact ⟨habout, fun hdvd => hexact (hclock ▸ hdvd) (dvd_of_mem_looks hdvd hlook)⟩

/-- Two waits of one stage, each after its action. -/
theorem acted_alike {signal : S} {timeout : Nanos} (hticks : timer.KeepsTicks tick)
    (hw : Waits (.noting timer settled)
      ((w.acted (.noting timer settled) signal).clock + timeout) p
      (w.acted (.noting timer settled) signal) checks r w')
    (hv : Waits (.noting timer settled)
      ((v.acted (.noting timer settled) signal).clock + timeout) q
      (v.acted (.noting timer settled) signal) checks₁ r₁ v') (hp : 0 < p) (hq : 0 < q)
    (hclock : w.clock = v.clock) (hstate : w.state = v.state)
    (hstays : ∀ fired t t', t ≤ t' → settled fired t = true → settled fired t' = true) :
    r = r₁ ∧ w'.state = v'.state ∧
      (r = false → w'.clock = lastLook tick (w.clock + timeout) w.clock ∧ v'.clock = w'.clock) ∧
      Near tick w.clock p w'.clock v'.clock ∧ Near tick w.clock q v'.clock w'.clock := by
  have hnoted : ∀ w : PollWorld S (List (S × Nanos)),
      (w.acted (.noting timer settled) signal).state = w.state ++ [(signal, w.clock)] :=
    fun _ => rfl
  have hacted : ∀ w : PollWorld S (List (S × Nanos)),
      (w.acted (.noting timer settled) signal).clock = w.clock := fun w => clock_acted rfl
  have hsame : (w.acted (.noting timer settled) signal).clock =
      (v.acted (.noting timer settled) signal).clock := by
    rw [hacted, hacted, hclock]
  rw [← hsame] at hv
  have hends := hw.alike hticks hv hp hq hsame (by rw [hnoted, hnoted, hclock, hstate]) (hstays _)
  rw [hacted] at hends
  exact hends

end Waits

/-- Escalations that begin alike act alike, stage by stage, and end alike. -/
theorem Escalates.alike {stages : List (Stage S)} {logs logs₁ : List (StageLog S)}
    {r r₁ : Except ClockFault (Option S)} (hticks : timer.KeepsTicks tick)
    (he : Escalates (.noting timer settled) p stages w logs r w')
    (hf : Escalates (.noting timer settled) q stages v logs₁ r₁ v') (hp : 0 < p) (hq : 0 < q)
    (hclock : w.clock = v.clock) (hstate : w.state = v.state)
    (hstays : ∀ fired t t', t ≤ t' → settled fired t = true → settled fired t' = true) :
    (logs.map fun l => (l.signal, l.start)) = (logs₁.map fun l => (l.signal, l.start)) ∧ r = r₁ ∧
      Near tick w.clock p w'.clock v'.clock ∧ Near tick w.clock q v'.clock w'.clock := by
  have hacted : ∀ {signal : S} {w v : PollWorld S (List (S × Nanos))}, w.clock = v.clock →
      (w.acted (.noting timer settled) signal).clock =
        (v.acted (.noting timer settled) signal).clock := by
    intro signal w v hclock
    rw [clock_acted rfl, clock_acted rfl, hclock]
  induction he generalizing v logs₁ with
  | exhausted =>
    cases hf
    rw [hclock]
    exact ⟨rfl, rfl, .refl hp _ _ _, .refl hq _ _ _⟩
  | @settled stage rest w w' checks wait told =>
    cases hf with
    | settled wait₁ told₁ =>
      obtain ⟨-, -, -, hnear⟩ := wait.acted_alike hticks wait₁ hp hq hclock hstate hstays
      exact ⟨by simp [hclock], rfl, hnear⟩
    | ranOut wait₁ told₁ next₁ =>
      obtain ⟨hr, -⟩ := wait.acted_alike hticks wait₁ hp hq hclock hstate hstays
      cases hr
    | brokeOff untold₁ => exact absurd (hacted hclock ▸ told) (Nat.not_lt.mpr untold₁)
  | @ranOut stage rest w w₁ w' checks logs r wait told next ih =>
    cases hf with
    | settled wait₁ told₁ =>
      obtain ⟨hr, -⟩ := wait.acted_alike hticks wait₁ hp hq hclock hstate hstays
      cases hr
    | ranOut wait₁ told₁ next₁ =>
      obtain ⟨-, hkept, hover, -⟩ := wait.acted_alike hticks wait₁ hp hq hclock hstate hstays
      obtain ⟨hend, hsame⟩ := hover rfl
      obtain ⟨hlogs, hr, hnear, hnear₁⟩ := ih next₁ hsame.symm hkept
      have hdvd : tick ∣ w.clock → tick ∣ w₁.clock := fun hdvd => hend ▸ dvd_lastLook hdvd
      exact ⟨by simp [hclock, hlogs], hr, hnear.narrow hdvd, hnear₁.narrow hdvd⟩
    | brokeOff untold₁ => exact absurd (hacted hclock ▸ told) (Nat.not_lt.mpr untold₁)
  | @brokeOff stage rest w untold =>
    cases hf with
    | settled wait₁ told₁ => exact absurd (hacted hclock ▸ untold) (Nat.not_le.mpr told₁)
    | ranOut wait₁ told₁ next₁ => exact absurd (hacted hclock ▸ untold) (Nat.not_le.mpr told₁)
    | brokeOff untold₁ =>
      rw [hacted hclock]
      exact ⟨by simp [hclock], rfl, .refl hp _ _ _, .refl hq _ _ _⟩

/-- How often an escalation looks makes no difference to what it does, if what it looks out for
depends on nothing but the actions and the time and does not go away with time. Only the end may
come later, by less than an interval if it begins on a tick. -/
theorem interval_changes_no_action (hticks : timer.KeepsTicks tick) (stages : List (Stage S))
    (hp : 0 < p) (hq : 0 < q)
    (hstays : ∀ fired t t', t ≤ t' → settled fired t = true → settled fired t' = true)
    (w : PollWorld S (List (S × Nanos))) :
    let one := run (.noting timer settled) (Escalation.run ⟨stages, p⟩) w
    let other := run (.noting timer settled) (Escalation.run ⟨stages, q⟩) w
    actions one.2.log = actions other.2.log ∧
      one.1.map Outcome.signal? = other.1.map Outcome.signal? ∧
      (∀ fault, one.1 = .error fault → ∃ blocks : List (StageLog S),
        one.2.log = w.log ++ blocks.flatMap StageLog.events ∧
          BrokenOff timer.limit stages blocks) ∧
      ∀ ended ended', one.1 = .ok ended → other.1 = .ok ended' →
        ended.elapsed < ended'.elapsed + max p q + (tick - 1) ∧
        ended'.elapsed < ended.elapsed + max p q + (tick - 1) ∧
        (tick ∣ w.clock → ended.elapsed < ended'.elapsed + max p q ∧
          ended'.elapsed < ended.elapsed + max p q) := by
  intro one other
  obtain ⟨logs, r, w₁, he, hrun⟩ :=
    escalates_run (b := .noting timer settled) hp w.clock stages w
  obtain ⟨logs₁, r₁, v₁, hf, hrun₁⟩ :=
    escalates_run (b := .noting timer settled) hq w.clock stages w
  obtain ⟨hacts, rfl, hnear, hnear₁⟩ := he.alike hticks hf hp hq rfl rfl hstays
  have hle := he.clock_mono
  have hle₁ := hf.clock_mono
  have hone : one = _ := hrun
  have hother : other = _ := hrun₁
  rw [hone, hother]
  refine ⟨?_, ?_, ?_, ?_⟩
  · rw [he.log_eq, hf.log_eq, actions_append, actions_append, actions_stages, actions_stages, hacts]
  · cases r with
    | error fault => rfl
    | ok settled => simp [Except.map]
  · intro fault herror
    cases r with
    | error fault => exact ⟨logs, he.log_eq, he.brokenOff⟩
    | ok settled => cases herror
  · intro ended ended' hended hended'
    cases r with
    | error fault => cases hended
    | ok settled =>
      cases hended
      cases hended'
      rw [Outcome.elapsed_ofSettled, Outcome.elapsed_ofSettled]
      have habout := hnear.about
      have habout₁ := hnear₁.about
      refine ⟨?_, ?_, fun hdvd => ?_⟩
      · unfold Nanos at *
        omega
      · unfold Nanos at *
        omega
      · have hsoon := hnear.on_ticks hdvd
        have hsoon₁ := hnear₁.on_ticks hdvd
        unfold Nanos at *
        omega

/-- What is looked out for comes 4 after the second signal. To look every 3 or every 50 finds it at
different times of the same stage; every 50 is more than either stage has. -/
theorem interval_changes_no_action_sparse :
    let settled : List (Int × Nanos) → Nanos → Bool :=
      fun fired t => fired.any fun (signal, time) => signal = 15 && time + millis 4 ≤ t
    let stages : List (Stage Int) := [⟨2, millis 10⟩, ⟨15, millis 20⟩, ⟨9, millis 5⟩]
    let w : PollWorld Int (List (Int × Nanos)) := ⟨0, [], []⟩
    let often := run (.noting .simulated settled) (Escalation.run ⟨stages, millis 3⟩) w
    let seldom := run (.noting .simulated settled) (Escalation.run ⟨stages, millis 50⟩) w
    Timer.simulated.KeepsTicks (millis 1) ∧ 0 < millis 3 ∧ 0 < millis 50 ∧
    (∀ fired t t', t ≤ t' → settled fired t = true → settled fired t' = true) ∧
    often.1 = .ok (.settled 15 (millis 16)) ∧ seldom.1 = .ok (.settled 15 (millis 30)) ∧
    actions often.2.log = actions seldom.2.log ∧ millis 30 < millis 16 + millis 50 := by
  intro settled stages w often seldom
  have hstays : ∀ fired t t', t ≤ t' → settled fired t = true → settled fired t' = true := by
    intro fired t t' hle hfound
    simp only [settled, List.any_eq_true, Bool.and_eq_true, decide_eq_true_eq] at hfound ⊢
    obtain ⟨sent, hsent, hsignal, htime⟩ := hfound
    exact ⟨sent, hsent, hsignal, Nat.le_trans htime hle⟩
  have hoften : often.1 = .ok (.settled 15 (millis 16)) := by decide +kernel
  have hseldom : seldom.1 = .ok (.settled 15 (millis 30)) := by decide +kernel
  have hticks := Timer.simulated_keepsTicks
  obtain ⟨hacts, -, -, hnear⟩ := interval_changes_no_action hticks stages
    (by decide : 0 < millis 3) (by decide : 0 < millis 50) hstays w
  obtain ⟨-, -, hsoon⟩ := hnear _ _ hoften hseldom
  refine ⟨hticks, by decide, by decide, hstays, hoften, hseldom, ?_, (hsoon (Nat.dvd_zero _)).2⟩
  dsimp only [often, seldom]
  exact hacts

/-- Off the ticks of the timer, ends may be further apart than the intervals, and no check is made
before a deadline that cannot be told. -/
theorem interval_matters_off_ticks :
    let settled : List (Int × Nanos) → Nanos → Bool := fun _ t => 950000 ≤ t
    let w : PollWorld Int (List (Int × Nanos)) := ⟨900000, [], []⟩
    let ends (timeout interval : Nanos) :=
      (run (.noting .simulated settled) (Escalation.run ⟨[⟨15, timeout⟩], interval⟩) w).1
    ends (millis 10) 1200000 = .ok (.settled 15 2100000) ∧
    ends (millis 10) 100000 = .ok (.settled 15 100000) ∧
    ¬ 2100000 < 100000 + max 1200000 100000 ∧
    ends longestDuration 1200000 = .error .outOfRange := by
  decide +kernel

end SandboxNet
