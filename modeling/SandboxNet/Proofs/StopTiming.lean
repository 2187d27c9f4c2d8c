import SandboxNet.Proofs.Lookout
import SandboxNet.Proofs.StopShape

/-! How long a stop takes if the unit dies some time after a signal that is strong enough for it:
which signal is the last one sent, and at which look the unit is found gone. -/
namespace SandboxNet

variable {φ σ ι : Type} {tick : Nanos}

/-- A unit dies `delay` after the first signal that is at least as strong as the one it heeds. No
call takes time, and to be released makes no difference. -/
structure DiesAfter (b : Behaviour φ σ ι) (unit : String) (heeded : StopSignal) (delay : Nanos)
    (fate : σ → Option Nanos → Prop) : Prop where
  instant : ∀ c t s, (b.supervise c t s).2.1 = 0
  asked : ∀ t {s death}, fate s death →
    (b.supervise (.isActive unit) t s).1 = !death.any (· ≤ t) ∧
      fate (b.supervise (.isActive unit) t s).2.2 death
  signalled : ∀ signal t {s death}, fate s death → fate (b.supervise (.signal unit signal) t s).2.2
    (if heeded.force ≤ signal.force then some (death.getD (t + delay)) else death)
  released : ∀ t {s death}, fate s death → fate (b.supervise (.release unit) t s).2.2 death

theorem DiesAfter.mortal {b : Behaviour φ σ ι} {unit : String} {heeded : StopSignal}
    {delay : Nanos} {fate : σ → Option Nanos → Prop}
    (hb : DiesAfter b unit heeded delay fate) : Mortal (unitBehaviour b unit)
      (fun signal => decide (heeded.force ≤ signal.force)) delay fate where
  acted signal t _ _ hx := by
    refine ⟨hb.instant _ _ _, ?_⟩
    simp only [decide_eq_true_eq]
    exact hb.signalled signal t hx
  checked {t _ _} hx := by
    obtain ⟨hreply, hfate⟩ := hb.asked t hx
    refine ⟨hb.instant _ _ _, ?_, hfate⟩
    exact (congrArg (!·) hreply).trans (Bool.not_not _)

/-- The stages before the one that is heeded are too weak, and those from it on are not. -/
theorem StopPolicy.stages_heeded (p : StopPolicy) (heeded : StopSignal) :
    (∀ stage ∈ p.escalation.stages.take (heeded.force - 1),
      decide (heeded.force ≤ stage.signal.force) = false) ∧
    (∀ stage ∈ p.escalation.stages.drop (heeded.force - 1),
      decide (heeded.force ≤ stage.signal.force) = true) ∧
    p.escalation.stages.drop (heeded.force - 1) ≠ [] ∧
    (p.escalation.stages.take (heeded.force - 1)).length = heeded.force - 1 := by
  cases heeded <;> simp [StopPolicy.escalation, StopSignal.force]

/-- The time that the stages after the `i`th and up to the `j`th are given together, in whole
ticks. -/
def StopPolicy.span (p : StopPolicy) (tick : Nanos) (i j : Nat) : Nanos :=
  ((([p.graceful, p.terminate, p.kill].map (tickFrom tick)).take j).drop i).sum

theorem StopPolicy.span_eq (p : StopPolicy) (tick : Nanos) (i j : Nat) :
    p.span tick i j = spent tick (p.escalation.stages.drop i) (j - i) := by
  rw [spent, ← List.drop_take, List.map_drop, List.map_take]
  rfl

/-- A scripted supervisor of one unit, with the time of its death if that is set. -/
structure ScriptedSupervisor.Fated (unit : String) (heeded : StopSignal) (delay : Nanos)
    (s : ScriptedSupervisor) (death : Option Nanos) : Prop where
  obeys : s.obeys = some heeded
  delay : s.delay = delay
  release : s.release = .keep
  refused : s.refused = []
  units : s.units = [(unit, death)]

theorem ScriptedSupervisor.diesAfter (unit : String) (heeded : StopSignal) (delay : Nanos) :
    DiesAfter ScriptedWorld.behaviour unit heeded delay (Fated unit heeded delay) where
  instant := answer_instant
  asked t s death hs := by
    refine ⟨?_, hs⟩
    simp [ScriptedWorld.behaviour, answer, isActive, hs.units]
  signalled signal t s death hs := by
    by_cases hforce : heeded.force ≤ signal.force
    · simp only [ScriptedWorld.behaviour, answer, hs.refused, hs.obeys, hs.delay, hforce,
        List.contains_nil, Bool.false_eq_true, if_false, Option.any_some, decide_true, if_true]
      exact ⟨hs.obeys, hs.delay, hs.release, hs.refused, by simp [doom, hs.units]⟩
    · simp [ScriptedWorld.behaviour, answer, hs.obeys, hs.refused, hforce, hs]
  released t s death hs := by
    simp [ScriptedWorld.behaviour, answer, hs.release, hs]

namespace Manager

open LifecycleProgram

variable {b : Behaviour φ σ ι} {heeded : StopSignal} {delay : Nanos}
  {fate : σ → Option Nanos → Prop}

/-- An escalation against a unit that is to die: the stages that are too weak run out, and then the
death is looked out for. -/
theorem escalation_fated {unit : String} {p : StopPolicy} {w w' : PollWorld StopSignal σ}
    {logs : List (StageLog StopSignal)} {r : Except ClockFault (Option StopSignal)} {start : Nanos}
    (hb : DiesAfter b unit heeded delay fate) (hticks : b.timer.KeepsTicks tick)
    (hi : 0 < p.interval) (hx : fate w.state none) (hw : tick ∣ w.clock)
    (he : Escalates (unitBehaviour b unit) p.interval p.escalation.stages w logs r w')
    (hstart : w.clock + spent tick p.escalation.stages (heeded.force - 1) = start)
    (hlimit : start < b.timer.limit) :
    ∃ sent, logs.map (·.signal) =
        (p.escalation.stages.take (heeded.force - 1)).map (·.signal) ++ sent ∧
      fate w'.state (some (start + delay)) ∧
      Lookout tick b.timer.limit (p.escalation.stages.drop (heeded.force - 1))
        (tickFrom tick (min p.interval b.timer.longest)) start (start + delay) sent w'.clock
        r.isOk := by
  obtain ⟨hweak, hstrong, hsome, hlength⟩ := p.stages_heeded heeded
  have hspent : spent tick (p.escalation.stages.take (heeded.force - 1))
      (p.escalation.stages.take (heeded.force - 1)).length =
        spent tick p.escalation.stages (heeded.force - 1) := by
    rw [hlength, spent, spent, List.take_take, Nat.min_self]
  rw [← List.take_append_drop (heeded.force - 1) p.escalation.stages] at he
  obtain ⟨w₁, before, after, he₁, hfate₁, hclock₁, rfl, hsignals⟩ :=
    hb.mortal.unheeded hticks hi hweak he hw hx (by rw [hspent, hstart]; exact hlimit)
  rw [hspent, hstart] at hclock₁
  have hw₁ : tick ∣ w₁.clock := by
    rw [hclock₁, ← hstart]
    exact Nat.dvd_add hw (dvd_spent _ _ _)
  obtain ⟨⟨hnil, -⟩ | hfate, hlook⟩ := hb.mortal.heeded hticks hi he₁ hstrong hw₁ hfate₁ rfl
  · exact absurd hnil hsome
  · rw [hclock₁] at hfate hlook
    exact ⟨_, by rw [List.map_append, hsignals], hfate, hlook⟩

/-- Taking the sandbox away changes neither the time nor the fate of the unit. -/
theorem stillActive_fated (m : Manager) {name : SandboxName} {w : World φ σ ι} {time : Nanos}
    (hb : DiesAfter b name.unit heeded delay fate) (hfate : fate w.supervisor (some time)) :
    stillActive b m name w = !decide (time ≤ w.clock) := by
  have hfate' : fate (reclaimed b m name w).supervisor (some time) := by
    rw [reclaimed, run_reclaim]
    exact hb.released _ hfate
  rw [stillActive, (hb.asked _ hfate').1, clock_reclaimed hb.instant]
  rfl

/-- A stop of a unit that is to die ends as the escalation does. -/
theorem stop_fated (m : Manager) {name : SandboxName} (tracker : Tracker) {w : World φ σ ι}
    {start : Nanos} (hb : DiesAfter b name.unit heeded delay fate)
    (hticks : b.timer.KeepsTicks tick) (hx : fate w.supervisor none) (hw : tick ∣ w.clock)
    (hstart : w.clock + spent tick m.config.stop.escalation.stages (heeded.force - 1) = start)
    (hlimit : start < b.timer.limit) :
    let stop := (m.stop name.text).run.run tracker
    let ended := World.attempt b stop w
    ∃ sent told, signals (witnessed b stop w) =
        ((m.config.stop.escalation.stages.take (heeded.force - 1)).map (·.signal) ++ sent).map
          (name.unit, ·) ∧
      Lookout tick b.timer.limit (m.config.stop.escalation.stages.drop (heeded.force - 1))
        (tickFrom tick (min m.config.stop.interval b.timer.longest)) start (start + delay) sent
        ended.2.clock told ∧
      (told = true → ∃ tracker', ended.1 =
          .ok (if start + delay ≤ ended.2.clock then .ok ()
            else .error (.stillActive name.unit (ended.2.clock - w.clock)), tracker') ∧
        tracker'.stateOf name =
          some (if start + delay ≤ ended.2.clock then .stopped else .failed)) := by
  intro stop ended
  obtain ⟨hfirst, hx₀⟩ := hb.asked w.clock hx
  have hclock₀ := clock_askedActive hb.instant name.unit w
  obtain ⟨w₁, logs, r, events, he, -, hend⟩ := stop_escalates (m := m) tracker hfirst
  obtain ⟨sent, hsent, hfate, hlook⟩ := escalation_fated hb hticks m.interval_pos hx₀
    (hclock₀.symm ▸ hw) he (hclock₀.symm ▸ hstart) hlimit
  have hsignals : signals (logs.flatMap (stageSeen name.unit)) =
      ((m.config.stop.escalation.stages.take (heeded.force - 1)).map (·.signal) ++ sent).map
        (name.unit, ·) := by
    rw [signals_stageSeen, ← hsent, List.map_map]
    rfl
  refine ⟨sent, r.isOk, ?_⟩
  cases r with
  | error fault =>
    have hended : ended = _ := hend.1
    rw [hended, hend.2, signals_asked]
    exact ⟨hsignals, hlook, nofun⟩
  | ok settled =>
    obtain ⟨rest, hrest, hended, hseen⟩ := hend
    obtain ⟨t, t', hwound⟩ := observed_windUp (b := b) m name _ _ w₁
    obtain ⟨t'', hrun⟩ := run_windUp (b := b) m name _ _ w₁
    rw [← hrest] at hwound hrun
    have hclock : ended.2.clock = w₁.clock := by
      refine (congrArg (·.2.clock) hended).trans ?_
      rw [hrest]
      exact clock_windUp hb.instant m name _ _ w₁
    have hresult : ended.1 = .ok (World.run b rest w₁).1 := congrArg Prod.fst hended
    rw [hresult, hrun, hclock, hseen, hwound]
    refine ⟨?_, hlook, fun _ => ?_⟩
    · rw [signals_asked, signals_append, signals_append, signals_cleanupSeen, hsignals]
      exact List.append_nil _
    · rw [stillActive_fated m hb hfate]
      by_cases hgone : start + delay ≤ w₁.clock
      · simp only [hgone, decide_true, Bool.not_true, Bool.false_eq_true, if_false, if_true]
        exact ⟨_, rfl, stateOf_note _ _ _ _⟩
      · simp only [hgone, decide_false, Bool.not_false, if_false, if_true,
          Outcome.elapsed_ofSettled, hclock₀]
        exact ⟨_, rfl, stateOf_note _ _ _ _⟩

/-- What a stop from `start` on comes to if the unit dies `delay` after the first signal at least as
strong as the one it heeds. Timeouts count in whole ticks; each stage looks for the unit every
`interval` and once more at its end. No stage may end beyond the limit. -/
structure StopsOnTime (p : StopPolicy) (name : SandboxName) (start : Nanos) (heeded : StopSignal)
    (delay tick interval limit : Nanos) (sent : List (String × StopSignal))
    (ended : Except ClockFault (Except SandboxError Unit × Tracker)) (finish : Nanos) : Prop where
  in_time : ∀ n, IsLeast
      {n | heeded.force ≤ n ∧ n ≤ 3 ∧ delay ≤ p.span tick (heeded.force - 1) n} n →
    start + p.span tick 0 n < limit →
    sent = ([.graceful, .terminate, .kill].take n).map ("corral-" ++ name.text ++ ".service", ·) ∧
    (∃ tracker, ended = .ok (.ok (), tracker) ∧ tracker.stateOf name = some .stopped) ∧
    ∃ t, finish = start + t ∧ IsLeast {t | t ∈ grid (p.span tick 0 (n - 1)) (p.span tick 0 n)
      interval ∧ p.span tick 0 (heeded.force - 1) + delay ≤ t} t
  too_late : (∀ n, heeded.force ≤ n → n ≤ 3 → p.span tick (heeded.force - 1) n < delay) →
    start + p.span tick 0 3 < limit →
    sent = [.graceful, .terminate, .kill].map ("corral-" ++ name.text ++ ".service", ·) ∧
    (∃ tracker, ended = .ok (.error (.stillActive ("corral-" ++ name.text ++ ".service")
      (p.span tick 0 3)), tracker) ∧ tracker.stateOf name = some .failed) ∧
    finish = start + p.span tick 0 3

/-- By a timer that keeps ticks, a stop from a tick on sends no signal beyond the stage in which the
unit dies and is over at the first look after its death. -/
theorem stops_on_time (m : Manager) (name : SandboxName) (tracker : Tracker) (w : World φ σ ι)
    (hticks : b.timer.KeepsTicks tick) (hw : tick ∣ w.clock)
    (hb : DiesAfter b ("corral-" ++ name.text ++ ".service") heeded delay fate)
    (hx : fate w.supervisor none) :
    let stop := (m.stop name.text).run.run tracker
    let ended := World.attempt b stop w
    StopsOnTime m.config.stop name w.clock heeded delay tick
      (tickFrom tick (min m.config.stop.interval b.timer.longest)) b.timer.limit
      (signals (witnessed b stop w)) ended.1 ended.2.clock := by
  intro stop ended
  have hforce : heeded.force - 1 + 1 = heeded.force := by
    cases heeded <;> rfl
  have hfated : ∀ n, heeded.force ≤ n →
      w.clock + spent tick m.config.stop.escalation.stages n < b.timer.limit → _ :=
    fun n hn hlimit => stop_fated m tracker hb hticks hx hw rfl (Nat.lt_of_le_of_lt
      (Nat.add_le_add_left (spent_mono tick _ (Nat.le_trans (Nat.sub_le _ _) hn)) _) hlimit)
  constructor
  · intro n hn hlimit
    simp only [StopPolicy.span_eq, Nat.sub_zero, List.drop_zero] at hn hlimit ⊢
    obtain ⟨sent, told, hsent, hlook, hend⟩ := hfated n hn.1.1 hlimit
    rw [← hforce, Nat.add_sub_cancel] at hn
    obtain ⟨htold, hsignals, htime, t, ht, hleast⟩ := hlook.in_time hn hlimit
    obtain ⟨tracker', hresult, hstate⟩ := hend htold
    rw [if_pos htime] at hresult hstate
    rw [hsignals, List.map_take] at hsent
    exact ⟨hsent, ⟨tracker', hresult, hstate⟩, t, ht, hleast⟩
  · intro hnone hlimit
    simp only [StopPolicy.span_eq, Nat.sub_zero, List.drop_zero] at hnone hlimit ⊢
    have hthree : heeded.force ≤ 3 := by
      cases heeded <;> decide
    obtain ⟨sent, told, hsent, hlook, hend⟩ := hfated 3 hthree hlimit
    rw [← hforce, Nat.add_sub_cancel] at hnone
    obtain ⟨htold, hsignals, hfinish, htime⟩ :=
      hlook.too_late (Nat.lt_of_lt_of_le (Nat.lt_of_succ_le hforce.le) hthree) hnone hlimit
    obtain ⟨tracker', hresult, hstate⟩ := hend htold
    rw [if_neg (Nat.not_le.mpr htime)] at hresult hstate
    rw [hsignals] at hsent
    rw [hfinish, Nat.add_sub_cancel_left] at hresult
    exact ⟨hsent, ⟨tracker', hresult, hstate⟩, hfinish⟩

/-- A unit that heeds the second signal and dies in the third stage, and one that dies too late. The
first stage is given six and a half milliseconds and takes seven. -/
theorem stops_on_time_scripted :
    let b := ScriptedWorld.behaviour
    let m : Manager := ⟨{ stop := ⟨6500000, millis 9, millis 4, millis 3⟩ }, rfl⟩
    let web : SandboxName := ⟨"web", rfl⟩
    let stop := (m.stop web.text).run.run ∅
    let dying (delay : Nanos) : ScriptedWorld := .initial
      { obeys := some .terminate, delay := delay, units := [("corral-web.service", none)] } {}
    let slow := dying (millis 10)
    let slower := dying (millis 14)
    b.timer.KeepsTicks (millis 1) ∧
    signals (witnessed b stop slow) = [("corral-web.service", .graceful),
      ("corral-web.service", .terminate), ("corral-web.service", .kill)] ∧
    (∃ tracker, (World.attempt b stop slow).1 = .ok (.ok (), tracker)) ∧
    (World.attempt b stop slow).2.clock = millis 19 ∧
    (∃ tracker, (World.attempt b stop slower).1 =
      .ok (.error (.stillActive "corral-web.service" (millis 20)), tracker)) ∧
    (World.attempt b stop slower).2.clock = millis 20 := by
  intro b m web stop dying slow slower
  have hticks := Timer.simulated_keepsTicks
  have honly : ∀ t j : Nat, t = min (millis 16 + j * millis 3) (millis 20) →
      millis 7 + millis 10 ≤ t → t ≤ millis 19 → t = millis 19 := by
    unfold millis Nanos
    omega
  have hround : tickFrom (millis 1) (min (millis 3) Timer.thirtyYears) = millis 3 := by decide
  have hstops : ∀ delay, StopsOnTime m.config.stop web 0 .terminate delay (millis 1) (millis 3)
      clockEnd (signals (witnessed b stop (dying delay))) (World.attempt b stop (dying delay)).1
      (World.attempt b stop (dying delay)).2.clock := by
    intro delay
    rw [← hround]
    exact stops_on_time (b := b) m web ∅ (dying delay) hticks (Nat.dvd_zero _)
      (ScriptedSupervisor.diesAfter "corral-web.service" .terminate delay)
      ⟨rfl, rfl, rfl, rfl, rfl⟩
  have hspan : m.config.stop.span (millis 1) 0 1 = millis 7 ∧
      m.config.stop.span (millis 1) 0 2 = millis 16 ∧
      m.config.stop.span (millis 1) 0 3 = millis 20 := by decide
  have hthird : IsLeast {n | StopSignal.terminate.force ≤ n ∧ n ≤ 3 ∧
      millis 10 ≤ m.config.stop.span (millis 1) (StopSignal.terminate.force - 1) n} 3 := by
    refine ⟨⟨by decide, by decide, by decide⟩, fun n hn => ?_⟩
    obtain ⟨h2, h3, hd⟩ := hn
    rcases Nat.lt_or_eq_of_le h2 with h2 | rfl
    · exact h2
    · exact absurd hd (by decide)
  have hnone : ∀ n, StopSignal.terminate.force ≤ n → n ≤ 3 →
      m.config.stop.span (millis 1) (StopSignal.terminate.force - 1) n < millis 14 := by
    intro n h2 h3
    have hn : n = 2 ∨ n = 3 := by
      have h2 : 2 ≤ n := h2
      omega
    rcases hn with rfl | rfl <;> decide
  obtain ⟨hsent, ⟨tracker, hok, -⟩, t, hclock, ⟨⟨j, hj⟩, hdead⟩, hfirst⟩ :=
    (hstops (millis 10)).in_time 3 hthird (by decide)
  have hle : t ≤ millis 19 := hfirst ⟨⟨1, by decide⟩, by decide⟩
  obtain ⟨-, ⟨tracker', herror, -⟩, hfinish⟩ :=
    (hstops (millis 14)).too_late hnone (by decide)
  rw [hspan.2.2] at herror hfinish
  refine ⟨hticks, hsent, ⟨tracker, hok⟩, ?_, ⟨tracker', herror⟩, hfinish.trans (Nat.zero_add _)⟩
  have hgrid : t = min (millis 16 + j * millis 3) (millis 20) := by
    rw [hj, ← hspan.2.1, ← hspan.2.2]
  have hafter : millis 7 + millis 10 ≤ t := by
    rw [← hspan.1]
    exact hdead
  rw [hclock, Nat.zero_add]
  exact honly t j hgrid hafter hle

/-- The timing of sleeps that end on the nanosecond and are never cut short, by a clock that tells
every deadline. -/
def StopsToTheDot (m : Manager) (w : ScriptedWorld) (delay : Nanos) : Prop :=
  let stop := (m.stop "web").run.run ∅
  let ended := World.attempt ScriptedWorld.behaviour stop w
  ∀ limit, StopsOnTime m.config.stop ⟨"web", rfl⟩ w.clock .graceful delay 1 m.config.stop.interval
    limit (signals (witnessed ScriptedWorld.behaviour stop w)) ended.1 ended.2.clock

/-- A stage of half a millisecond lasts a whole one, an interval of more than thirty years is cut to
thirty, and a stop breaks off at a deadline that cannot be told. -/
theorem stops_not_to_the_dot :
    let dying (delay : Nanos) : ScriptedWorld := .initial
      { delay := delay, units := [("corral-web.service", none)] } {}
    let short : Manager := ⟨{ stop := ⟨500000, 0, 0, millis 1⟩ }, rfl⟩
    let long : Manager :=
      ⟨{ stop := ⟨Timer.thirtyYears + millis 1, 0, 0, Timer.thirtyYears + millis 1⟩ }, rfl⟩
    let endless : Manager := ⟨{ stop := ⟨longestDuration, 0, 0, millis 1⟩ }, rfl⟩
    (∀ delay, ∃ fate, fate (dying delay).supervisor none ∧
      DiesAfter ScriptedWorld.behaviour "corral-web.service" .graceful delay fate) ∧
    ¬ StopsToTheDot short (dying (millis 10)) (millis 10) ∧
    ¬ StopsToTheDot long (dying 1) 1 ∧ ¬ StopsToTheDot endless (dying 0) 0 := by
  intro dying short long endless
  refine ⟨fun delay => ⟨_, ⟨rfl, rfl, rfl, rfl, rfl⟩, ScriptedSupervisor.diesAfter _ _ _⟩,
    fun h => ?_, fun h => ?_, fun h => ?_⟩
  · have hclock : (World.attempt ScriptedWorld.behaviour ((short.stop "web").run.run ∅)
        (dying (millis 10))).2.clock = millis 1 := by
      decide +kernel
    have hnone : ∀ n, 1 ≤ n → n ≤ 3 → short.config.stop.span 1 0 n < millis 10 := by
      intro n h1 h3
      have hn : n = 1 ∨ n = 2 ∨ n = 3 := by omega
      rcases hn with rfl | rfl | rfl <;> decide
    obtain ⟨-, -, hfinish⟩ := (h clockEnd).too_late hnone (by decide)
    exact absurd (hclock.symm.trans hfinish) (by decide)
  · have hclock : (World.attempt ScriptedWorld.behaviour ((long.stop "web").run.run ∅)
        (dying 1)).2.clock = Timer.thirtyYears := by
      decide +kernel
    have hfirst : IsLeast {n | 1 ≤ n ∧ n ≤ 3 ∧ 1 ≤ long.config.stop.span 1 0 n} 1 :=
      ⟨by decide, fun n hn => hn.1⟩
    obtain ⟨-, -, t, hfinish, ⟨⟨j, hj⟩, hdead⟩, -⟩ := (h clockEnd).in_time 1 hfirst (by decide)
    -- the only look before the end of the stage comes before the death
    cases j with
    | zero =>
      rw [hj] at hdead
      exact absurd hdead (by decide)
    | succ j =>
      have hspan : long.config.stop.span 1 0 1 = long.config.stop.interval := by decide
      have hend : t = long.config.stop.interval := by
        rw [hj, hspan]
        exact Nat.min_eq_right (Nat.le_trans (Nat.le_mul_of_pos_left _ j.succ_pos)
          (Nat.le_add_left _ _))
      rw [hend] at hfinish
      exact absurd (hclock.symm.trans hfinish) (by decide)
  · have hbroke : (World.attempt ScriptedWorld.behaviour ((endless.stop "web").run.run ∅)
        (dying 0)).1.isOk = false := by
      decide +kernel
    have hfirst : IsLeast {n | 1 ≤ n ∧ n ≤ 3 ∧ 0 ≤ endless.config.stop.span 1 0 n} 1 :=
      ⟨by decide, fun n hn => hn.1⟩
    obtain ⟨-, ⟨tracker, hok, -⟩, -⟩ := (h (longestDuration + 1)).in_time 1 hfirst (by decide)
    rw [hok] at hbroke
    cases hbroke

end Manager

end SandboxNet
