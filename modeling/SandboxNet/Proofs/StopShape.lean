import SandboxNet.Proofs.Attempts
import SandboxNet.Proofs.BridgeLoops
import SandboxNet.Proofs.Timing

/-! The shape of every stop, whatever the supervisor answers and whatever fails on the host. A stop
goes through its whole ladder and takes the sandbox away, or it breaks off at a deadline that cannot
be told and leaves everything as it is. -/
namespace SandboxNet

variable {φ σ ι : Type} {b : Behaviour φ σ ι}

theorem StopPolicy.sum_timeouts {p : StopPolicy} {total : Nanos} (htotal : p.total? = some total) :
    (p.escalation.stages.map (·.timeout)).sum = total := by
  obtain ⟨-, hsum⟩ := Option.ite_none_right_eq_some.mp htotal
  cases hsum
  simp [StopPolicy.escalation, Nat.add_assoc]

theorem ScriptedSupervisor.answer_instant (c : SupervisorCall) (t : Nanos)
    (s : ScriptedSupervisor) : (s.answer c t).2.1 = 0 := by
  unfold ScriptedSupervisor.answer
  cases c with
  | isActive unit => rfl
  | launch spec => cases s.launch <;> rfl
  | signal unit signal => grind
  | release unit => cases s.release <;> rfl

def Observed.signal? : Observed → Option (String × StopSignal)
  | .signalled unit _ signal => some (unit, signal)
  | _ => none

/-- The signals among calls, each with the unit it is sent to. -/
def signals (calls : List Observed) : List (String × StopSignal) :=
  calls.filterMap Observed.signal?

theorem signals_append (calls more : List Observed) :
    signals (calls ++ more) = signals calls ++ signals more :=
  List.filterMap_append ..

theorem signals_asked (unit : String) (t : Nanos) (active : Bool) (calls : List Observed) :
    signals (.asked unit t active :: calls) = signals calls := rfl

theorem signals_released (unit : String) (t : Nanos) (calls : List Observed) :
    signals (.released unit t :: calls) = signals calls := rfl

theorem signals_stageSeen (unit : String) (logs : List (StageLog StopSignal)) :
    signals (logs.flatMap (stageSeen unit)) = logs.map fun l => (unit, l.signal) := by
  induction logs with
  | nil => rfl
  | cons l logs ih =>
    have hchecks : signals ((l.checks.map Check.event).map (.ofPoll unit)) = [] := by
      simp [signals, Observed.ofPoll, Check.event, Observed.signal?]
    have hstage : signals (stageSeen unit l) =
      (unit, l.signal) :: signals ((l.checks.map Check.event).map (.ofPoll unit)) := rfl
    rw [List.flatMap_cons, signals_append, hstage, hchecks, ih]
    rfl

namespace Manager

open LifecycleProgram

theorem untimed_reclaim (m : Manager) (name : SandboxName) : Untimed (reclaim m name) := by
  refine (untimed_onHost _).bind fun clean => ?_
  exact (untimed_supervisor _).bind fun _ => trivial

theorem untimed_windUp (m : Manager) (name : SandboxName) (tracker : Tracker)
    (outcome : Outcome StopSignal) : Untimed (windUp m name tracker outcome) := by
  refine (untimed_reclaim m name).bind fun _ => ?_
  refine (untimed_supervisor _).bind fun active => untimed_now.bind fun t => ?_
  cases active <;> trivial

theorem interval_pos (m : Manager) : 0 < m.config.stop.escalation.interval :=
  (Config.fault?_eq_none.mp m.sound).2.2

/-- Nothing is done to the host but questions and taking things away. -/
def Sparing (c : LifecycleCall) : Prop :=
  ∀ n : NetCall, c = .net n → n.clears = true

theorem sparing_stop (m : Manager) (name : SandboxName) (tracker : Tracker) :
    ((m.stop name.text).run.run tracker).Only Sparing := by
  have hsupervisor : ∀ c : SupervisorCall, (ask (.supervisor c)).Only Sparing :=
    fun c => ⟨nofun, fun _ => trivial⟩
  have hnow : (ask .now).Only Sparing := ⟨nofun, fun _ => trivial⟩
  have hunit (p : Polling StopSignal (Outcome StopSignal)) :
      (onUnit name.unit p).Only Sparing := by
    induction p with
    | done a => trivial
    | ask c next ih => cases c <;> exact ⟨nofun, fun r => ih _⟩
  have hreclaim : (reclaim m name).Only Sparing := by
    have hcleanup : (onHost (Attachment.cleanup name.text m.config.bridge)).Only Sparing :=
      onHost_within (Attachment.clears_cleanup name.text m.config.bridge)
    exact hcleanup.bind fun _ => (hsupervisor _).bind fun _ => trivial
  rw [stop_run]
  refine (hsupervisor _).bind fun active => ?_
  cases active with
  | false => exact hreclaim.bind fun _ => hnow.bind fun _ => trivial
  | true =>
    simp only [if_true, stopActive_run]
    refine hnow.bind fun t => (hunit _).bind fun outcome => hreclaim.bind fun _ => ?_
    refine (hsupervisor _).bind fun active => hnow.bind fun t => ?_
    cases active <;> trivial

theorem loopFree_answerInTime {c : LifecycleCall} (hc : Sparing c) {w : World φ σ ι}
    (hw : w.net.host.LoopFree) : (World.answerInTime b c w).2.net.host.LoopFree := by
  cases c with
  | net n =>
    have hanswer : (World.answerInTime b (.net n) w).2.net = (w.net.answer b.faults n).2 := rfl
    rw [hanswer, NetWorld.answer]
    split
    · exact hw
    · exact hw.answer (hc n rfl)
  | supervisor | image | now | deadline | sleep => exact hw

theorem signals_cleanupSeen (m : Manager) (name : SandboxName) (net : NetWorld φ) :
    signals (cleanupSeen b m name net) = [] := by
  simp [signals, cleanupSeen, Observed.signal?]

section Parts

variable {m : Manager} {name : SandboxName} {w w₁ : World φ σ ι}

/-- A stop of a unit that is not active asks for no deadline. -/
theorem attempt_stop_inactive (tracker : Tracker)
    (hfirst : (b.supervise (.isActive name.unit) w.clock w.supervisor).1 = false) :
    let stop := (m.stop name.text).run.run tracker
    World.attempt b stop w = (.ok (World.run b stop w).1, (World.run b stop w).2) ∧
      witnessed b stop w = observed b stop w := by
  intro stop
  have hrest : Untimed (do
      let _ ← reclaim m name
      let t ← ask .now
      return ((.ok (), tracker.note name .stopped t) : Except SandboxError Unit × Tracker)) :=
    (untimed_reclaim m name).bind fun _ => untimed_now.bind fun _ => trivial
  have hstop : stop = _ := stop_run m name tracker
  rw [hstop, ((untimed_isActive name.unit).attempt_bind _ w).1,
    ((untimed_isActive name.unit).attempt_bind _ w).2, run_bind, observed_bind, run_isActive,
    hfirst]
  obtain ⟨hattempt, hcalls⟩ := hrest.attempt_eq (b := b) (askedActive b name.unit w)
  exact ⟨hattempt, congrArg _ hcalls⟩

/-- A stop of a unit that is active escalates, and goes on if that does not break off. -/
theorem stop_escalates (tracker : Tracker)
    (hfirst : (b.supervise (.isActive name.unit) w.clock w.supervisor).1 = true) :
    let stop := (m.stop name.text).run.run tracker
    let asked := askedActive b name.unit w
    ∃ w₁ logs r events, Escalates (unitBehaviour b name.unit) m.config.stop.interval
        m.config.stop.escalation.stages ⟨asked.clock, asked.supervisor, []⟩ logs r
        ⟨w₁.clock, w₁.supervisor, events⟩ ∧ w₁.net = w.net ∧
      match r with
      | .ok settled => ∃ rest, rest = windUp m name (tracker.note name .stopping asked.clock)
            (.ofSettled settled (w₁.clock - asked.clock)) ∧
          World.attempt b stop w = (.ok (World.run b rest w₁).1, (World.run b rest w₁).2) ∧
          witnessed b stop w = .asked name.unit w.clock true ::
            (logs.flatMap (stageSeen name.unit) ++ observed b rest w₁)
      | .error fault => World.attempt b stop w = (.error fault, w₁) ∧
          witnessed b stop w = .asked name.unit w.clock true ::
            logs.flatMap (stageSeen name.unit) := by
  intro stop asked
  have hstop : stop = _ := stop_run m name tracker
  rcases hescalate : World.attempt b (onUnit name.unit m.config.stop.escalation.run) asked with
    ⟨ending, w₁⟩
  obtain ⟨logs, r, events, he, rfl, hnet, hstages⟩ :=
    onUnit_escalates name.unit _ m.interval_pos hescalate
  refine ⟨w₁, logs, r, events, he, hnet, ?_⟩
  rw [hstop, ((untimed_isActive name.unit).attempt_bind _ w).1,
    ((untimed_isActive name.unit).attempt_bind _ w).2, run_isActive, hfirst, observed_isActive,
    hfirst]
  simp only [if_true, stopActive_run]
  rw [(untimed_now.attempt_bind _ _).1, (untimed_now.attempt_bind _ _).2, run_now, observed_now,
    attempt_bind, witnessed_bind, hescalate, hstages]
  cases r with
  | error fault => exact ⟨rfl, congrArg _ (List.append_nil _)⟩
  | ok settled =>
    obtain ⟨hattempt, hcalls⟩ := (untimed_windUp m name (tracker.note name .stopping asked.clock)
      (.ofSettled settled (w₁.clock - asked.clock))).attempt_eq (b := b) w₁
    refine ⟨_, rfl, hattempt, ?_⟩
    rw [← hcalls]
    rfl

/-- After the escalation, one last question decides how a stop has ended. -/
theorem windUp_decides (m : Manager) (name : SandboxName) (tracker : Tracker)
    (outcome : Outcome StopSignal) (w : World φ σ ι) :
    ∃ t t' active result tracker', observed b (windUp m name tracker outcome) w =
        cleanupSeen b m name w.net ++ [.released name.unit t, .asked name.unit t' active] ∧
      (World.run b (windUp m name tracker outcome) w).1 = (result, tracker') ∧
      if active then (∃ elapsed, result = .error (.stillActive name.unit elapsed)) ∧
        tracker'.stateOf name = some .failed
      else result = .ok () ∧ tracker'.stateOf name = some .stopped := by
  obtain ⟨t, t', hseen⟩ := observed_windUp (b := b) m name tracker outcome w
  obtain ⟨t'', hrun⟩ := run_windUp (b := b) m name tracker outcome w
  refine ⟨t, t', stillActive b m name w, ?_⟩
  rw [hseen, hrun]
  cases stillActive b m name w with
  | true => exact ⟨_, _, rfl, rfl, ⟨_, rfl⟩, stateOf_note _ _ _ _⟩
  | false => exact ⟨_, _, rfl, rfl, rfl, stateOf_note _ _ _ _⟩

end Parts

section Instantaneous

/-! A supervisor whose calls take no time. -/
variable (hinstant : ∀ c t s, (b.supervise c t s).2.1 = 0)
include hinstant

theorem clock_supervised (c : SupervisorCall) (w : World φ σ ι) :
    (World.answer b (.supervisor c) w).2.clock = w.clock := by
  have hclock : (World.answer b (.supervisor c) w).2.clock =
    w.clock + (b.supervise c w.clock w.supervisor).2.1 := rfl
  rw [hclock, hinstant, Nat.add_zero]

theorem clock_askedActive (unit : String) (w : World φ σ ι) :
    (askedActive b unit w).clock = w.clock :=
  clock_supervised hinstant _ w

theorem clock_reclaimed (m : Manager) (name : SandboxName) (w : World φ σ ι) :
    (reclaimed b m name w).clock = w.clock := by
  rw [reclaimed, run_reclaim]
  exact clock_supervised hinstant _ _

theorem clock_windUp (m : Manager) (name : SandboxName) (tracker : Tracker)
    (outcome : Outcome StopSignal) (w : World φ σ ι) :
    (World.run b (windUp m name tracker outcome) w).2.clock = w.clock := by
  obtain ⟨t, hend⟩ := run_windUp (b := b) m name tracker outcome w
  rw [hend, clock_askedActive hinstant, clock_reclaimed hinstant]

/-- A stop takes as long as its escalation. -/
theorem clock_stop_le {tick : Nanos} (hticks : b.timer.KeepsTicks tick) (m : Manager)
    (name : SandboxName) (tracker : Tracker) (w : World φ σ ι) :
    let stages := m.config.stop.escalation.stages
    let ended := World.attempt b ((m.stop name.text).run.run tracker) w
    ended.2.clock ≤ w.clock + (stages.map (·.timeout)).sum + stages.length * (tick - 1) ∧
      (tick ∣ w.clock →
        ended.2.clock ≤ w.clock + (stages.map fun stage => tickFrom tick stage.timeout).sum) := by
  intro stages ended
  cases hfirst : (b.supervise (.isActive name.unit) w.clock w.supervisor).1 with
  | false =>
    have hended : ended = _ := (attempt_stop_inactive tracker hfirst).1
    rw [hended, (run_stop_inactive m name tracker w hfirst).1, clock_reclaimed hinstant,
      clock_askedActive hinstant, Nat.add_assoc]
    exact ⟨Nat.le_add_right _ _, fun _ => Nat.le_add_right _ _⟩
  | true =>
    obtain ⟨w₁, logs, r, events, he, -, hend⟩ := stop_escalates (m := m) tracker hfirst
    have hclock : ended.2.clock = w₁.clock := by
      cases r with
      | error fault => exact congrArg (·.2.clock) hend.1
      | ok settled =>
        obtain ⟨_, rfl, hended, -⟩ := hend
        exact (congrArg (·.2.clock) hended).trans (clock_windUp hinstant m name _ _ w₁)
    rw [clock_askedActive hinstant] at he
    rw [hclock]
    have hact : ∀ s t x, ((unitBehaviour b name.unit).act s t x).1 = 0 :=
      fun _ _ _ => hinstant _ _ _
    have hcheck : ∀ t x, ((unitBehaviour b name.unit).check t x).1 = 0 :=
      fun _ _ => hinstant _ _ _
    exact ⟨he.clock_le hticks hact hcheck, fun hw => (he.clock_on_ticks hticks hact hcheck hw).1⟩

end Instantaneous

/-- A stop of an active unit sends signals in turn, from mild to forceful. Then it takes the network
away once, releases the unit once and asks once whether it is active, which decides how it ended. It
breaks off before that if a deadline cannot be told. -/
theorem stop_shape (b : Behaviour φ σ ι) (m : Manager) (name : SandboxName) (tracker : Tracker)
    (w : World φ σ ι) (hloop : w.net.host.LoopFree) :
    let unit := "corral-" ++ name.text ++ ".service"
    let ladder : List (Stage StopSignal) := [⟨.graceful, m.config.stop.graceful⟩,
      ⟨.terminate, m.config.stop.terminate⟩, ⟨.kill, m.config.stop.kill⟩]
    let stop := (m.stop name.text).run.run tracker
    let ended := World.attempt b stop w
    let wasActive := (b.supervise (.isActive unit) w.clock w.supervisor).1
    (wasActive = false → ∃ t tracker', witnessed b stop w = .asked unit w.clock false ::
        (cleanupSeen b m name w.net ++ [.released unit t]) ∧
      ended.1 = .ok (.ok (), tracker') ∧ tracker'.stateOf name = some .stopped) ∧
    (wasActive = true → ∃ logs,
      (Concluded ladder logs ∧ ∃ t t' active result tracker',
        witnessed b stop w = .asked unit w.clock true ::
          (logs.flatMap (stageSeen unit) ++
            (cleanupSeen b m name w.net ++ [.released unit t, .asked unit t' active])) ∧
        ended.1 = .ok (result, tracker') ∧
        if active then (∃ elapsed, result = .error (.stillActive unit elapsed)) ∧
          tracker'.stateOf name = some .failed
        else result = .ok () ∧ tracker'.stateOf name = some .stopped) ∨
      (BrokenOff b.timer.limit ladder logs ∧
        witnessed b stop w = .asked unit w.clock true :: logs.flatMap (stageSeen unit) ∧
        ended.1 = .error .outOfRange)) ∧
    ((∀ c t s, (b.supervise c t s).2.1 = 0) → ∀ tick, b.timer.KeepsTicks tick →
      ∀ total, m.config.stop.total? = some total →
        ended.2.clock ≤ w.clock + total + 3 * (tick - 1) ∧
        (tick ∣ w.clock → (∀ stage ∈ ladder, tick ∣ stage.timeout) →
          ended.2.clock ≤ w.clock + total)) ∧
    ∀ made ∈ stop.attempted (World.answerInTime b) w, made.1.net.host.LoopFree := by
  intro unit ladder stop ended wasActive
  refine ⟨fun hfirst => ?_, fun hfirst => ?_, fun hinstant tick hticks total htotal => ?_, ?_⟩
  · obtain ⟨hended, hcalls⟩ := attempt_stop_inactive (m := m) tracker hfirst
    obtain ⟨hrun, hseen⟩ := run_stop_inactive m name tracker w hfirst
    have hend : ended.1 = _ :=
      (congrArg Prod.fst hended).trans (congrArg (fun run => Except.ok run.1) hrun)
    exact ⟨_, _, (hcalls.trans hseen).trans (congrArg _ (observed_reclaim m name _)), hend,
      stateOf_note _ _ _ _⟩
  · obtain ⟨w₁, logs, r, events, he, hnet, hend⟩ := stop_escalates (b := b) (m := m) tracker hfirst
    refine ⟨logs, ?_⟩
    cases r with
    | error fault => exact Or.inr ⟨he.brokenOff, hend.2, congrArg Prod.fst hend.1⟩
    | ok settled =>
      obtain ⟨_, rfl, hended, hseen⟩ := hend
      obtain ⟨t, t', active, result, tracker', hwound, hresult, hdecides⟩ :=
        windUp_decides (b := b) m name
          (tracker.note name .stopping (askedActive b name.unit w).clock)
          (.ofSettled settled (w₁.clock - (askedActive b name.unit w).clock)) w₁
      rw [hnet] at hwound
      exact Or.inl ⟨he.concluded, t, t', active, result, tracker',
        hseen.trans (congrArg (fun rest => _ :: (_ ++ rest)) hwound),
        (congrArg Prod.fst hended).trans (congrArg Except.ok hresult), hdecides⟩
  · obtain ⟨hle, hexact⟩ := clock_stop_le hinstant hticks m name tracker w
    rw [m.config.stop.sum_timeouts htotal] at hle
    refine ⟨hle, fun hw hdvd => ?_⟩
    have hrounded : m.config.stop.escalation.stages.map (fun stage => tickFrom tick stage.timeout) =
        m.config.stop.escalation.stages.map (·.timeout) :=
      List.map_congr_left fun stage hs => tickFrom_of_dvd hticks.positive (hdvd stage hs)
    have hle := hexact hw
    rw [hrounded, m.config.stop.sum_timeouts htotal] at hle
    exact hle
  · have hkeep : ∀ (c : LifecycleCall) (w : World φ σ ι), Sparing c → w.net.host.LoopFree →
      (World.answerInTime b c w).2.net.host.LoopFree :=
      fun _ _ hc hw => loopFree_answerInTime hc hw
    exact Program.Within.attempted_keeps (K := fun w : World φ σ ι => w.net.host.LoopFree)
      (sparing_stop m name tracker) hkeep hloop

/-- A unit that is not there, and one that no signal makes go. -/
theorem stop_shape_scripted :
    let b := ScriptedWorld.behaviour
    let m : Manager := ⟨{}, rfl⟩
    let web : SandboxName := ⟨"web", rfl⟩
    let stop := (m.stop web.text).run.run ∅
    let idle : ScriptedWorld := .initial {} {}
    let stubborn : ScriptedWorld :=
      .initial { obeys := none, units := [("corral-web.service", none)] } {}
    idle.net.host.LoopFree ∧
    (∃ t, witnessed b stop idle = .asked "corral-web.service" 0 false ::
      (cleanupSeen b m web idle.net ++ [.released "corral-web.service" t])) ∧
    (∃ logs t t',
      Concluded [⟨.graceful, seconds 5⟩, ⟨.terminate, seconds 3⟩, ⟨.kill, seconds 2⟩] logs ∧
      logs.map (·.signal) = [.graceful, .terminate, .kill] ∧
      witnessed b stop stubborn = .asked "corral-web.service" 0 true ::
        (logs.flatMap (stageSeen "corral-web.service") ++ (cleanupSeen b m web stubborn.net ++
          [.released "corral-web.service" t, .asked "corral-web.service" t' true]))) ∧
    (World.attempt b stop stubborn).2.clock ≤ seconds 10 := by
  intro b m web stop idle stubborn
  have hloop : idle.net.host.LoopFree := .of_rank (fun _ => 0) (by decide +kernel)
  have hidle := (stop_shape b m web ∅ idle hloop).1 (by decide)
  obtain ⟨-, hactive, hclock, -⟩ := stop_shape b m web ∅ stubborn hloop
  have hsignals : signals (witnessed b stop stubborn) = [("corral-web.service", .graceful),
    ("corral-web.service", .terminate), ("corral-web.service", .kill)] := by decide +kernel
  have hlast : (witnessed b stop stubborn).getLast? =
      some (.asked "corral-web.service" (seconds 10) true) := by
    decide +kernel
  have hok : (World.attempt b stop stubborn).1.isOk = true := by decide +kernel
  obtain ⟨t, -, hseen, -⟩ := hidle
  obtain ⟨logs, ⟨hconcluded, t₁, t₂, active, -, -, hseen', -⟩ | ⟨-, -, hbroken⟩⟩ :=
    hactive (by decide)
  · rw [hseen', signals_asked, signals_append, signals_append, signals_stageSeen,
      signals_cleanupSeen, signals_released, signals_asked] at hsignals
    have hmap := congrArg (List.map Prod.snd) hsignals
    rw [signals, List.filterMap_nil, List.append_nil, List.append_nil, List.map_map] at hmap
    have hend : ∀ (first x y : Observed) (before after : List Observed),
        (first :: (before ++ (after ++ [x, y]))).getLast? = some y := by
      simp [List.getLast?_cons]
    rw [hseen', hend] at hlast
    obtain ⟨-, -, rfl⟩ := Observed.asked.inj (Option.some.inj hlast)
    refine ⟨hloop, ⟨t, hseen⟩, ⟨logs, t₁, t₂, hconcluded, hmap, hseen'⟩, ?_⟩
    have hle := hclock ScriptedSupervisor.answer_instant (millis 1) Timer.simulated_keepsTicks
      (seconds 10) (by decide)
    have hdvd : ∀ stage ∈ StopPolicy.escalation {} |>.stages, millis 1 ∣ stage.timeout := by decide
    have hsum : stubborn.clock + seconds 10 ≤ seconds 10 := by decide
    have hstart : millis 1 ∣ stubborn.clock := Nat.dvd_zero _
    exact Nat.le_trans (hle.2 hstart hdvd) hsum
  · rw [hbroken] at hok
    cases hok

/-- A timeout that the clock cannot tell the end of: the unit is signalled, and neither is its
network taken away nor the unit released. -/
theorem stop_breaks_off :
    let b := ScriptedWorld.behaviour
    let m : Manager := ⟨{ stop := { graceful := longestDuration } }, rfl⟩
    let stop := (m.stop "web").run.run ∅
    let w : ScriptedWorld := .initial { units := [("corral-web.service", none)] } {}
    w.net.host.LoopFree ∧ (World.attempt b stop w).1 = .error .outOfRange ∧
    witnessed b stop w =
      [.asked "corral-web.service" 0 true, .signalled "corral-web.service" 0 .graceful] := by
  intro b m stop w
  refine ⟨.of_rank (fun _ => 0) (by decide +kernel), ?_, by decide +kernel⟩
  have herror : (World.attempt b stop w).1.isOk = false := by decide +kernel
  cases hended : (World.attempt b stop w).1 with
  | ok ended =>
    rw [hended] at herror
    cases herror
  | error fault => cases fault; rfl

end Manager

end SandboxNet
