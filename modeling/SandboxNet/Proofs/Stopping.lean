import SandboxNet.Proofs.LaunchOrder

/-! What is seen of a stop, and how one ends on a clock that tells every deadline: the sandbox is
taken away whatever became of its unit. A stop that returns before the end of a clock is such a
stop. -/
namespace SandboxNet

variable {α β φ σ ι : Type} {b : Behaviour φ σ ι}

/-- A call as it is seen by the one who gets it. Whoever is asked the time sees nothing. -/
inductive Observed where
  | asked (unit : String) (time : Nanos) (active : Bool)
  | signalled (unit : String) (time : Nanos) (signal : StopSignal)
  | released (unit : String) (time : Nanos)
  | launched (spec : UnitSpec) (time : Nanos)
  | imageOf (name : SandboxName)
  | network (call : NetCall)
deriving DecidableEq

def observe (b : Behaviour φ σ ι) (w : World φ σ ι) : LifecycleCall → Option Observed
  | .net c => some (.network c)
  | .supervisor (.isActive unit) =>
    some (.asked unit w.clock (b.supervise (.isActive unit) w.clock w.supervisor).1)
  | .supervisor (.signal unit signal) => some (.signalled unit w.clock signal)
  | .supervisor (.release unit) => some (.released unit w.clock)
  | .supervisor (.launch spec) => some (.launched spec w.clock)
  | .image name => some (.imageOf name)
  | .now | .deadline _ | .sleep _ => none

/-- The calls of a program as they are seen, in order. -/
def observed (b : Behaviour φ σ ι) (p : LifecycleProgram α) (w : World φ σ ι) : List Observed :=
  (p.trace (World.answer b) w).filterMap fun made => observe b made.1 made.2

theorem observed_bind (p : LifecycleProgram α) (f : α → LifecycleProgram β) (w : World φ σ ι) :
    observed b (p >>= f) w =
      observed b p w ++ observed b (f (World.run b p w).1) (World.run b p w).2 := by
  simp only [observed, Program.trace_bind, List.filterMap_append, World.run]

theorem observed_onHost (p : NetProgram α) (w : World φ σ ι) :
    observed b (LifecycleProgram.onHost p) w =
      (p.trace (NetWorld.answer b.faults) w.net).map fun made => .network made.2 := by
  induction p generalizing w with
  | done a => rfl
  | ask c next ih => exact congrArg (Observed.network c :: ·) (ih _ _)

theorem onHost_within {P : NetCall → Prop} {Q : α → Prop} {p : NetProgram α} (hp : p.Within P Q) :
    (LifecycleProgram.onHost p).Within (fun c : LifecycleCall => ∀ n, c = .net n → P n) Q := by
  induction p with
  | done a => exact hp
  | ask c next ih =>
    refine ⟨?_, fun r => ih r (hp.2 r)⟩
    rintro n ⟨⟩
    exact hp.1

/-- The state that is noted of a sandbox. -/
def Tracker.stateOf (tracker : Tracker) (name : SandboxName) : Option SandboxState :=
  tracker[name]?.map (·.state)

@[simp] theorem stateOf_note (tracker : Tracker) (name : SandboxName) (state : SandboxState)
    (t : Nanos) : (tracker.note name state t).stateOf name = some state := by
  rw [Tracker.stateOf, Tracker.note_row, if_pos rfl]
  rfl

/-- A program that returns before the end of the clock returns the same on a clock without end. -/
theorem run_of_attempt {p : LifecycleProgram α} {a : α} {w w' : World φ σ ι}
    (h : World.attempt b p w = (.ok a, w')) : World.run b p w = (a, w') := by
  refine Program.run_of_attempt (fun c w r w' hc => ?_) h
  cases c with
  | deadline timeout =>
    simp only [World.answerInTime, deadlineBefore] at hc
    split at hc <;> cases hc
    rfl
  | net | supervisor | image | now | sleep =>
    cases hc
    rfl

/-- What a configuration without faults is like. -/
theorem Config.fault?_eq_none {c : Config} : c.fault? = none ↔
    NameRule.bridge.accepts c.bridge = true ∧
      (∀ text, c.address = some text → (Address.parse? text).isSome = true) ∧
        0 < c.stop.interval := by
  rw [Config.fault?]
  cases NameRule.bridge.accepts c.bridge with
  | false => simp
  | true =>
    cases c.address with
    | none => simp [Nat.pos_iff_ne_zero]
    | some text =>
      cases ha : Address.parse? text <;> simp [Option.filter, ha, Nat.pos_iff_ne_zero]

namespace Manager

open LifecycleProgram

theorem ofText_self (name : SandboxName) : SandboxName.ofText name.text = .ok name := by
  rw [SandboxName.ofText]
  split
  · rename_i fault hf
    rw [name.accepted] at hf
    cases hf
  · rfl

/-- What is left of a stop when its escalation is over. -/
def windUp (m : Manager) (name : SandboxName) (tracker : Tracker) (outcome : Outcome StopSignal) :
    LifecycleProgram (Except SandboxError Unit × Tracker) := do
  let _ ← reclaim m name
  let active ← isActive name.unit
  let t ← ask .now
  if active then
    return (.error (.stillActive name.unit outcome.elapsed), tracker.note name .failed t)
  else
    return (.ok (), tracker.note name .stopped t)

theorem stopActive_run (m : Manager) (name : SandboxName) (tracker : Tracker) :
    (m.stopActive name).run.run tracker = (do
      let t ← ask .now
      let outcome ← onUnit name.unit m.config.stop.escalation.run
      windUp m name (tracker.note name .stopping t) outcome) := by
  refine congrArg (Program.ask _) (funext fun t => ?_)
  refine (lifecycle_lift_bind _ _ _).trans (bind_congr fun outcome => ?_)
  refine (lifecycle_lift_bind _ _ _).trans (bind_congr fun _ => ?_)
  refine (lifecycle_lift_bind _ _ _).trans (bind_congr fun active => ?_)
  cases active <;> rfl

theorem stop_run (m : Manager) (name : SandboxName) (tracker : Tracker) :
    (m.stop name.text).run.run tracker = (do
      if ← isActive name.unit then
        (m.stopActive name).run.run tracker
      else
        let _ ← reclaim m name
        let t ← ask .now
        return (.ok (), tracker.note name .stopped t)) := by
  rw [stop, ofText_self]
  refine (lifecycle_lift_bind _ _ _).trans (bind_congr fun active => ?_)
  cases active with
  | true => rfl
  | false => exact lifecycle_lift_bind _ _ _

/-- What taking away the network of a sandbox calls, as it is seen. -/
def cleanupSeen (b : Behaviour φ σ ι) (m : Manager) (name : SandboxName) (net : NetWorld φ) :
    List Observed :=
  ((Attachment.cleanup name.text m.config.bridge).trace (NetWorld.answer b.faults) net).map
    fun made => .network made.2

/-- The world after a unit was released. -/
def released (b : Behaviour φ σ ι) (unit : String) (w : World φ σ ι) : World φ σ ι :=
  (World.answer b (.supervisor (.release unit)) w).2

theorem run_reclaim (m : Manager) (name : SandboxName) (w : World φ σ ι) :
    World.run b (reclaim m name) w =
      ((NetWorld.run b.faults (Attachment.cleanup name.text m.config.bridge) w.net).1,
        released b name.unit { w with net :=
          (NetWorld.run b.faults (Attachment.cleanup name.text m.config.bridge) w.net).2 }) := by
  rw [reclaim, run_bind, run_onHost]
  rfl

theorem observed_reclaim (m : Manager) (name : SandboxName) (w : World φ σ ι) :
    observed b (reclaim m name) w =
      cleanupSeen b m name w.net ++ [.released name.unit w.clock] := by
  rw [reclaim, observed_bind, observed_onHost, run_onHost]
  rfl

/-- The world after a sandbox was taken away. -/
def reclaimed (b : Behaviour φ σ ι) (m : Manager) (name : SandboxName) (w : World φ σ ι) :
    World φ σ ι :=
  (World.run b (reclaim m name) w).2

/-- The world after a unit was asked whether it is active. -/
def askedActive (b : Behaviour φ σ ι) (unit : String) (w : World φ σ ι) : World φ σ ι :=
  (World.answer b (.supervisor (.isActive unit)) w).2

theorem run_isActive (unit : String) (w : World φ σ ι) : World.run b (isActive unit) w =
    ((b.supervise (.isActive unit) w.clock w.supervisor).1, askedActive b unit w) := rfl

theorem observed_isActive (unit : String) (w : World φ σ ι) : observed b (isActive unit) w =
    [.asked unit w.clock (b.supervise (.isActive unit) w.clock w.supervisor).1] := rfl

theorem run_now (w : World φ σ ι) : World.run b (ask .now) w = (w.clock, w) := rfl

theorem observed_now (w : World φ σ ι) : observed b (ask .now) w = [] := rfl

/-- Whether a unit is found active once its sandbox was taken away. -/
def stillActive (b : Behaviour φ σ ι) (m : Manager) (name : SandboxName) (w : World φ σ ι) : Bool :=
  (b.supervise (.isActive name.unit) (reclaimed b m name w).clock
    (reclaimed b m name w).supervisor).1

theorem run_windUp (m : Manager) (name : SandboxName) (tracker : Tracker)
    (outcome : Outcome StopSignal) (w : World φ σ ι) :
    ∃ t, World.run b (windUp m name tracker outcome) w =
      (if stillActive b m name w then
          (.error (.stillActive name.unit outcome.elapsed), tracker.note name .failed t)
        else (.ok (), tracker.note name .stopped t),
        askedActive b name.unit (reclaimed b m name w)) := by
  refine ⟨(askedActive b name.unit (reclaimed b m name w)).clock, ?_⟩
  rw [windUp, run_bind, run_bind, run_isActive, run_bind, run_now, stillActive, reclaimed]
  split <;> rfl

theorem observed_windUp (m : Manager) (name : SandboxName) (tracker : Tracker)
    (outcome : Outcome StopSignal) (w : World φ σ ι) :
    ∃ t t', observed b (windUp m name tracker outcome) w = cleanupSeen b m name w.net ++
      [.released name.unit t, .asked name.unit t' (stillActive b m name w)] := by
  refine ⟨w.clock, (reclaimed b m name w).clock, ?_⟩
  rw [windUp, observed_bind, observed_reclaim, observed_bind, observed_isActive, run_isActive,
    observed_bind, observed_now, run_now, List.append_assoc, stillActive, reclaimed]
  split <;> rfl

theorem run_stop_inactive (m : Manager) (name : SandboxName) (tracker : Tracker)
    (w : World φ σ ι)
    (hfirst : (b.supervise (.isActive name.unit) w.clock w.supervisor).1 = false) :
    World.run b ((m.stop name.text).run.run tracker) w =
      ((.ok (), tracker.note name .stopped
        (reclaimed b m name (askedActive b name.unit w)).clock),
        reclaimed b m name (askedActive b name.unit w)) ∧
    observed b ((m.stop name.text).run.run tracker) w = .asked name.unit w.clock false ::
      observed b (reclaim m name) (askedActive b name.unit w) := by
  rw [stop_run]
  constructor
  · rw [run_bind, run_isActive, hfirst]
    exact run_bind _ _ _
  · rw [observed_bind, run_isActive, observed_isActive, hfirst]
    refine congrArg (_ :: ·) ((observed_bind _ _ _).trans ?_)
    exact List.append_nil _

/-- A wait for a unit leaves the network alone. -/
theorem net_onUnit (unit : String) (p : Polling StopSignal α) (w : World φ σ ι) :
    (World.run b (onUnit unit p) w).2.net = w.net := by
  induction p generalizing w with
  | done a => rfl
  | ask c next ih =>
    cases c with
    | act signal => exact ih () (World.answer b (.supervisor (.signal unit signal)) w).2
    | check => exact ih _ (World.answer b (.supervisor (.isActive unit)) w).2
    | now => exact ih w.clock w
    | deadline timeout => exact ih (w.clock + timeout) w
    | sleep d => exact ih () { w with clock := b.timer.wake w.clock d }

/-- Every stop takes the sandbox away, with the network as the stop found it. -/
theorem stop_ends (m : Manager) (name : SandboxName) (tracker : Tracker) (w : World φ σ ι) :
    ∃ w₁, w₁.net = w.net ∧ ∃ (tracker' : Tracker) (t : Nanos),
      (World.run b ((m.stop name.text).run.run tracker) w).2.net =
        (reclaimed b m name w₁).net ∧
      ((World.run b ((m.stop name.text).run.run tracker) w).1 =
          (.ok (), tracker'.note name .stopped t) ∨
        ∃ e, (World.run b ((m.stop name.text).run.run tracker) w).1 =
          (.error e, tracker'.note name .failed t)) := by
  cases hfirst : (b.supervise (.isActive name.unit) w.clock w.supervisor).1 with
  | false =>
    rw [(run_stop_inactive m name tracker w hfirst).1]
    exact ⟨askedActive b name.unit w, rfl, _, _, rfl, Or.inl rfl⟩
  | true =>
    have hnet := net_onUnit (b := b) name.unit m.config.stop.escalation.run
      (askedActive b name.unit w)
    rw [stop_run, run_bind, run_isActive, hfirst]
    simp only [if_true, stopActive_run]
    rw [run_bind, run_now, run_bind]
    generalize World.run b (onUnit name.unit m.config.stop.escalation.run)
      (askedActive b name.unit w) = escalated at hnet ⊢
    obtain ⟨outcome, w₁⟩ := escalated
    obtain ⟨t, hend⟩ := run_windUp (b := b) m name
      (tracker.note name .stopping (askedActive b name.unit w).clock) outcome w₁
    rw [hend]
    refine ⟨w₁, hnet, ?_⟩
    cases stillActive b m name w₁ with
    | false => exact ⟨_, t, rfl, Or.inl rfl⟩
    | true => exact ⟨_, t, rfl, Or.inr ⟨_, rfl⟩⟩

end Manager

end SandboxNet
