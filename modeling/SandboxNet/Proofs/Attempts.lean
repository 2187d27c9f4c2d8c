import SandboxNet.Proofs.Stopping
import SandboxNet.Proofs.Waiting

/-! Programs of a manager on a clock that has an end. What asks for no deadline goes as it does on a
clock without end. A wait for a unit goes as it does in a world of nothing but that unit. -/
namespace SandboxNet

variable {α β φ σ ι : Type} {b : Behaviour φ σ ι}

/-- The calls of a program as they are seen, as far as it gets before the end of the clock. -/
def witnessed (b : Behaviour φ σ ι) (p : LifecycleProgram α) (w : World φ σ ι) : List Observed :=
  (p.attempted (World.answerInTime b) w).filterMap fun made => observe b made.1 made.2

/-- Whatever is replied, the program asks for no deadline. -/
def Untimed (p : LifecycleProgram α) : Prop :=
  p.Only fun c : LifecycleCall => ∀ timeout, c ≠ .deadline timeout

section Untimed

theorem Untimed.attempt_eq {p : LifecycleProgram α} (hp : Untimed p) (w : World φ σ ι) :
    World.attempt b p w = (.ok (World.run b p w).1, (World.run b p w).2) ∧
      witnessed b p w = observed b p w := by
  have hgrant : ∀ (c : LifecycleCall) (w : World φ σ ι), (∀ timeout, c ≠ .deadline timeout) →
      World.answerInTime b c w = (.ok (World.answer b c w).1, (World.answer b c w).2) := by
    intro c w hc
    cases c with
    | deadline timeout => exact absurd rfl (hc timeout)
    | net | supervisor | image | now | sleep => rfl
  obtain ⟨hrun, hcalls⟩ := Program.Within.attempt_eq hp hgrant w
  refine ⟨hrun, ?_⟩
  rw [witnessed, hcalls, observed]

theorem attempt_bind (p : LifecycleProgram α) (f : α → LifecycleProgram β) (w : World φ σ ι) :
    World.attempt b (p >>= f) w =
      match World.attempt b p w with
      | (.ok a, w') => World.attempt b (f a) w'
      | (.error e, w') => (.error e, w') := by
  rw [World.attempt, Program.attempt_bind, World.attempt]
  generalize p.attempt (World.answerInTime b) w = ended
  obtain ⟨r, w'⟩ := ended
  cases r <;> rfl

theorem witnessed_bind (p : LifecycleProgram α) (f : α → LifecycleProgram β) (w : World φ σ ι) :
    witnessed b (p >>= f) w = witnessed b p w ++
      match World.attempt b p w with
      | (.ok a, w') => witnessed b (f a) w'
      | (.error _, _) => [] := by
  rw [witnessed, Program.attempted_bind, List.filterMap_append, World.attempt]
  generalize p.attempt (World.answerInTime b) w = ended
  obtain ⟨r, w'⟩ := ended
  cases r <;> rfl

/-- What asks for no deadline goes on to what follows it. -/
theorem Untimed.attempt_bind {p : LifecycleProgram α} (hp : Untimed p)
    (f : α → LifecycleProgram β) (w : World φ σ ι) :
    World.attempt b (p >>= f) w =
        World.attempt b (f (World.run b p w).1) (World.run b p w).2 ∧
      witnessed b (p >>= f) w =
        observed b p w ++ witnessed b (f (World.run b p w).1) (World.run b p w).2 := by
  obtain ⟨hrun, hcalls⟩ := hp.attempt_eq (b := b) w
  rw [SandboxNet.attempt_bind, witnessed_bind, hrun, hcalls]
  exact ⟨rfl, rfl⟩

theorem untimed_supervisor (c : SupervisorCall) :
    Untimed (LifecycleProgram.ask (.supervisor c)) :=
  ⟨nofun, fun _ => trivial⟩

theorem untimed_now : Untimed (LifecycleProgram.ask .now) :=
  ⟨nofun, fun _ => trivial⟩

theorem untimed_onHost (p : NetProgram α) : Untimed (LifecycleProgram.onHost p) := by
  induction p with
  | done a => trivial
  | ask c next ih => exact ⟨nofun, ih⟩

theorem untimed_isActive (unit : String) : Untimed (LifecycleProgram.isActive unit) :=
  untimed_supervisor _

end Untimed

/-- A unit as a wait sees it: it is signalled, and it is checked for not being active. -/
def unitBehaviour (b : Behaviour φ σ ι) (unit : String) : PollBehaviour StopSignal σ where
  timer := b.timer
  act signal now s := (b.supervise (.signal unit signal) now s).2
  check now s :=
    let reply := b.supervise (.isActive unit) now s
    (reply.2.1, !reply.1, reply.2.2)

def Observed.ofPoll (unit : String) : PollEvent StopSignal → Observed
  | .act start _ signal => .signalled unit start signal
  | .check start _ passed => .asked unit start (!passed)

section Deadline

variable {timeout : Nanos} {w : World φ σ ι}

theorem attempt_told (told : w.clock + timeout < b.timer.limit)
    (next : Nanos → LifecycleProgram α) :
    World.attempt b (LifecycleProgram.ask (.deadline timeout) >>= next) w =
        World.attempt b (next (w.clock + timeout)) w ∧
      witnessed b (LifecycleProgram.ask (.deadline timeout) >>= next) w =
        witnessed b (next (w.clock + timeout)) w := by
  have hanswer : World.answerInTime b (.deadline timeout) w = (.ok (w.clock + timeout), w) := by
    rw [World.answerInTime, deadlineBefore, if_pos told]
  refine ⟨Program.attempt_ask_ok (I := lifecycleInterface) hanswer next, ?_⟩
  exact (congrArg (List.filterMap fun made => observe b made.1 made.2)
    (Program.attempted_ask_ok (I := lifecycleInterface) hanswer next)).trans rfl

theorem attempt_untold (untold : b.timer.limit ≤ w.clock + timeout)
    (next : Nanos → LifecycleProgram α) :
    World.attempt b (LifecycleProgram.ask (.deadline timeout) >>= next) w =
        (.error .outOfRange, w) ∧
      witnessed b (LifecycleProgram.ask (.deadline timeout) >>= next) w = [] := by
  have hanswer : World.answerInTime b (.deadline timeout) w = (.error .outOfRange, w) := by
    rw [World.answerInTime, deadlineBefore, if_neg (Nat.not_lt.mpr untold)]
  refine ⟨Program.attempt_ask_error (I := lifecycleInterface) hanswer next, ?_⟩
  exact (congrArg (List.filterMap fun made => observe b made.1 made.2)
    (Program.attempted_ask_error (I := lifecycleInterface) hanswer next)).trans rfl

end Deadline

/-- A wait for a unit goes as it does in a world of nothing but that unit. -/
theorem attempt_onUnit (unit : String) (p : Polling StopSignal α) (w : World φ σ ι)
    (log : List (PollEvent StopSignal)) :
    ∃ events,
      PollWorld.run (unitBehaviour b unit) p ⟨w.clock, w.supervisor, log⟩ =
        ((World.attempt b (LifecycleProgram.onUnit unit p) w).1,
          ⟨(World.attempt b (LifecycleProgram.onUnit unit p) w).2.clock,
            (World.attempt b (LifecycleProgram.onUnit unit p) w).2.supervisor, log ++ events⟩) ∧
      witnessed b (LifecycleProgram.onUnit unit p) w = events.map (.ofPoll unit) ∧
      (World.attempt b (LifecycleProgram.onUnit unit p) w).2.net = w.net := by
  induction p generalizing w log with
  | done a => exact ⟨[], by rw [List.append_nil]; rfl, rfl, rfl⟩
  | ask c next ih =>
    cases c with
    | act signal =>
      let w₁ := (World.answer b (.supervisor (.signal unit signal)) w).2
      obtain ⟨events, hrun, hseen, hnet⟩ := ih () w₁ (log ++ [.act w.clock w₁.clock signal])
      rw [List.append_assoc] at hrun
      exact ⟨_, hrun, congrArg (Observed.signalled unit w.clock signal :: ·) hseen, hnet⟩
    | check =>
      let w₁ := (World.answer b (.supervisor (.isActive unit)) w).2
      let active := (b.supervise (.isActive unit) w.clock w.supervisor).1
      obtain ⟨events, hrun, hseen, hnet⟩ := ih (!active) w₁
        (log ++ [.check w.clock w₁.clock (!active)])
      rw [List.append_assoc] at hrun
      refine ⟨_, hrun, ?_, hnet⟩
      rw [List.singleton_append, List.map_cons, ← hseen, Observed.ofPoll, Bool.not_not]
      rfl
    | now => exact ih w.clock w log
    | deadline timeout =>
      have hasked : LifecycleProgram.onUnit unit (.ask (.deadline timeout) next) =
        LifecycleProgram.ask (.deadline timeout) >>= fun t =>
          LifecycleProgram.onUnit unit (next t) := rfl
      rw [hasked]
      rcases Nat.lt_or_ge (w.clock + timeout) b.timer.limit with told | untold
      · obtain ⟨events, hrun, hseen, hnet⟩ := ih (w.clock + timeout) w log
        obtain ⟨hattempt, hcalls⟩ := attempt_told told fun t =>
          LifecycleProgram.onUnit unit (next t)
        rw [hattempt, hcalls]
        refine ⟨events, Eq.trans (Program.attempt_ask_ok ?_ next) hrun, hseen, hnet⟩
        exact answer_deadline (b := unitBehaviour b unit) told
      · obtain ⟨hattempt, hcalls⟩ := attempt_untold untold fun t =>
          LifecycleProgram.onUnit unit (next t)
        rw [hattempt, hcalls]
        refine ⟨[], ?_, rfl, rfl⟩
        rw [List.append_nil]
        exact Program.attempt_ask_error
          (answer_deadline_untold (b := unitBehaviour b unit) untold) next
    | sleep d => exact ih () { w with clock := b.timer.wake w.clock d } log

/-- What one stage of an escalation against a unit does, as it is seen. -/
def stageSeen (unit : String) (l : StageLog StopSignal) : List Observed :=
  l.events.map (.ofPoll unit)

/-- An escalation against a unit is one in the world of that unit, and leaves the network alone. -/
theorem onUnit_escalates (unit : String) (e : Escalation StopSignal) (hi : 0 < e.interval)
    {ending : Except ClockFault (Outcome StopSignal)} {w w' : World φ σ ι}
    (hescalate : World.attempt b (LifecycleProgram.onUnit unit e.run) w = (ending, w')) :
    ∃ logs r events, Escalates (unitBehaviour b unit) e.interval e.stages
        ⟨w.clock, w.supervisor, []⟩ logs r ⟨w'.clock, w'.supervisor, events⟩ ∧
      ending = r.map (fun settled => .ofSettled settled (w'.clock - w.clock)) ∧ w'.net = w.net ∧
      witnessed b (LifecycleProgram.onUnit unit e.run) w = logs.flatMap (stageSeen unit) := by
  obtain ⟨events, hrun, hseen, hnet⟩ := attempt_onUnit (b := b) unit e.run w []
  rw [hescalate] at hrun hnet
  have hfrom : PollWorld.run (unitBehaviour b unit) e.run ⟨w.clock, w.supervisor, []⟩ =
      PollWorld.run (unitBehaviour b unit) (Escalation.runFrom w.clock e.interval e.stages)
        ⟨w.clock, w.supervisor, []⟩ := rfl
  obtain ⟨logs, r, w₁, he, hr⟩ := escalates_run (b := unitBehaviour b unit) hi w.clock e.stages
    ⟨w.clock, w.supervisor, []⟩
  rw [← hfrom, hrun] at hr
  obtain ⟨hending, rfl⟩ := Prod.mk.inj hr
  have hlog : events = logs.flatMap StageLog.events := he.log_eq
  rw [hlog, List.map_flatMap] at hseen
  exact ⟨logs, r, _, he, hending, hnet, hseen⟩

end SandboxNet
