import SandboxNet.Proofs.Reclaim

/-! What a sandbox manager can be asked for, and what a request does to the host. A request goes
to the host in three ways only: it takes a wire away, makes the bridge, or attaches a sandbox. -/
namespace SandboxNet

variable {α φ σ ι : Type} {b : Behaviour φ σ ι} {P : Host → Prop}

/-- Whatever fails, the program leads from hosts with the property to hosts with it. -/
def Keeps (P : Host → Prop) (p : NetProgram α) : Prop :=
  ∀ (h : Host) (a : α) (h' : Host), P h → Yields p h a h' → P h'

/-- What a program over the network can end in is what it can end in here. -/
theorem leads_outcome {p : NetProgram α} {Q : α → Host → Prop}
    (hp : ∀ h a h', P h → Yields p h a h' → Q a h') : Leads b P (LifecycleProgram.onHost p) Q := by
  intro w hw
  rw [run_onHost]
  exact hp _ _ _ hw (yields_run b.faults p w.net)

theorem Keeps.onHost {p : NetProgram α} (hp : Keeps P p) :
    Leads b P (LifecycleProgram.onHost p) fun _ => P :=
  leads_outcome hp

theorem leads_now : Leads b P (LifecycleProgram.ask .now) fun _ => P :=
  fun _ hw => hw

namespace Manager

open LifecycleProgram

variable {m : Manager} {name : SandboxName}

/-- A property of the host that all the steps of a start keep. -/
structure KeptByStart (m : Manager) (name : SandboxName) (P : Host → Prop) : Prop where
  cleanup : Keeps P (Attachment.cleanup name.text m.config.bridge)
  create : Keeps P (Bridge.create m.config.bridge m.config.address).run
  attach : Keeps P (Attachment.attach m.config.bridge name.text).run

theorem reclaim_keeps (hc : Keeps P (Attachment.cleanup name.text m.config.bridge)) :
    Leads b P (reclaim m name) fun _ => P :=
  hc.onHost.bind fun _ => fun _ hw => hw

theorem reclaimStale_keeps (hc : Keeps P (Attachment.cleanup name.text m.config.bridge)) :
    Leads b P (reclaimStale m name) fun _ => P := by
  refine (isStale_leads name).bind fun stale => ?_
  cases stale with
  | false => exact fun _ hw => hw
  | true => exact hc.onHost.bind fun _ => fun _ hw => hw

theorem wiring_keeps {p : Net α} (hp : Keeps P p.run) :
    Leads b P (wiring p).run fun _ => P :=
  leads_wiring fun hh hy => hp _ _ _ hh hy

theorem bringUp_keeps (hk : KeptByStart m name P) : Leads b P (bringUp m name).run fun _ => P := by
  refine (reclaimStale_keeps hk.cleanup).lift.except_bind (fun _ => ?_) fun _ _ hh => hh
  refine Leads.except_bind (leads_image name) (fun root => ?_) fun _ _ hh => hh
  refine (wiring_keeps hk.create).except_bind (fun _ => ?_) fun _ _ hh => hh
  refine (wiring_keeps hk.attach).except_bind (fun _ => ?_) fun _ _ hh => hh
  exact fun _ hw => hw

theorem start_keeps (hk : KeptByStart m name P) (tracker : Tracker) :
    Leads b P ((m.start name.text).run.run tracker) fun _ => P := by
  rw [start_run m tracker (ofText_self name)]
  refine (isRunning_leads name).bind fun running => ?_
  cases running with
  | true => exact fun _ hw => hw
  | false =>
    simp only [Bool.false_eq_true, if_false]
    rw [startFresh_run]
    refine leads_now.bind fun t => ?_
    refine (bringUp_keeps hk).bind fun r => ?_
    cases r with
    | ok u => exact fun _ hw => hw
    | error e => exact (reclaim_keeps hk.cleanup).bind fun _ => fun _ hw => hw

theorem stop_keeps (hc : Keeps P (Attachment.cleanup name.text m.config.bridge))
    (tracker : Tracker) : Leads b P ((m.stop name.text).run.run tracker) fun _ => P := by
  intro w hw
  obtain ⟨w₁, hnet, _, _, hend, _⟩ := stop_ends (b := b) m name tracker w
  rw [hend]
  exact reclaim_keeps hc w₁ (hnet ▸ hw)

theorem cleanup_keeps (hc : Keeps P (Attachment.cleanup name.text m.config.bridge)) :
    Leads b P (m.cleanup name.text) fun _ => P := by
  rw [cleanup, ofText_self]
  exact reclaim_keeps hc

/-- Tells a state, and notes it if it is not what is noted of the sandbox. -/
def tell (name : SandboxName) (tracker : Tracker) (now : SandboxState) :
    LifecycleProgram (Except SandboxError SandboxState × Tracker) := do
  if (tracker.stateOf name).isSome ∧ tracker.stateOf name ≠ some now then
    let t ← ask .now
    return (.ok now, tracker.note name now t)
  else
    return (.ok now, tracker)

theorem state_run (name : SandboxName) (tracker : Tracker) :
    (state name.text).run.run tracker = (do
      let active ← isActive name.unit
      let wired ← if active then isWired name else pure false
      tell name tracker (reconcile (tracker.stateOf name) active wired)) := by
  have htell : ∀ now : SandboxState, (do
      if (tracker.stateOf name).isSome ∧ tracker.stateOf name ≠ some now then
        note name now
      return now : Lifecycle SandboxState).run.run tracker = tell name tracker now := by
    intro now
    rw [tell]
    split <;> rfl
  rw [state, ofText_self]
  refine (lifecycle_lift_bind _ _ _).trans (bind_congr fun active => ?_)
  cases active with
  | false => exact htell _
  | true => exact (lifecycle_lift_bind _ _ _).trans (bind_congr fun wired => htell _)

theorem tell_keeps (tracker : Tracker) (now : SandboxState) :
    Leads b P (tell name tracker now) fun _ => P := by
  rw [tell]
  split
  · exact leads_now.bind fun _ => fun _ hw => hw
  · exact fun _ hw => hw

theorem state_keeps (tracker : Tracker) :
    Leads b P ((state name.text).run.run tracker) fun _ => P := by
  rw [state_run]
  refine Leads.bind (leads_supervisor _) fun active => ?_
  cases active with
  | false => exact tell_keeps tracker _
  | true => exact (isWired_leads name).bind fun wired => tell_keeps tracker _

end Manager

/-- A request to a sandbox manager. -/
inductive SandboxRequest where
  | start (sandbox : String)
  | stop (sandbox : String)
  | cleanup (sandbox : String)
  | state (sandbox : String)
  | list

inductive SandboxReply where
  | outcome (r : Except SandboxError Unit)
  | clean (nothingLeft : Bool)
  | state (r : Except SandboxError SandboxState)
  | listed (records : List SandboxRecord)

namespace SandboxRequest

def program (m : Manager) : SandboxRequest → Tracking SandboxReply
  | start sandbox => .outcome <$> (m.start sandbox).run
  | stop sandbox => .outcome <$> (m.stop sandbox).run
  | cleanup sandbox => .clean <$> liftM (m.cleanup sandbox)
  | state sandbox => .state <$> (Manager.state sandbox).run
  | list => .listed <$> Manager.list

theorem leads_reply {β : Type} {f : α → β} {p : Tracking α} {tracker : Tracker}
    (hp : Leads b P (p.run tracker) fun _ => P) :
    Leads b P ((f <$> p).run tracker) fun _ => P := by
  rw [StateT.run_map]
  intro w hw
  rw [World.run, Program.run_map]
  exact hp w hw

theorem leads_lift {p : LifecycleProgram α} {tracker : Tracker} (hp : Leads b P p fun _ => P) :
    Leads b P ((liftM p : Tracking α).run tracker) fun _ => P := by
  rw [StateT.run_monadLift]
  exact hp.bind fun _ => fun _ hw => hw

/-- The property is kept by each step of the request that goes to the host. -/
def StepsKeep (m : Manager) (P : Host → Prop) : SandboxRequest → Prop
  | start sandbox => ∀ name : SandboxName, name.text = sandbox → m.KeptByStart name P
  | stop sandbox | cleanup sandbox => Keeps P (Attachment.cleanup sandbox m.config.bridge)
  | state _ | list => True

theorem stepsKeep {m : Manager} {r : SandboxRequest}
    (hcleanup : ∀ y, Keeps P (Attachment.cleanup y m.config.bridge))
    (hcreate : Keeps P (Bridge.create m.config.bridge m.config.address).run)
    (hattach : ∀ y, r = .start y → Keeps P (Attachment.attach m.config.bridge y).run) :
    r.StepsKeep m P := by
  cases r with
  | start sandbox =>
    rintro name rfl
    exact ⟨hcleanup name.text, hcreate, hattach name.text rfl⟩
  | stop sandbox => exact hcleanup sandbox
  | cleanup sandbox => exact hcleanup sandbox
  | state sandbox => exact trivial
  | list => exact trivial

/-- What the steps of a request keep, the request keeps. -/
theorem keeps {m : Manager} {r : SandboxRequest} (hk : r.StepsKeep m P) (tracker : Tracker) :
    Leads b P ((r.program m).run tracker) fun _ => P := by
  -- a name that is refused never gets to the host
  cases r with
  | start sandbox =>
    apply leads_reply
    cases hn : SandboxName.ofText sandbox with
    | error e =>
      rw [Manager.start, hn]
      exact fun _ hw => hw
    | ok name =>
      obtain rfl := Manager.ofText_text hn
      exact Manager.start_keeps (hk name rfl) tracker
  | stop sandbox =>
    apply leads_reply
    cases hn : SandboxName.ofText sandbox with
    | error e =>
      rw [Manager.stop, hn]
      exact fun _ hw => hw
    | ok name =>
      obtain rfl := Manager.ofText_text hn
      exact Manager.stop_keeps hk tracker
  | cleanup sandbox =>
    apply leads_reply
    apply leads_lift
    cases hn : SandboxName.ofText sandbox with
    | error e =>
      rw [Manager.cleanup, hn]
      exact fun _ hw => hw
    | ok name =>
      obtain rfl := Manager.ofText_text hn
      exact Manager.cleanup_keeps hk
  | state sandbox =>
    apply leads_reply
    cases hn : SandboxName.ofText sandbox with
    | error e =>
      rw [Manager.state, hn]
      exact fun _ hw => hw
    | ok name =>
      obtain rfl := Manager.ofText_text hn
      exact Manager.state_keeps tracker
  | list => exact fun _ hw => hw

end SandboxRequest

end SandboxNet
