import SandboxNet.Proofs.CleanupEffect
import SandboxNet.Proofs.Rollback
import SandboxNet.Proofs.Stopping

/-! A start that fails and every stop leave nothing of the sandbox on the host. What makes that work
is kept by each step of a start: there is some way to take the host end away. -/
namespace SandboxNet

variable {α β φ σ ι : Type} {b : Behaviour φ σ ι} {bridge sandbox : String} {h : Host}

/-- A sandbox has neither a host end nor a namespace. -/
structure Gone (sandbox : String) (h : Host) : Prop where
  near : ∀ p, h.deviceAt (hostEnd sandbox) ≠ some (.veth p)
  netns : "corral-" ++ sandbox ∉ h.netns

namespace Attachment

theorem run_cleanup_wayOut (hv : NameRule.sandbox.check sandbox = .ok ()) (hr : h.Reachable)
    (hout : WayOut bridge sandbox h) :
    ∃ h', Host.run (cleanup sandbox bridge) h = (true, h') ∧ Gone sandbox h' := by
  obtain ⟨hp, hc⟩ := hr.sound
  obtain ⟨clean, h', hrun, _, _, hcleaned, hclean⟩ := run_cleanup hv hp hc bridge
  have hnear := (hcleaned.near_gone_iff hp).mpr hout
  rw [hclean.mpr hnear] at hrun
  exact ⟨h', hrun, hnear, hcleaned.unregistered⟩

end Attachment

/-- From every world whose host is as `P` says the program ends with a host as `Q` says. -/
def Leads (b : Behaviour φ σ ι) (P : Host → Prop) (p : LifecycleProgram α)
    (Q : α → Host → Prop) : Prop :=
  ∀ w, P w.net.host → Q (World.run b p w).1 (World.run b p w).2.net.host

section Rules

variable {P P' : Host → Prop}

theorem Leads.narrow {p : LifecycleProgram α} {Q : α → Host → Prop} (hp : Leads b P p Q)
    (h : ∀ h, P' h → P h) : Leads b P' p Q :=
  fun w hw => hp w (h _ hw)

theorem Leads.bind {p : LifecycleProgram α} {f : α → LifecycleProgram β} {R : α → Host → Prop}
    {Q : β → Host → Prop} (hp : Leads b P p R) (hf : ∀ a, Leads b (R a) (f a) Q) :
    Leads b P (p >>= f) Q := by
  intro w hw
  rw [run_bind]
  exact hf _ _ (hp w hw)

theorem Leads.except_bind {ε : Type} {p : ExceptT ε LifecycleProgram α}
    {f : α → ExceptT ε LifecycleProgram β} {R : Except ε α → Host → Prop}
    {Q : Except ε β → Host → Prop} (hp : Leads b P p.run R)
    (hf : ∀ a, Leads b (R (.ok a)) (f a).run Q) (he : ∀ e h, R (.error e) h → Q (.error e) h) :
    Leads b P (p >>= f).run Q := by
  refine hp.bind fun r => ?_
  cases r with
  | ok a => exact hf a
  | error e => exact fun w hw => he e _ hw

theorem Leads.lift {ε : Type} {p : LifecycleProgram α} {Q : Host → Prop}
    (hp : Leads b P p fun _ => Q) :
    Leads b P (liftM p : ExceptT ε LifecycleProgram α).run fun _ => Q := by
  intro w hw
  have hlift : (liftM p : ExceptT ε LifecycleProgram α).run = Except.ok <$> p := rfl
  rw [hlift, World.run, Program.run_map]
  exact hp w hw

theorem leads_supervisor (c : SupervisorCall) :
    Leads b P (LifecycleProgram.ask (.supervisor c)) fun _ => P :=
  fun _ hw => hw

theorem leads_image (name : SandboxName) :
    Leads b P (LifecycleProgram.ask (.image name)) fun _ => P :=
  fun _ hw => hw

/-- What only asks the host questions keeps all that is known of it. -/
theorem leads_onHost {p : NetProgram α} (hp : ∀ {h a h'}, Yields p h a h' → h' = h) :
    Leads b P (LifecycleProgram.onHost p) fun _ => P := by
  intro w hw
  rw [run_onHost, hp (yields_run b.faults p w.net)]
  exact hw

theorem leads_wiring {p : Net α} {Q : Except SandboxError α → Host → Prop}
    (hp : ∀ {h r h'}, P h → Yields p.run h r h' → Q (r.mapError .net) h') :
    Leads b P (Manager.wiring p).run Q := by
  intro w hw
  rw [Manager.run_wiring]
  exact hp hw (yields_run b.faults p.run w.net)

end Rules

theorem log_run (p : LifecycleProgram α) (w : World φ σ ι) :
    ∃ events, (World.run b p w).2.log = w.log ++ events := by
  induction p generalizing w with
  | done a => exact ⟨[], (List.append_nil _).symm⟩
  | ask c next ih =>
    obtain ⟨events, hlog⟩ := ih (World.answer b c w).1 (World.answer b c w).2
    cases c with
    | supervisor c => exact ⟨_, hlog.trans (List.append_assoc _ _ _)⟩
    | net | image | now | deadline | sleep => exact ⟨events, hlog⟩

/-- The host of a manager, with a way to take a sandbox off it. -/
structure Recoverable (bridge sandbox : String) (h : Host) : Prop where
  reachable : h.Reachable
  wayOut : WayOut bridge sandbox h

namespace Manager

open LifecycleProgram

theorem isWired_leads {P : Host → Prop} (name : SandboxName) :
    Leads b P (isWired name) fun _ => P := by
  refine (leads_onHost fun hy => (Namespace.present_outcome hy).1).bind fun registered => ?_
  cases registered with
  | false => exact fun _ hw => hw
  | true => exact leads_onHost fun hy => (Veth.present_outcome hy).1

theorem isRunning_leads {P : Host → Prop} (name : SandboxName) :
    Leads b P (isRunning name) fun _ => P := by
  refine (leads_supervisor _).bind fun active => ?_
  cases active with
  | false => exact fun _ hw => hw
  | true => exact isWired_leads name

theorem isStale_leads {P : Host → Prop} (name : SandboxName) :
    Leads b P (isStale name) fun _ => P := by
  refine (leads_onHost fun hy => (Veth.present_outcome hy).1).bind fun there => ?_
  cases there with
  | false => exact leads_onHost fun hy => (Namespace.present_outcome hy).1
  | true => exact fun _ hw => hw

theorem create_leads (m : Manager) (sandbox : String) :
    Leads b (Recoverable m.config.bridge sandbox)
      (wiring (Bridge.create m.config.bridge m.config.address)).run fun r h =>
        Recoverable m.config.bridge sandbox h ∧
          ∀ u, r = .ok u → h.deviceAt ⟨none, m.config.bridge⟩ = some .bridge := by
  apply leads_wiring
  intro h r h' hh hy
  refine ⟨⟨hy.reachable hh.reachable, ?_⟩, ?_⟩
  · rcases Bridge.create_leaves hy with rfl | hb
    · exact hh.wayOut
    · exact Or.inl hb
  · intro u hr
    cases r with
    | error e => cases hr
    | ok _ =>
      obtain ⟨l, hl, hd, -⟩ := Bridge.create_ok hy
      rw [Host.deviceAt_of_some hl, hd]

theorem attach_leads (m : Manager) (sandbox : String) :
    Leads b (fun h => Recoverable m.config.bridge sandbox h ∧
        h.deviceAt ⟨none, m.config.bridge⟩ = some .bridge)
      (wiring (Attachment.attach m.config.bridge sandbox)).run
      fun _ => Recoverable m.config.bridge sandbox := by
  apply leads_wiring
  rintro h r h' ⟨hh, hb⟩ hy
  exact ⟨hy.reachable hh.reachable, Or.inl (Attachment.attach_keeps_bridge hy hb)⟩

/-- A start that fails has tried to bring the sandbox up, and takes it away again. -/
theorem start_error {m : Manager} {name : SandboxName} {tracker : Tracker} {w : World φ σ ι}
    {e : SandboxError}
    (he : (World.run b ((m.start name.text).run.run tracker) w).1.1 = .error e) :
    ∃ w₁, (∃ r, World.run b (bringUp m name).run (World.run b (isRunning name) w).2 = (r, w₁)) ∧
      ∃ (tracker' : Tracker) (t : Nanos), World.run b ((m.start name.text).run.run tracker) w =
        ((.error e, tracker'.note name .failed t), reclaimed b m name w₁) := by
  rw [start_run m tracker (ofText_self name), run_bind] at he ⊢
  generalize World.run b (isRunning name) w = answered at he ⊢
  obtain ⟨running, w₀⟩ := answered
  cases running with
  | true => cases he
  | false =>
    simp only [Bool.false_eq_true, if_false] at he ⊢
    rw [startFresh_run, run_bind, run_now, run_bind] at he ⊢
    generalize World.run b (bringUp m name).run w₀ = brought at he ⊢
    obtain ⟨r, w₁⟩ := brought
    cases r with
    | ok u => cases he
    | error e' =>
      simp only at he ⊢
      rw [run_bind, run_bind, run_now] at he ⊢
      cases he
      exact ⟨w₁, ⟨_, rfl⟩, _, _, rfl⟩

section Quiet

/-! No call of the host is made to fail. -/
variable (hquiet : ∀ c f, (b.faults.strike c f).1 = none)
include hquiet

theorem cleanup_leads (m : Manager) (name : SandboxName) :
    Leads b (Recoverable m.config.bridge name.text)
      (onHost (Attachment.cleanup name.text m.config.bridge))
      fun _ h => h.Reachable ∧ Gone name.text h := by
  intro w hw
  have hv := NameRule.check_eq_ok.mpr name.accepted
  obtain ⟨h', hrun, hgone⟩ := Attachment.run_cleanup_wayOut hv hw.reachable hw.wayOut
  have hy := yields_run b.faults (Attachment.cleanup name.text m.config.bridge) w.net
  have hunstruck : Unstruck b.faults (Attachment.cleanup name.text m.config.bridge) w.net :=
    fun _ _ => hquiet _ _
  rw [run_onHost]
  refine ⟨hy.reachable hw.reachable, ?_⟩
  rw [hunstruck.run_host, hrun]
  exact hgone

theorem reclaim_leads (m : Manager) (name : SandboxName) :
    Leads b (Recoverable m.config.bridge name.text) (reclaim m name)
      fun _ => Gone name.text := by
  refine (cleanup_leads hquiet m name).bind fun clean => ?_
  exact fun _ hw => hw.2

theorem reclaimStale_leads (m : Manager) (name : SandboxName) :
    Leads b (Recoverable m.config.bridge name.text) (reclaimStale m name)
      fun _ => Recoverable m.config.bridge name.text := by
  refine (isStale_leads name).bind fun stale => ?_
  cases stale with
  | false => exact fun _ hw => hw
  | true =>
    refine (cleanup_leads hquiet m name).bind fun clean => ?_
    exact fun _ hw => ⟨hw.1, Or.inr (Or.inl hw.2.near)⟩

/-- However far a start gets, there is a way out. -/
theorem bringUp_leads (m : Manager) (name : SandboxName) :
    Leads b (Recoverable m.config.bridge name.text) (bringUp m name).run
      fun _ => Recoverable m.config.bridge name.text := by
  refine (reclaimStale_leads hquiet m name).lift.except_bind (fun _ => ?_) fun _ _ hh => hh
  refine Leads.except_bind (leads_image name) (fun root => ?_) fun _ _ hh => hh
  refine (create_leads m name.text).except_bind (fun u => ?_) fun _ _ hh => hh.1
  refine Leads.narrow ?_ fun _ hh => And.intro hh.1 (hh.2 u rfl)
  refine (attach_leads m name.text).except_bind (fun _ => ?_) fun _ _ hh => hh
  exact fun _ hw => hw

end Quiet

/-- A start that fails and every stop leave neither a host end nor a namespace of the sandbox behind
and note how they ended. The last that the supervisor is told in such a start is to release the
unit. -/
theorem nothing_held (b : Behaviour φ σ ι) (hquiet : ∀ c f, (b.faults.strike c f).1 = none)
    (m : Manager) (name : SandboxName) (tracker : Tracker) (w : World φ σ ι)
    (hr : w.net.host.Reachable) (hout : WayOut m.config.bridge name.text w.net.host) :
    let start := (m.start name.text).run.run tracker
    let stop := (m.stop name.text).run.run tracker
    let started := World.run b start w
    let stopped := World.run b stop w
    (∀ e, started.1.1 = .error e →
      Gone name.text started.2.net.host ∧ started.1.2.stateOf name = some .failed ∧
      ∃ earlier t reply, started.2.log =
        w.log ++ earlier ++ [⟨t, .release ("corral-" ++ name.text ++ ".service"), reply⟩]) ∧
    Gone name.text stopped.2.net.host ∧
    (∀ u, stopped.1.1 = .ok u → stopped.1.2.stateOf name = some .stopped) ∧
    (∀ e, stopped.1.1 = .error e → stopped.1.2.stateOf name = some .failed) ∧
    -- the same of a start and a stop that return before the end of the clock
    (∀ r w', World.attempt b start w = (.ok r, w') → started = (r, w')) ∧
    ∀ r w', World.attempt b stop w = (.ok r, w') → stopped = (r, w') := by
  intro start stop started stopped
  refine ⟨fun e he => ?_, ?_⟩
  · obtain ⟨w₁, ⟨r, hup⟩, tracker', t, hstarted⟩ := start_error he
    -- the host is cleaned from where the sandbox could not be brought up, not from where it began
    have hw₁ : Recoverable m.config.bridge name.text w₁.net.host := by
      have hrunning := isRunning_leads (b := b) name w (Recoverable.mk hr hout)
      have hbrought := bringUp_leads hquiet m name _ hrunning
      rw [hup] at hbrought
      exact hbrought
    obtain ⟨asked, hasked⟩ := log_run (b := b) (isRunning name) w
    obtain ⟨tried, htried⟩ := log_run (b := b) (bringUp m name).run
      (World.run b (isRunning name) w).2
    rw [hup, hasked, List.append_assoc] at htried
    have hend : started = _ := hstarted
    rw [hend]
    refine ⟨reclaim_leads hquiet m name w₁ hw₁, stateOf_note _ _ _ _, asked ++ tried, ?_⟩
    rw [← htried, reclaimed, run_reclaim]
    exact ⟨_, _, rfl⟩
  · obtain ⟨w₁, hnet, tracker', t, hend, hresult⟩ := stop_ends (b := b) m name tracker w
    have hnet' : stopped.2.net = _ := hend
    have hgone : Gone name.text stopped.2.net.host := by
      rw [hnet']
      exact reclaim_leads hquiet m name w₁ (hnet ▸ ⟨hr, hout⟩)
    have hreturned : (∀ r w', World.attempt b start w = (.ok r, w') → started = (r, w')) ∧
        ∀ r w', World.attempt b stop w = (.ok r, w') → stopped = (r, w') :=
      ⟨fun _ _ => run_of_attempt, fun _ _ => run_of_attempt⟩
    refine ⟨hgone, ?_⟩
    rcases hresult with hok | ⟨e, herror⟩
    · refine ⟨fun _ _ => ?_, fun _ he => ?_, hreturned⟩
      · exact (congrArg (·.2.stateOf name) hok).trans (stateOf_note _ _ _ _)
      · cases (congrArg Prod.fst hok).symm.trans he
    · refine ⟨fun _ hok => ?_, fun _ _ => ?_, hreturned⟩
      · cases (congrArg Prod.fst herror).symm.trans hok
      · exact (congrArg (·.2.stateOf name) herror).trans (stateOf_note _ _ _ _)

/-- A wire left behind without its bridge, under a supervisor that neither launches nor stops. -/
theorem nothing_held_left_behind :
    let b : Behaviour Unit ScriptedSupervisor ScriptedImages :=
      ⟨.simulated, .quiet, ScriptedSupervisor.answer, ScriptedImages.answer⟩
    let m : Manager := ⟨{}, rfl⟩
    let web : SandboxName := ⟨"web", rfl⟩
    let left := (((Host.initial.answer (.addVeth "vh-web" "host0")).2.answer
      (.addNamespace "corral-web")).2.answer (.setNetns "host0" "corral-web")).2
    let idle : ScriptedSupervisor := { obeys := none, launch := .fail (.launchFailed "refused") }
    let started := World.run b ((m.start web.text).run.run ∅) ⟨⟨left, (), []⟩, idle, {}, 0, []⟩
    let stopped := World.run b ((m.stop web.text).run.run ∅)
      ⟨⟨left, (), []⟩, idle.activate "corral-web.service", {}, 0, []⟩
    started.1.1.isOk = false ∧ Gone "web" started.2.net.host ∧
      (∃ earlier t reply,
        started.2.log = earlier ++ [⟨t, .release "corral-web.service", reply⟩]) ∧
      stopped.1.1.isOk = false ∧ Gone "web" stopped.2.net.host ∧
      stopped.1.2.stateOf web = some .failed := by
  intro b m web left idle started stopped
  have hr : left.Reachable := .call _ (.call _ (.call _ .initial))
  have hout : WayOut "corral0" "web" left :=
    Or.inr (Or.inr ⟨innerEnd "web", by decide +kernel, rfl⟩)
  have herror : ∀ {x : Except SandboxError Unit}, x.isOk = false → ∃ e, x = .error e := by
    intro x hx
    cases x with
    | ok u => cases hx
    | error e => exact ⟨e, rfl⟩
  have hstart : started.1.1.isOk = false := by decide +kernel
  have hstop : stopped.1.1.isOk = false := by decide +kernel
  obtain ⟨_, hstarted⟩ := herror hstart
  obtain ⟨_, hstopped⟩ := herror hstop
  have hquiet : ∀ c f, (b.faults.strike c f).1 = none := fun _ _ => rfl
  obtain ⟨hfailed, -⟩ :=
    nothing_held b hquiet m web ∅ ⟨⟨left, (), []⟩, idle, {}, 0, []⟩ hr hout
  obtain ⟨hgone, -, hlog⟩ := hfailed _ hstarted
  obtain ⟨-, hgone', -, hstate, -⟩ := nothing_held b hquiet m web ∅
    ⟨⟨left, (), []⟩, idle.activate "corral-web.service", {}, 0, []⟩ hr hout
  exact ⟨hstart, hgone, hlog, hstop, hgone', hstate _ hstopped⟩

end Manager

end SandboxNet
