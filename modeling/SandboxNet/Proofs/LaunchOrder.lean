import SandboxNet.Proofs.AttachmentOutcomes
import SandboxNet.Simulation.Supervisor

/-! A unit is launched only into a network that is wired. A start makes at most one launch, after
the steps that wire the sandbox have all succeeded. -/
namespace SandboxNet

variable {α β φ σ ι : Type} {b : Behaviour φ σ ι}

/-- The launches that a program makes, each with the world in which it is made. -/
def launches (b : Behaviour φ σ ι) (p : LifecycleProgram α) (w : World φ σ ι) :
    List (World φ σ ι × UnitSpec) :=
  (p.trace (World.answer b) w).filterMap fun made =>
    match made.2 with
    | .supervisor (.launch spec) => some (made.1, spec)
    | _ => none

theorem launches_bind (p : LifecycleProgram α) (f : α → LifecycleProgram β) (w : World φ σ ι) :
    launches b (p >>= f) w =
      launches b p w ++ launches b (f (World.run b p w).1) (World.run b p w).2 := by
  simp only [launches, Program.trace_bind, List.filterMap_append, World.run]

theorem run_bind (p : LifecycleProgram α) (f : α → LifecycleProgram β) (w : World φ σ ι) :
    World.run b (p >>= f) w = World.run b (f (World.run b p w).1) (World.run b p w).2 :=
  Program.run_bind _ p f w

@[simp] theorem launches_done (a : α) (w : World φ σ ι) : launches b (.done a) w = [] := rfl

theorem launches_map (f : α → β) (p : LifecycleProgram α) (w : World φ σ ι) :
    launches b (f <$> p) w = launches b p w := by
  simp only [launches, Program.trace_map]

theorem launches_except_bind {ε : Type} (p : ExceptT ε LifecycleProgram α)
    (f : α → ExceptT ε LifecycleProgram β) (w : World φ σ ι) :
    launches b (p >>= f).run w = launches b p.run w ++
      match World.run b p.run w with
      | (.ok a, w') => launches b (f a).run w'
      | (.error _, _) => [] := by
  rw [launches, Program.trace_except_bind, List.filterMap_append, World.run]
  generalize p.run.run (World.answer b) w = x
  obtain ⟨r, w'⟩ := x
  cases r <;> rfl

/-- A sequence that succeeds went through both its parts. -/
theorem run_except_ok {ε : Type} {p : ExceptT ε LifecycleProgram α}
    {f : α → ExceptT ε LifecycleProgram β} {c : β} {w w' : World φ σ ι}
    (ok : World.run b (p >>= f).run w = (.ok c, w')) :
    ∃ a w₁, World.run b p.run w = (.ok a, w₁) ∧ World.run b (f a).run w₁ = (.ok c, w') := by
  rw [World.run, Program.run_except_bind] at ok
  cases hp : p.run.run (World.answer b) w with
  | mk r w₁ =>
    rw [hp] at ok
    cases r with
    | ok a => exact ⟨a, w₁, hp, ok⟩
    | error e => cases ok

/-- A program that launches nothing in any world. -/
def Launchless (b : Behaviour φ σ ι) (p : LifecycleProgram α) : Prop :=
  ∀ w, launches b p w = []

theorem Launchless.bind {p : LifecycleProgram α} {f : α → LifecycleProgram β}
    (hp : Launchless b p) (hf : ∀ a, Launchless b (f a)) : Launchless b (p >>= f) := by
  intro w
  rw [launches_bind, hp, hf]
  rfl

theorem Launchless.map {p : LifecycleProgram α} (f : α → β) (hp : Launchless b p) :
    Launchless b (f <$> p) := by
  intro w
  rw [launches_map, hp]

theorem Launchless.except_bind {ε : Type} {p : ExceptT ε LifecycleProgram α}
    {f : α → ExceptT ε LifecycleProgram β} (hp : Launchless b p.run)
    (hf : ∀ a, Launchless b (f a).run) : Launchless b (p >>= f).run := by
  intro w
  rw [launches_except_bind, hp]
  split
  · exact hf _ _
  · rfl

/-- What is done on the host launches nothing and changes nothing else. -/
theorem run_onHost (p : NetProgram α) (w : World φ σ ι) :
    World.run b (LifecycleProgram.onHost p) w =
      ((NetWorld.run b.faults p w.net).1, { w with net := (NetWorld.run b.faults p w.net).2 }) := by
  induction p generalizing w with
  | done a => rfl
  | ask c next ih => exact ih _ _

theorem launchless_onHost (p : NetProgram α) : Launchless b (LifecycleProgram.onHost p) := by
  intro w
  induction p generalizing w with
  | done a => rfl
  | ask c next ih => exact ih _ _

namespace Manager

open LifecycleProgram

/-- Whether a sandbox is active and wired. -/
def isRunning (name : SandboxName) : LifecycleProgram Bool := do
  if ← isActive name.unit then
    isWired name
  else
    return false

/-- What a start does before the steps that can fail it; says whether the sandbox runs already. -/
def approach (m : Manager) (name : SandboxName) : LifecycleProgram Bool := do
  if ← isRunning name then
    return true
  else
    let _ ← ask .now
    reclaimStale m name
    return false

/-- The steps before a launch: the image, the bridge and the wire. -/
def provision (m : Manager) (name : SandboxName) :
    ExceptT SandboxError LifecycleProgram String := do
  let root ← ExceptT.mk (ask (.image name))
  wiring (Bridge.create m.config.bridge m.config.address)
  wiring (Attachment.attach m.config.bridge name.text)
  return root

theorem bringUp_eq (m : Manager) (name : SandboxName) :
    bringUp m name = (do
      reclaimStale m name
      let root ← provision m name
      launch (.ofSandbox name root)) := by
  simp only [bringUp, provision, bind_assoc, pure_bind]

theorem tracking_lift_bind (p : LifecycleProgram α) (f : α → Tracking β) (tracker : Tracker) :
    ((liftM p : Tracking α) >>= f).run tracker = p >>= fun a => (f a).run tracker := by
  rw [StateT.run_bind, StateT.run_monadLift, bind_assoc]
  rfl

theorem lifecycle_lift_bind (p : LifecycleProgram α) (f : α → Lifecycle β) (tracker : Tracker) :
    ((liftM p : Lifecycle α) >>= f).run.run tracker = p >>= fun a => (f a).run.run tracker := by
  have hl : (liftM p : Lifecycle α).run = Except.ok <$> (liftM p : Tracking α) := rfl
  rw [ExceptT.run_bind, hl, bind_map_left]
  exact tracking_lift_bind p _ tracker

theorem startFresh_run (m : Manager) (name : SandboxName) (tracker : Tracker) :
    (m.startFresh name).run.run tracker = (do
      let t ← ask .now
      let tracker := tracker.note name .starting t
      match ← (bringUp m name).run with
      | .ok () =>
        let t ← ask .now
        return (.ok (), tracker.note name .running t)
      | .error e =>
        let _ ← reclaim m name
        let t ← ask .now
        return (.error e, tracker.note name .failed t)) := by
  refine congrArg (Program.ask _) (funext fun t => ?_)
  refine (tracking_lift_bind _ _ _).trans (bind_congr fun r => ?_)
  cases r with
  | ok u => rfl
  | error e => exact tracking_lift_bind _ _ _

theorem start_run_invalid {text : String} {e : SandboxError} (m : Manager) (tracker : Tracker)
    (hn : SandboxName.ofText text = .error e) :
    (m.start text).run.run tracker = pure (.error e, tracker) := by
  rw [start, hn]
  rfl

theorem start_run (m : Manager) {text : String} {name : SandboxName} (tracker : Tracker)
    (hn : SandboxName.ofText text = .ok name) :
    (m.start text).run.run tracker = (do
      if ← isRunning name then
        let t ← ask .now
        return (.ok (), tracker.note name .running t)
      else
        (m.startFresh name).run.run tracker) := by
  rw [start, hn]
  simp only [isRunning, liftExcept, bind_assoc, pure_bind, lifecycle_lift_bind]
  refine bind_congr fun active => ?_
  cases active with
  | false => rfl
  | true =>
    simp only [if_true, lifecycle_lift_bind]
    refine bind_congr fun wired => ?_
    cases wired with
    | false => rfl
    | true => rfl

theorem isRunning_launchless (name : SandboxName) : Launchless b (isRunning name) := by
  refine Launchless.bind (fun _ => rfl) fun active => ?_
  cases active with
  | false => exact fun _ => rfl
  | true =>
    refine (launchless_onHost _).bind fun registered => ?_
    cases registered with
    | false => exact fun _ => rfl
    | true => exact launchless_onHost _

theorem reclaimStale_launchless (m : Manager) (name : SandboxName) :
    Launchless b (reclaimStale m name) := by
  have hs : Launchless b (isStale name) := by
    refine (launchless_onHost _).bind fun there => ?_
    cases there with
    | false => exact launchless_onHost _
    | true => exact fun _ => rfl
  refine hs.bind fun stale => ?_
  cases stale with
  | false => exact fun _ => rfl
  | true => exact (launchless_onHost _).bind fun _ => fun _ => rfl

theorem reclaim_launchless (m : Manager) (name : SandboxName) : Launchless b (reclaim m name) :=
  (launchless_onHost _).bind fun _ => fun _ => rfl

theorem wiring_launchless (p : Net α) : Launchless b (wiring p).run :=
  (launchless_onHost p.run).map _

theorem provision_launchless (m : Manager) (name : SandboxName) :
    Launchless b (provision m name).run := by
  refine Launchless.except_bind (fun _ => rfl) fun root => ?_
  refine (wiring_launchless _).except_bind fun _ => ?_
  exact (wiring_launchless _).except_bind fun _ => fun _ => rfl

theorem launches_bringUp (m : Manager) (name : SandboxName) (w : World φ σ ι) :
    launches b (bringUp m name).run w =
      match World.run b (provision m name).run (World.run b (reclaimStale m name) w).2 with
      | (.ok root, w') => [(w', .ofSandbox name root)]
      | (.error _, _) => [] := by
  have hlift : (liftM (reclaimStale m name) : ExceptT SandboxError LifecycleProgram Unit).run =
      Except.ok <$> reclaimStale m name := rfl
  rw [bringUp_eq, ExceptT.run_bind, hlift, bind_map_left, launches_bind, reclaimStale_launchless,
    List.nil_append, launches_except_bind, provision_launchless, List.nil_append]
  generalize World.run b (provision m name).run _ = provisioned
  obtain ⟨r, w'⟩ := provisioned
  cases r <;> rfl

theorem launches_startFresh (m : Manager) (name : SandboxName) (tracker : Tracker)
    (w : World φ σ ι) :
    launches b ((m.startFresh name).run.run tracker) w = launches b (bringUp m name).run w := by
  have hnow : World.run b (ask .now) w = (w.clock, w) := rfl
  have hquiet : launches b (ask .now) w = [] := rfl
  rw [startFresh_run, launches_bind, hnow, hquiet, launches_bind, List.nil_append]
  -- what follows notes how it ended, and takes the network away if it failed
  generalize World.run b (bringUp m name).run w = x
  obtain ⟨r, w'⟩ := x
  cases r with
  | ok u => rw [Launchless.bind (fun _ => rfl) (fun _ _ => rfl), List.append_nil]
  | error e =>
    rw [Launchless.bind (reclaim_launchless m name) (fun _ _ => rfl), List.append_nil]

/-- No launch for a sandbox that runs, nor after a step that fails; and else just the one. -/
theorem launches_start (m : Manager) {text : String} {name : SandboxName} (tracker : Tracker)
    (w : World φ σ ι) (hn : SandboxName.ofText text = .ok name) :
    launches b ((m.start text).run.run tracker) w =
      match World.run b (approach m name) w with
      | (true, _) => []
      | (false, w₁) =>
        match World.run b (provision m name).run w₁ with
        | (.ok root, w₂) => [(w₂, .ofSandbox name root)]
        | (.error _, _) => [] := by
  rw [start_run m tracker hn, launches_bind, isRunning_launchless, List.nil_append, approach,
    run_bind]
  cases (World.run b (isRunning name) w).1 with
  | true => rfl
  | false =>
    have hreclaim : ∀ w : World φ σ ι, World.run b (do
        let _ ← ask .now
        reclaimStale m name
        return false) w = (false, (World.run b (reclaimStale m name) w).2) := by
      intro w
      rw [run_bind, run_bind]
      rfl
    simp only [Bool.false_eq_true, if_false, hreclaim]
    rw [launches_startFresh, launches_bringUp]

/-- A sandbox that is wired as a configuration says, both ends up. -/
structure WiredFor (config : Config) (sandbox : String) (h : Host) : Prop where
  netns : "corral-" ++ sandbox ∈ h.netns
  far : ∃ l, h.links[innerEnd sandbox]? = some l ∧ l.device = .veth (hostEnd sandbox) ∧
    l.adminUp = true
  near : ∃ l, h.links[hostEnd sandbox]? = some l ∧ l.device = .veth (innerEnd sandbox) ∧
    l.adminUp = true ∧ l.master = some config.bridge
  bridge : ∃ l, h.links[(⟨none, config.bridge⟩ : LinkId)]? = some l ∧ l.device = .bridge ∧
    l.adminUp = true ∧ ∀ address, config.address = some address → address ∈ l.addresses

theorem run_wiring (p : Net α) (w : World φ σ ι) : World.run b (wiring p).run w =
    ((NetWorld.run b.faults p.run w.net).1.mapError .net,
      { w with net := (NetWorld.run b.faults p.run w.net).2 }) := by
  have hm : World.run b (wiring p).run w = _ := Program.run_map _ _ _
  rw [hm]
  have ho := run_onHost (b := b) p.run w
  rw [World.run] at ho
  rw [ho]

theorem mapError_ok {r : Except NetError α} {a : α} (ok : r.mapError SandboxError.net = .ok a) :
    r = .ok a := by
  cases r with
  | ok _ =>
    cases ok
    rfl
  | error e => cases ok

theorem wiring_ok {p : Net α} {a : α} {w w' : World φ σ ι}
    (ok : World.run b (wiring p).run w = (.ok a, w')) :
    Yields p.run w.net.host (.ok a) w'.net.host := by
  have hy := yields_run b.faults p.run w.net
  rw [run_wiring] at ok
  obtain ⟨hr, rfl⟩ := Prod.mk.inj ok
  rw [mapError_ok hr] at hy
  exact hy

/-- An attachment that succeeds leaves the addresses of its bridge alone. -/
theorem attach_wires {config : Config} {sandbox : String} {h h' : Host} {l : Link}
    (hl : h.links[(⟨none, config.bridge⟩ : LinkId)]? = some l) (hd : l.device = .bridge)
    (ha : ∀ address, config.address = some address → address ∈ l.addresses)
    (out : Yields (Attachment.attach config.bridge sandbox).run h (.ok ()) h') :
    WiredFor config sandbox h' := by
  obtain ⟨base, ⟨h₁, hb, hn⟩, ⟨_, he, _⟩ | ⟨_, he, _⟩ | ⟨_, _, hns, base', hup, hs⟩⟩ :=
    Attachment.attach_outcome out
  · cases he
  · cases he
  have hbase : base.links[(⟨none, config.bridge⟩ : LinkId)]? = some l := by
    have hl₁ : h₁.links[(⟨none, config.bridge⟩ : LinkId)]? = some l := by
      rcases hb with rfl | ok
      · exact hl
      · rw [(Host.addBridge_eq_ok.mp ok).1] at hl
        cases hl
    rcases hn with rfl | ok
    · exact hl₁
    · obtain ⟨_, rfl⟩ := Host.addNamespace_eq_ok.mp ok
      rw [Host.links_insert, if_neg (by simp), hl₁]
  have hraised : base'.netns = base.netns ∧
      base'.links[(⟨none, config.bridge⟩ : LinkId)]? = some (raised l) := by
    rcases hup with rfl | rfl
    · exact ⟨rfl, by rw [Host.update_links, if_pos rfl, hbase]; rfl⟩
    · refine ⟨rfl, ?_⟩
      rw [Host.update_links, if_neg (by simp), Host.update_links, if_pos rfl, hbase]
      rfl
  obtain ⟨hnetns, hrow⟩ := hraised
  refine ⟨?_, ⟨_, hs.far_row, rfl, rfl⟩, ⟨_, hs.near_row, rfl, rfl, rfl⟩,
    ⟨_, hs.base_row hrow, hd, rfl, ha⟩⟩
  rw [hs.netns, hnetns]
  exact hns

theorem provision_wires {m : Manager} {name : SandboxName} {root : String}
    {w w' : World φ σ ι} (ok : World.run b (provision m name).run w = (.ok root, w')) :
    WiredFor m.config name.text w'.net.host := by
  obtain ⟨_, w₁, _, afterImage⟩ := run_except_ok ok
  obtain ⟨_, w₂, hbridge, afterBridge⟩ := run_except_ok afterImage
  obtain ⟨_, w₃, hattach, last⟩ := run_except_ok afterBridge
  obtain ⟨_, rfl⟩ := Prod.mk.inj last
  obtain ⟨l, hl, hd, ha⟩ := Bridge.create_ok (wiring_ok hbridge)
  exact attach_wires hl hd ha (wiring_ok hattach)

theorem ofText_text {text : String} {name : SandboxName}
    (hn : SandboxName.ofText text = .ok name) : name.text = text := by
  rw [SandboxName.ofText] at hn
  split at hn
  · cases hn
  · cases hn
    rfl

theorem netnsPath_eq (name : SandboxName) (root : String) :
    (UnitSpec.ofSandbox name root).netnsPath = "/run/netns/corral-" ++ name.text := by
  have hp : "/run/netns/corral-" = "/run/netns/" ++ "corral-" := rfl
  rw [hp, String.append_assoc]
  rfl

/-- A start launches at most one unit, that of the sandbox, inside the namespace of the sandbox, and
at that moment the sandbox is wired. There is no launch exactly if the sandbox runs already or its
image, its bridge or its wire cannot be had. -/
theorem launch_only_when_wired (b : Behaviour φ σ ι) (m : Manager) (text : String)
    (tracker : Tracker) (w : World φ σ ι) :
    (launches b ((m.start text).run.run tracker) w).length ≤ 1 ∧
    (∀ w' spec, (w', spec) ∈ launches b ((m.start text).run.run tracker) w →
      spec.unit = "corral-" ++ text ++ ".service" ∧
      spec.netnsPath = "/run/netns/corral-" ++ text ∧
      WiredFor m.config text w'.net.host) ∧
    ∀ name, SandboxName.ofText text = .ok name →
      (launches b ((m.start text).run.run tracker) w = [] ↔
        (World.run b (approach m name) w).1 = true ∨
        ∃ e, (World.run b (provision m name).run (World.run b (approach m name) w).2).1 =
          .error e) := by
  cases hn : SandboxName.ofText text with
  | error e =>
    rw [start_run_invalid m tracker hn]
    simp
  | ok name =>
    obtain rfl := ofText_text hn
    simp only [Except.ok.injEq, forall_eq']
    rw [launches_start m tracker w hn]
    generalize World.run b (approach m name) w = approached
    obtain ⟨running, w₁⟩ := approached
    cases running with
    | true => simp
    | false =>
      cases hp : World.run b (provision m name).run w₁ with
      | mk r w₂ =>
      cases r with
      | error e => simp [hp]
      | ok root =>
        simp only [hp, List.length_singleton, Nat.le_refl, List.mem_singleton, Prod.mk.injEq,
          true_and]
        refine ⟨?_, by simp⟩
        rintro w' spec ⟨rfl, rfl⟩
        exact ⟨rfl, netnsPath_eq name root, provision_wires hp⟩

/-- On a fresh host the sandbox is launched into the wire that was made for it. -/
theorem launch_only_when_wired_fresh :
    ∃ made ∈ launches ScriptedWorld.behaviour
      ((Manager.start ⟨{ address := some "10.0.0.1/24" }, rfl⟩ "web").run.run ∅)
      (ScriptedWorld.initial {} {}),
      made.2.unit = "corral-web.service" ∧
      WiredFor { address := some "10.0.0.1/24" } "web" made.1.net.host := by
  have hone : (launches ScriptedWorld.behaviour
      ((Manager.start ⟨{ address := some "10.0.0.1/24" }, rfl⟩ "web").run.run ∅)
      (ScriptedWorld.initial {} {})).length = 1 := by decide +kernel
  obtain ⟨made, hmade⟩ := List.length_eq_one_iff.mp hone
  have hm := hmade ▸ List.mem_singleton_self made
  have hwired := (launch_only_when_wired ScriptedWorld.behaviour
    ⟨{ address := some "10.0.0.1/24" }, rfl⟩ "web" ∅ (ScriptedWorld.initial {} {})).2.1 _ _ hm
  exact ⟨made, hm, hwired.1, hwired.2.2⟩

end Manager

end SandboxNet
