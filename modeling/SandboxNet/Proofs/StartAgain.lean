import SandboxNet.Proofs.CleanupAnswer
import SandboxNet.Proofs.Remembering

/-! Starting a sandbox that runs. As long as its unit stays active and nothing happens to the host,
every further start only looks, and leaves the records as they are. -/
namespace SandboxNet

variable {α φ σ ι : Type} {b : Behaviour φ σ ι} {m : Manager} {name : SandboxName} {h : Host}
  {w : World φ σ ι}

/-- No call is made to fail any more, whatever calls are made. -/
def FaultSource.Spent (source : FaultSource φ) (f : φ) : Prop :=
  ∀ (calls : List NetCall) (c : NetCall),
    (source.strike c (calls.foldl (fun f c => (source.strike c f).2) f)).1 = none

/-- A program meets no faults then, and leaves none to come. -/
theorem FaultSource.Spent.run {source : FaultSource φ} {w : NetWorld φ}
    (hs : source.Spent w.faults) (p : NetProgram α) :
    Unstruck source p w ∧ source.Spent (NetWorld.run source p w).2.faults := by
  induction p generalizing w with
  | done a => exact ⟨fun _ hm => (by cases hm), hs⟩
  | ask c next ih =>
    have hc : (source.strike c w.faults).1 = none := hs [] c
    have hnext : source.Spent (NetWorld.answer source c w).2.faults := by
      rw [answer_unstruck hc]
      exact fun calls => hs (c :: calls)
    obtain ⟨hu, hlast⟩ := ih (NetWorld.answer source c w).1 hnext
    refine ⟨fun made hm => ?_, hlast⟩
    rcases List.mem_cons.mp hm with rfl | hm
    · exact hc
    · exact hu made hm

theorem Fault.script_spent : script.Spent [] := by
  intro calls c
  have hnone : calls.foldl (fun f c => (script.strike c f).2) [] = [] := by
    induction calls with
    | nil => rfl
    | cons c calls ih => exact ih
  rw [hnone]
  rfl

theorem SandboxRecord.enter_running {r : SandboxRecord} (hs : r.state = .running) (now : Nanos) :
    r.enter .running now = r := by
  cases r
  cases hs
  rfl

theorem SandboxRecord.enterIn_running {records : List SandboxRecord} {r : SandboxRecord}
    (hr : records.find? (·.name = name) = some r) (hs : r.state = .running) (now : Nanos) :
    enterIn name .running now records = records := by
  induction records with
  | nil => cases hr
  | cons first rest ih =>
    rw [enterIn]
    by_cases hname : first.name = name
    · rw [List.find?_cons_of_pos (by simpa using hname)] at hr
      cases hr
      rw [if_pos hname, enter_running hs]
    · rw [List.find?_cons_of_neg (by simpa using hname)] at hr
      rw [if_neg hname, ih hr]

/-- A sandbox that runs keeps the time it began to run when it is noted once more. -/
theorem Tracker.note_running {t : Tracker} (hs : t.stateOf name = some .running) (now : Nanos) :
    t.note name .running now = t := by
  obtain ⟨r, hr, hstate⟩ := Option.map_eq_some_iff.mp hs
  exact Tracker.ext (SandboxRecord.enterIn_running hr hstate now)

/-- A sandbox is noted as running, and its namespace and its host end are there. -/
structure Runs (name : SandboxName) (t : Tracker) (h : Host) : Prop where
  noted : t.stateOf name = some .running
  netns : "corral-" ++ name.text ∈ h.netns
  near : ∃ p, h.deviceAt (hostEnd name.text) = some (.veth p)

/-- The unit of a sandbox is active, the host is this one, and its calls fail no more. -/
structure Undisturbed (b : Behaviour φ σ ι) (name : SandboxName) (h : Host) (w : World φ σ ι) :
    Prop where
  active : (b.supervise (.isActive name.unit) w.clock w.supervisor).1 = true
  host : w.net.host = h
  spent : b.faults.Spent w.net.faults

namespace Manager

open LifecycleProgram

theorem run_onHost_spent {p : NetProgram Bool} (hs : b.faults.Spent w.net.faults)
    (hp : Host.run p w.net.host = (true, w.net.host)) :
    ∃ net, World.run b (onHost p) w = (true, { w with net := net }) ∧
      net.host = w.net.host ∧ b.faults.Spent net.faults := by
  obtain ⟨hu, hlast⟩ := hs.run p
  obtain ⟨hreply, hhost⟩ := hu.run_eq
  rw [hp] at hreply hhost
  refine ⟨_, ?_, hhost, hlast⟩
  rw [run_onHost, hreply]

theorem isWired_finds (hs : b.faults.Spent w.net.faults)
    (hn : "corral-" ++ name.text ∈ w.net.host.netns)
    (hd : ∃ p, w.net.host.deviceAt (hostEnd name.text) = some (.veth p)) :
    ∃ net, World.run b (isWired name) w = (true, { w with net := net }) ∧
      net.host = w.net.host ∧ observed b (isWired name) w =
        [.network .namespaces, .network (.link none ("vh-" ++ name.text))] := by
  obtain ⟨p, hd⟩ := hd
  have hnetns : Host.run (Namespace.present name.wire.netns) w.net.host = (true, w.net.host) :=
    Namespace.run_present_mem hn
  obtain ⟨net₁, hrun₁, hhost₁, hs₁⟩ := run_onHost_spent hs hnetns
  have hveth : Host.run (Veth.present name.wire.hostVeth) net₁.host = (true, net₁.host) := by
    rw [hhost₁]
    exact Veth.run_present_true hd
  obtain ⟨net₂, hrun₂, hhost₂, _⟩ := run_onHost_spent (w := { w with net := net₁ }) hs₁ hveth
  refine ⟨net₂, ?_, hhost₂.trans hhost₁, ?_⟩
  · rw [isWired, run_bind, hrun₁]
    exact hrun₂
  · rw [isWired, observed_bind, hrun₁, observed_onHost, Namespace.trace_present]
    refine congrArg (_ :: ·) ((observed_onHost _ _).trans ?_)
    rw [Veth.trace_present]
    rfl

theorem isRunning_finds {t : Tracker} (hr : Runs name t h) (hu : Undisturbed b name h w) :
    ∃ w', World.run b (isRunning name) w = (true, w') ∧ w'.net.host = h ∧
      observed b (isRunning name) w = [.asked name.unit w.clock true, .network .namespaces,
        .network (.link none ("vh-" ++ name.text))] := by
  obtain ⟨hactive, rfl, hspent⟩ := hu
  obtain ⟨net, hwired, hhost, hseen⟩ :=
    isWired_finds (w := askedActive b name.unit w) hspent hr.netns hr.near
  refine ⟨{ askedActive b name.unit w with net := net }, ?_, hhost, ?_⟩
  · rw [isRunning, run_bind, run_isActive, hactive]
    exact hwired
  · rw [isRunning, observed_bind, run_isActive, observed_isActive, hactive]
    exact congrArg (_ :: ·) hseen

/-- A start of a sandbox that runs only looks. -/
theorem start_running {t : Tracker} (hr : Runs name t h) (hu : Undisturbed b name h w) :
    ∃ w', World.run b ((m.start name.text).run.run t) w = ((.ok (), t), w') ∧ w'.net.host = h ∧
      observed b ((m.start name.text).run.run t) w =
        [.asked name.unit w.clock true, .network .namespaces,
          .network (.link none ("vh-" ++ name.text))] := by
  obtain ⟨w', hrunning, hhost, hseen⟩ := isRunning_finds hr hu
  refine ⟨w', ?_, hhost, ?_⟩
  · rw [start_run m t (ofText_self name), run_bind, hrunning]
    simp only [if_true]
    rw [run_bind, run_now, Tracker.note_running hr.noted]
    rfl
  · rw [start_run m t (ofText_self name), observed_bind, hrunning, hseen]
    rfl

/-- A sandbox runs after a start that succeeds, whatever failed on the way. -/
theorem start_runs {t : Tracker}
    (ok : (World.run b ((m.start name.text).run.run t) w).1.1 = .ok ()) :
    Runs name (World.run b ((m.start name.text).run.run t) w).1.2
      (World.run b ((m.start name.text).run.run t) w).2.net.host := by
  obtain ⟨state, hcomes, hrunning⟩ : ∃ state,
      ComesTo name state t (World.run b ((m.start name.text).run.run t) w).1.2 ∧
        ((World.run b ((m.start name.text).run.run t) w).1.1 = .ok () → state = .running) :=
    (start_remembers m name t).returned w
  have hnoted := hcomes.stateOf
  rw [hrunning ok] at hnoted
  rcases start_ok ok with ⟨_, hsame, hnetns, hnear⟩ | hwired
  · rw [hsame]
    exact ⟨hnoted, hnetns, hnear⟩
  · obtain ⟨l, hl, hd, _⟩ := hwired.near
    refine ⟨hnoted, hwired.netns, innerEnd name.text, ?_⟩
    rw [Host.deviceAt_of_some hl, hd]

end Manager

namespace Session

variable {s : Session φ σ ι}

/-- Starts of one sandbox, each after the surroundings have become others. -/
def restarts (name : SandboxName) (worlds : List (World φ σ ι)) : List (Event φ σ ι) :=
  worlds.flatMap fun w => [.outside w, .request (.start name.text)]

theorem tracker_restarts (hr : Runs name s.tracker h) {worlds : List (World φ σ ι)}
    (hu : ∀ w ∈ worlds, Undisturbed b name h w) :
    (s.through b m (restarts name worlds)).tracker = s.tracker := by
  induction worlds generalizing s with
  | nil => rfl
  | cons w rest ih =>
    obtain ⟨w', hrun, _⟩ := Manager.start_running (m := m) hr (hu w List.mem_cons_self)
    have hserved : (s.undergo b m (.outside w)).undergo b m (.request (.start name.text)) =
        ⟨s.tracker, w'⟩ := by
      rw [undergo, serve_start, undergo, hrun]
    have hthrough : s.through b m (restarts name (w :: rest)) =
        (⟨s.tracker, w'⟩ : Session φ σ ι).through b m (restarts name rest) := by
      rw [← hserved]
      rfl
    rw [hthrough]
    exact ih hr fun v hv => hu v (List.mem_cons_of_mem w hv)

/-- After a start that succeeded, whatever failed on the way, every further start succeeds and only
looks, as long as the unit is active and nothing happens to the host. The records stay as they are,
with the times at which sandboxes began to run. -/
theorem start_again_only_looks (b : Behaviour φ σ ι) (m : Manager) (s : Session φ σ ι)
    (name : SandboxName) (ok : (s.serve b m (.start name.text)).1 = .outcome (.ok ()))
    (worlds : List (World φ σ ι)) (w : World φ σ ι) :
    let started := (s.serve b m (.start name.text)).2
    (∀ v ∈ w :: worlds, Undisturbed b name started.host v) →
    let before : Session φ σ ι := ⟨(started.through b m (restarts name worlds)).tracker, w⟩
    let again := before.serve b m (.start name.text)
    again.1 = .outcome (.ok ()) ∧ again.2.tracker = started.tracker ∧
      again.2.host = started.host ∧
      observed b ((m.start name.text).run.run before.tracker) w =
        [.asked name.unit w.clock true, .network .namespaces,
          .network (.link none ("vh-" ++ name.text))] := by
  intro started hu before again
  have hstarted : started = _ := congrArg Prod.snd (serve_start name.text)
  rw [serve_start] at ok
  have hr : Runs name started.tracker started.host := by
    rw [hstarted]
    exact Manager.start_runs (SandboxReply.outcome.inj ok)
  have htracker : before.tracker = started.tracker :=
    tracker_restarts hr fun v hv => hu v (List.mem_cons_of_mem w hv)
  obtain ⟨w', hrun, hhost, hseen⟩ := Manager.start_running (m := m) hr (hu w List.mem_cons_self)
  have hagain : again = (.outcome (.ok ()), ⟨started.tracker, w'⟩) := by
    rw [show again = _ from serve_start name.text, htracker, hrun]
  rw [hagain, htracker]
  exact ⟨rfl, rfl, hhost, hseen⟩

/-- A namespace that was left behind and could not be deleted does not keep the sandbox from being
started, and the third start does not launch it again. -/
theorem start_again_only_looks_left_behind :
    let m : Manager := ⟨{}, rfl⟩
    let web : SandboxName := ⟨"web", rfl⟩
    let b := ScriptedWorld.behaviour
    let h := (Host.initial.answer (.addNamespace "corral-web")).2
    let s : Session (List Fault) ScriptedSupervisor ScriptedImages :=
      ⟨∅, ⟨⟨h, [⟨"delete_namespace", 0, some 1⟩], []⟩, {}, {}, 500, []⟩⟩
    let started := (s.serve b m (.start web.text)).2
    let soon : ScriptedWorld := { started.world with clock := 60000 }
    let later : ScriptedWorld := { started.world with clock := 90000 }
    let before : Session _ _ _ :=
      ⟨(started.through b m (restarts web [soon])).tracker, later⟩
    let again := before.serve b m (.start web.text)
    (s.serve b m (.start web.text)).1 = .outcome (.ok ()) ∧ again.1 = .outcome (.ok ()) ∧
      again.2.tracker = started.tracker ∧
      started.tracker[web]? = some ⟨web, .running, some 500⟩ ∧
      observed b ((m.start web.text).run.run before.tracker) later =
        [.asked web.unit later.clock true, .network .namespaces,
          .network (.link none ("vh-" ++ web.text))] := by
  intro m web b h s started soon later before again
  have ok : (s.serve b m (.start web.text)).1 = .outcome (.ok ()) :=
    serve_start_ok (by decide +kernel)
  have hspent : b.faults.Spent started.world.net.faults := by
    have hnone : started.world.net.faults = [] := by decide +kernel
    rw [hnone]
    exact Fault.script_spent
  have hu : ∀ t, (b.supervise (.isActive web.unit) t started.world.supervisor).1 = true →
      Undisturbed b web started.host { started.world with clock := t } :=
    fun t hactive => ⟨hactive, rfl, hspent⟩
  have hsoon := hu 60000 (by decide +kernel)
  have hlater := hu 90000 (by decide +kernel)
  obtain ⟨hok, htracker, _, hseen⟩ := start_again_only_looks b m s web ok [soon] later
    (List.forall_mem_cons.mpr ⟨hlater, List.forall_mem_singleton.mpr hsoon⟩)
  exact ⟨ok, hok, htracker, by decide +kernel, hseen⟩

end Session

end SandboxNet
