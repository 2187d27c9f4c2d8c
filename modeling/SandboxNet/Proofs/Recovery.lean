import SandboxNet.Proofs.AttachSuccess
import SandboxNet.Proofs.Granted
import SandboxNet.Proofs.Restored
import SandboxNet.Proofs.Wiring

/-! A start after others that failed, of which anything may be left: a pair that never got into its
namespace, a pair without a namespace, a namespace without a pair, a bridge without its address.
What is left of the sandbox can be taken away, and then all that the start needs is free. -/
namespace SandboxNet

variable {φ σ ι : Type} {b : Behaviour φ σ ι} {m : Manager} {name : SandboxName}
  {bridge sandbox x : String} {h h' : Host} {P : Host → Prop}

namespace Bridge

/-- A bridge can be made with its address if its place is free or has a bridge. -/
theorem run_create_made {address : Option String} (hv : NameRule.bridge.check bridge = .ok ())
    (ha : address.elim (.ok ()) Address.check = .ok ()) (ht : h.takesBridge bridge = true) :
    Host.run (create bridge address).run h =
      (.ok (), h.bridged bridge (·.addressed address)) := by
  have hmade : ∃ h', Host.run (create bridge address).run h = (.ok (), h') := by
    rw [create, hv, ha, Host.run_net_ok rfl, Host.run_net_ok rfl,
      Host.run_net_ok (run_ensure_made ht)]
    cases address with
    | none => exact ⟨_, rfl⟩
    | some a => exact run_ensureAddress (Host.bridged_self _ _ _) a
  obtain ⟨h', hrun⟩ := hmade
  rw [hrun, create_makes (Host.run_yields hrun)]

end Bridge

namespace Attachment

/-- An attachment changes nothing or ends with the bridge there. -/
theorem attach_leaves {r : Except NetError Unit}
    (out : Yields (attach bridge sandbox).run h r h') : h' = h ∨ h'.IsBridge bridge := by
  obtain ⟨_, _, _, rfl⟩ | ⟨names, hnames, afterNames⟩ := yields_check_bind.mp out
  · exact Or.inl rfl
  obtain ⟨_, _, hcreate⟩ | ⟨_, h₁, hcreate, afterBridge⟩ := yields_net_bind.mp afterNames
  · exact Bridge.create_leaves hcreate
  obtain ⟨_, _, he, _⟩ | ⟨_, hv, _⟩ := yields_check_bind.mp hcreate
  · cases he
  obtain ⟨l, hl, hd, _⟩ := Bridge.create_ok hcreate
  have hb : h₁.IsBridge bridge := by rw [Host.IsBridge, Host.deviceAt_of_some hl, hd]
  -- with the bridge there an attachment would have gone on in the same way
  have hagain : Yields (attach bridge sandbox).run h₁ r h' :=
    yields_check_bind.mpr (Or.inr ⟨names, hnames, yields_net_bind.mpr
      (Or.inr ⟨(), h₁, Host.run_yields (Bridge.run_create_present hv hb), afterBridge⟩)⟩)
  exact Or.inr (attach_keeps_bridge hagain hb)

theorem cleanup_keeps_bridge {clean : Bool} (hp : h.Paired) (hc : h.Contained)
    (out : Yields (cleanup sandbox bridge) h clean h') (hb : h.IsBridge x) : h'.IsBridge x := by
  obtain ⟨h₁, hp₁, hc₁, hdetach, hns⟩ := cleanup_steps hp hc out
  have hb₁ : h₁.IsBridge x := by
    obtain rfl | ⟨⟨p, hd⟩, rfl⟩ := hdetach
    · exact hb
    · refine Host.remove_keeps_bridge hp ?_ hb
      intro he
      rw [← he, hb] at hd
      cases hd
  rcases hns with rfl | ok
  · exact hb₁
  · exact Host.deleteNamespace_keeps_bridge hp₁ hc₁ hb₁ ok

end Attachment

/-- A host that only sandbox managers with this bridge have changed. There are no pairs on it
without the bridge, so each can be detached. -/
structure Footed (bridge : String) (h : Host) : Prop where
  tended : Tended bridge h
  bridged : ∀ id p, h.deviceAt id = some (.veth p) → h.IsBridge bridge

theorem footed_initial (bridge : String) : Footed bridge .initial := by
  refine ⟨tended_initial bridge, ?_⟩
  intro id p hd
  rw [Host.deviceAt, Host.initial_links] at hd
  split at hd
  · cases hd
  · cases hd

namespace Footed

theorem cleanup {clean : Bool} (hf : Footed bridge h)
    (out : Yields (Attachment.cleanup sandbox bridge) h clean h') : Footed bridge h' := by
  obtain ⟨hp, hc, _⟩ := hf.tended.guarded.built
  refine ⟨hf.tended.cleanup out, ?_⟩
  intro id p hd
  obtain ⟨l, hl, hd⟩ := Option.map_eq_some_iff.mp hd
  have hold := Host.deviceAt_of_some (Attachment.cleanup_rows hp hc out hl)
  rw [hd] at hold
  exact Attachment.cleanup_keeps_bridge hp hc out (hf.bridged id p hold)

theorem create (hf : Footed bridge h) (hb : ¬ EndLike bridge) {address : Option String}
    {r : Except NetError Unit} (out : Yields (Bridge.create bridge address).run h r h') :
    Footed bridge h' := by
  refine ⟨hf.tended.create hb out, ?_⟩
  rcases Bridge.create_leaves out with rfl | hbridge
  · exact hf.bridged
  · exact fun _ _ _ => hbridge

theorem attach (hf : Footed bridge h) (hb : ¬ EndLike bridge) {r : Except NetError Unit}
    (out : Yields (Attachment.attach bridge sandbox).run h r h') : Footed bridge h' := by
  refine ⟨hf.tended.attach hb out, ?_⟩
  rcases Attachment.attach_leaves out with rfl | hbridge
  · exact hf.bridged
  · exact fun _ _ _ => hbridge

theorem wayOut (hf : Footed bridge h) (x : String) : WayOut bridge x h := by
  by_cases hd : ∃ p, h.deviceAt (hostEnd x) = some (.veth p)
  · obtain ⟨p, hd⟩ := hd
    exact Or.inl (hf.bridged _ p hd)
  · exact Or.inr (Or.inl (not_exists.mp hd))

theorem takesBridge (hf : Footed bridge h) (hb : Usable bridge) : h.takesBridge bridge = true := by
  obtain ⟨_, _, hbuilt⟩ := hf.tended.guarded.built
  rw [takesBridge_iff]
  cases hl : h.links[(⟨none, bridge⟩ : LinkId)]? with
  | none => exact Or.inl rfl
  | some l =>
    right
    have hdevice := Host.deviceAt_of_some hl
    rw [hdevice]
    cases hd : l.device with
    | bridge => rfl
    | loopback => exact absurd ((hbuilt.links _ l hl).loopback hd) hb.1
    | veth p =>
      -- the bridge has the name of no end
      rw [hd] at hdevice
      obtain ⟨s, ⟨he, _⟩ | ⟨_, he | he⟩⟩ := hf.tended.owned.pairs _ p hdevice
      · exact absurd (LinkId.mk.inj he).2 (hb.ne_hostVeth s)
      · exact absurd (LinkId.mk.inj he).2 hb.2.1
      · cases he

/-- Where the host end of a sandbox would be, there is nothing but a veth end. -/
theorem hostEnd_free (hf : Footed bridge h)
    (hnone : ∀ p, h.deviceAt (hostEnd x) ≠ some (.veth p)) : h.links[hostEnd x]? = none := by
  obtain ⟨_, _, hbuilt⟩ := hf.tended.guarded.built
  cases hl : h.links[hostEnd x]? with
  | none => rfl
  | some l =>
    have hdevice := Host.deviceAt_of_some hl
    cases hd : l.device with
    | veth p =>
      rw [hd] at hdevice
      exact absurd hdevice (hnone p)
    | bridge =>
      rw [hd] at hdevice
      exact absurd (endLike_hostVeth x) (hf.tended.owned.bridges _ hdevice).2
    | loopback => exact absurd ((hbuilt.links _ l hl).loopback hd) (hostVeth_ne_lo x)

end Footed

/-- The place that all sandboxes share is free or has an end of this one. -/
def LooseFor (x : String) (h : Host) : Prop :=
  ∀ l, h.get? "host0" = some l → l.device = .veth (hostEnd x)

/-- Once nothing is left of a sandbox, it can be attached. -/
theorem Footed.attachable (hf : Footed m.config.bridge h) (hb : Usable m.config.bridge)
    (hgone : Gone name.text h) (hloose : LooseFor name.text h) :
    Attachable h m.config.bridge name.text where
  sandboxName := NameRule.accepts_iff.mpr (NameRule.check_eq_ok.mpr name.accepted)
  bridgeName := (Config.fault?_eq_none.mp m.sound).1
  takes := hf.takesBridge hb
  near := hf.hostEnd_free hgone.near
  loose := by
    cases hl : h.get? "host0" with
    | none => rfl
    | some l =>
      obtain ⟨hp, _⟩ := hf.tended.guarded.built
      obtain ⟨_, near, hnear, hd⟩ := hp.peer hl (hloose l hl)
      exact absurd (by rw [Host.deviceAt_of_some hnear, hd]) (hgone.near looseEnd)
  bridge_ne_near := hb.ne_hostVeth name.text
  bridge_ne_loose := hb.2.1
  inner := fun hin => absurd hin hgone.netns

/-- What a start of a sandbox can find when none of its unit runs. -/
structure Leftover (bridge x : String) (h : Host) : Prop where
  footed : Footed bridge h
  loose : LooseFor x h

namespace Manager

open LifecycleProgram

/-- What is not stale is gone. -/
theorem isStale_tells (name : SandboxName) : Achieves b P (isStale name) fun stale h =>
    P h ∧ (stale = false → Gone name.text h) := by
  have hveth : Achieves b P (onHost (Veth.present name.wire.hostVeth)) fun there h => P h ∧
      (there = false → ∀ p, h.deviceAt (hostEnd name.text) ≠ some (.veth p)) := by
    apply achieves_onHost
    intro h hh
    by_cases hd : ∃ p, h.deviceAt (hostEnd name.text) = some (.veth p)
    · obtain ⟨p, hd⟩ := hd
      have hrun : Host.run (Veth.present name.wire.hostVeth) h = (true, h) :=
        Veth.run_present_true hd
      rw [hrun]
      exact ⟨hh, fun hno => (by cases hno)⟩
    · have hrun : Host.run (Veth.present name.wire.hostVeth) h = (false, h) :=
        Veth.run_present_false (not_exists.mp hd)
      rw [hrun]
      exact ⟨hh, fun _ => not_exists.mp hd⟩
  refine hveth.bind fun there => ?_
  cases there with
  | true => exact fun _ _ hw => ⟨hw.1, fun hno => (by cases hno)⟩
  | false =>
    apply achieves_onHost
    rintro h ⟨hh, hnear⟩
    by_cases hn : "corral-" ++ name.text ∈ h.netns
    · have hrun : Host.run (Namespace.present name.wire.netns) h = (true, h) :=
        Namespace.run_present_mem hn
      rw [hrun]
      exact ⟨hh, fun hno => (by cases hno)⟩
    · have hrun : Host.run (Namespace.present name.wire.netns) h = (false, h) :=
        Namespace.run_present_not_mem hn
      rw [hrun]
      exact ⟨hh, fun _ => ⟨hnear rfl, hn⟩⟩

theorem cleanup_clears (m : Manager) (name : SandboxName) :
    Achieves b (Leftover m.config.bridge name.text)
      (onHost (Attachment.cleanup name.text m.config.bridge)) fun _ h =>
        Leftover m.config.bridge name.text h ∧ Gone name.text h := by
  apply achieves_onHost
  rintro h ⟨hfooted, hloose⟩
  obtain ⟨hp, hc, _⟩ := hfooted.tended.guarded.built
  have hv := NameRule.check_eq_ok.mpr name.accepted
  obtain ⟨clean, h', hrun, _, _, hcleaned, _⟩ := Attachment.run_cleanup hv hp hc m.config.bridge
  have hnear := (hcleaned.near_gone_iff hp).mpr (hfooted.wayOut name.text)
  rw [hrun]
  refine ⟨⟨hfooted.cleanup (Host.run_yields hrun), fun l hl => ?_⟩, hnear, hcleaned.unregistered⟩
  exact hloose l ((hcleaned.row _ l).mp hl).1

/-- Whatever is left of a sandbox is taken away before it is started. -/
theorem reclaimStale_clears (m : Manager) (name : SandboxName) :
    Achieves b (Leftover m.config.bridge name.text) (reclaimStale m name) fun _ h =>
      Leftover m.config.bridge name.text h ∧ Gone name.text h := by
  refine (isStale_tells name).bind fun stale => ?_
  cases stale with
  | false => exact fun _ _ hw => ⟨hw.1, hw.2 rfl⟩
  | true =>
    refine ((cleanup_clears m name).narrow fun _ hh => hh.1).bind fun clean => ?_
    exact fun _ _ hw => hw

theorem create_succeeds (m : Manager) (name : SandboxName) (hb : Usable m.config.bridge) :
    Succeeds b
      (fun h => Tended m.config.bridge h ∧ Attachable h m.config.bridge name.text)
      (wiring (Bridge.create m.config.bridge m.config.address)) fun _ h =>
        Tended m.config.bridge h ∧ Attachable h m.config.bridge name.text := by
  apply succeeds_wiring
  rintro h ⟨htended, ha⟩
  obtain ⟨hbridge, haddress, _⟩ := Config.fault?_eq_none.mp m.sound
  have hchecked : m.config.address.elim (.ok ()) Address.check = .ok () := by
    cases hc : m.config.address with
    | none => rfl
    | some text => exact if_pos (haddress text hc)
  have hrun := Bridge.run_create_made (NameRule.accepts_iff.mp hbridge) hchecked ha.takes
  exact ⟨(), _, hrun, htended.create hb.2.2 (Host.run_yields hrun), ha.bridged fun _ => rfl⟩

theorem attach_succeeds (m : Manager) (name : SandboxName) :
    Succeeds b
      (fun h => Tended m.config.bridge h ∧ Attachable h m.config.bridge name.text)
      (wiring (Attachment.attach m.config.bridge name.text)) fun _ _ => True := by
  apply succeeds_wiring
  rintro h ⟨htended, ha⟩
  obtain ⟨_, hc, _⟩ := htended.guarded.built
  exact ⟨(), _, Attachment.run_attach_attachable hc ha, trivial⟩

theorem bringUp_succeeds (m : Manager) (name : SandboxName) (hb : Usable m.config.bridge) :
    Succeeds b (Leftover m.config.bridge name.text) (bringUp m name) fun _ _ => True := by
  refine (reclaimStale_clears m name).lift.bind fun _ => ?_
  refine (succeeds_image name).bind fun root => ?_
  refine Succeeds.bind (Achieves.narrow (create_succeeds m name hb) ?_) fun _ => ?_
  · rintro h ⟨⟨hfooted, hloose⟩, hgone⟩
    exact ⟨hfooted.tended, hfooted.attachable hb hgone hloose⟩
  · exact (attach_succeeds m name).bind fun _ => succeeds_launch _

theorem start_succeeds {tracker : Tracker} {w : World φ σ ι} (hb : Usable m.config.bridge)
    (hleft : Leftover m.config.bridge name.text w.net.host)
    (hinactive : (b.supervise (.isActive name.unit) w.clock w.supervisor).1 = false)
    (hg : Granted b ((m.start name.text).run.run tracker) w) :
    (World.run b ((m.start name.text).run.run tracker) w).1.1 = .ok () ∧
      WiredFor m.config name.text
        (World.run b ((m.start name.text).run.run tracker) w).2.net.host := by
  have hrunning : World.run b (isRunning name) w = (false, askedActive b name.unit w) := by
    rw [isRunning, run_bind, run_isActive, hinactive]
    rfl
  rw [start_run m tracker (ofText_self name)] at hg ⊢
  obtain ⟨_, hg⟩ := granted_bind.mp hg
  rw [run_bind]
  rw [hrunning] at hg ⊢
  simp only [Bool.false_eq_true, if_false] at hg ⊢
  rw [startFresh_run] at hg ⊢
  obtain ⟨_, hg⟩ := granted_bind.mp hg
  obtain ⟨hg, _⟩ := granted_bind.mp hg
  rw [run_bind, run_now, run_bind]
  rw [run_now] at hg
  obtain ⟨_, hok, _⟩ := bringUp_succeeds m name hb (askedActive b name.unit w) hg hleft
  rcases hbrought : World.run b (bringUp m name).run (askedActive b name.unit w) with ⟨r, w'⟩
  rw [hbrought] at hok
  cases hok
  exact ⟨rfl, bringUp_wires hbrought⟩

theorem WiredFor.up {config : Config} (hw : WiredFor config sandbox h) :
    (∀ l, h.links[hostEnd sandbox]? = some l → h.state (hostEnd sandbox) l = .up) ∧
      ∀ l, h.links[innerEnd sandbox]? = some l → h.state (innerEnd sandbox) l = .up := by
  obtain ⟨near, hnear, hdn, hupn, _⟩ := hw.near
  obtain ⟨far, hfar, hdf, hupf⟩ := hw.far
  constructor
  · intro l hl
    cases hnear.symm.trans hl
    exact (Host.state_up_veth hdn).mpr ⟨hupn, far, hfar, hupf⟩
  · intro l hl
    cases hfar.symm.trans hl
    exact (Host.state_up_veth hdf).mpr ⟨hupf, near, hnear, hupn⟩

end Manager

namespace Session

theorem footed_steps (hb : ¬ EndLike m.config.bridge) (r : SandboxRequest) :
    r.StepsKeep m (Footed m.config.bridge) := by
  apply SandboxRequest.stepsKeep
  · exact fun y h clean h' hf out => hf.cleanup out
  · exact fun h r h' hf out => hf.create hb out
  · exact fun y _ h r h' hf out => hf.attach hb out

/-- Whatever was asked before and whatever failed, a sandbox whose unit is not active can be started
once nothing is failed any more, unless another sandbox has left an end in the place that all share.
Both ends of its pair are then up, the one in the bridge and the other inside. -/
theorem start_recovers (b : Behaviour φ σ ι) (m : Manager) (hb : Usable m.config.bridge)
    (s : Session φ σ ι) (hs : s.host = .initial) (earlier : List SandboxRequest)
    (now : Session φ σ ι) (hnow : now.host = (s.after b m earlier).host) (name : SandboxName)
    (hinactive :
      (b.supervise (.isActive name.unit) now.world.clock now.world.supervisor).1 = false)
    (hloose : ∀ l, now.host.get? "host0" = some l → l.device = .veth (hostEnd name.text))
    (hgranted : Granted b ((m.start name.text).run.run now.tracker) now.world) :
    let started := now.serve b m (.start name.text)
    started.1 = .outcome (.ok ()) ∧ Manager.WiredFor m.config name.text started.2.host ∧
      (∀ l, started.2.host.links[hostEnd name.text]? = some l →
        started.2.host.state (hostEnd name.text) l = .up) ∧
      ∀ l, started.2.host.links[innerEnd name.text]? = some l →
        started.2.host.state (innerEnd name.text) l = .up := by
  intro started
  have hfooted : Footed m.config.bridge now.host := by
    rw [hnow]
    exact after_keeps (footed_steps hb.2.2) (hs ▸ footed_initial _) earlier
  obtain ⟨hok, hwired⟩ := Manager.start_succeeds hb ⟨hfooted, hloose⟩ hinactive hgranted
  have hserved : started = _ := serve_start name.text
  rw [hserved, hok]
  exact ⟨rfl, hwired, hwired.up⟩

/-- A pair that could neither be moved nor be deleted again, next to a sandbox that runs. -/
theorem start_recovers_stranded :
    let m : Manager := ⟨{ address := some "10.0.0.1/24" }, rfl⟩
    let web : SandboxName := ⟨"web", rfl⟩
    let b := ScriptedWorld.behaviour
    let faults : List Fault := [⟨"set_netns", 1, some 1⟩, ⟨"delete_link", 0, some 2⟩,
      ⟨"delete_namespace", 0, some 1⟩]
    let s : Session (List Fault) ScriptedSupervisor ScriptedImages :=
      ⟨∅, ⟨⟨.initial, faults, []⟩, {}, {}, 0, []⟩⟩
    let now := s.after b m [.start "db", .start "web"]
    let started := now.serve b m (.start web.text)
    Stranded web.text now.host ∧ started.1 = .outcome (.ok ()) ∧
      Manager.WiredFor m.config web.text started.2.host := by
  intro m web b faults s now started
  have hstranded : Stranded web.text now.host := by
    rw [Stranded]
    decide +kernel
  have hloose : (now.host.get? "host0").map (·.device) = some (.veth (hostEnd web.text)) := by
    decide +kernel
  have hrecovers := start_recovers b m (by decide) s rfl [.start "db", .start "web"] now rfl web
    (by decide +kernel) (fun l hl => by simpa [hl] using hloose) (by decide +kernel)
  exact ⟨hstranded, hrecovers.1, hrecovers.2.1⟩

end Session

end SandboxNet
