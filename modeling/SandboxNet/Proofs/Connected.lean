import Mathlib.Data.List.Induction
import SandboxNet.Proofs.Built
import SandboxNet.Proofs.Isolation

/-! What a start that succeeds leaves behind, whatever was asked of the manager before and whatever
failed. A sandbox that is found running is only looked at: its namespace and its host end are there.
So what matters is which host ends earlier requests can leave behind. -/
namespace SandboxNet

variable {φ σ ι : Type} {b : Behaviour φ σ ι} {m : Manager} {bridge sandbox x : String}
  {h h' : Host}

/-- The host end of a sandbox is in the bridge, and its other end inside the namespace. -/
structure Connected (bridge sandbox : String) (h : Host) : Prop where
  netns : "corral-" ++ sandbox ∈ h.netns
  near : ∃ l, h.links[hostEnd sandbox]? = some l ∧ l.device = .veth (innerEnd sandbox) ∧
    l.master = some bridge
  far : ∃ l, h.links[innerEnd sandbox]? = some l ∧ l.device = .veth (hostEnd sandbox)
  bridged : h.hasBridge bridge = true

/-- The host end of a sandbox is there, and its other end never got into the namespace. -/
def Stranded (sandbox : String) (h : Host) : Prop :=
  h.deviceAt (hostEnd sandbox) = some (.veth looseEnd)

theorem Stranded.not_inner {l : Link} (hs : Stranded sandbox h)
    (hl : h.links[hostEnd sandbox]? = some l) : l.device ≠ .veth (innerEnd sandbox) := by
  intro hd
  have hboth : some (Device.veth looseEnd) = some l.device :=
    hs.symm.trans (Host.deviceAt_of_some hl)
  simp [hd] at hboth

/-- A host that only sandbox managers with this bridge have changed. -/
structure Tended (bridge : String) (h : Host) : Prop where
  guarded : Host.initial.Guarded h
  owned : Owned h
  anchored : ∀ x l, h.links[hostEnd x]? = some l → l.device = .veth (innerEnd x) →
    l.master = some bridge

theorem tended_initial (bridge : String) : Tended bridge .initial := by
  refine ⟨.refl, initial_owned, ?_⟩
  intro x l hl
  rw [Host.initial_links, if_neg (by simp)] at hl
  cases hl

theorem Host.addBridge_row {id : LinkId} (hmade : h' = h ∨ h.addBridge bridge = .ok h')
    (hid : id ≠ ⟨none, bridge⟩) : h'.links[id]? = h.links[id]? := by
  rcases hmade with rfl | ok
  · rfl
  · obtain ⟨_, rfl⟩ := Host.addBridge_eq_ok.mp ok
    rw [Host.links_insert, if_neg hid]

namespace Attachment

/-- A clean-up makes no link, and changes none that it leaves. -/
theorem cleanup_rows {clean : Bool} {id : LinkId} {l : Link} (hp : h.Paired) (hc : h.Contained)
    (out : Yields (cleanup sandbox bridge) h clean h') (hl : h'.links[id]? = some l) :
    h.links[id]? = some l := by
  obtain ⟨h₁, hp₁, hc₁, hdetach, hns⟩ := cleanup_steps hp hc out
  have hback : h₁.links[id]? = some l → h.links[id]? = some l := by
    intro hl
    obtain rfl | ⟨⟨p, hd⟩, rfl⟩ := hdetach
    · exact hl
    · rw [Host.remove_row, hd] at hl
      split at hl
      · cases hl
      · simpa using hl
  rcases hns with rfl | ok
  · exact hback hl
  · exact hback ((Host.deleteNamespace_links hp₁ (hc₁.unenslaved _) ok).mp hl).1

theorem Readied.row {ns : String} {id : LinkId} (hready : Readied bridge ns h h')
    (hbridge : id ≠ ⟨none, bridge⟩) (hlo : id ≠ ⟨some ns, "lo"⟩) :
    h'.links[id]? = h.links[id]? := by
  obtain ⟨h₁, hmade, hns⟩ := hready
  have hrow₁ := Host.addBridge_row hmade hbridge
  rcases hns with rfl | ok
  · exact hrow₁
  · obtain ⟨_, rfl⟩ := Host.addNamespace_eq_ok.mp ok
    rw [Host.links_insert, if_neg hlo, hrow₁]

/-- A host end that an attachment leaves was there before, or is in the bridge if it got inside. -/
theorem attach_anchors {r : Except NetError Unit} {l : Link} (hb : hostEnd sandbox ≠ ⟨none, bridge⟩)
    (out : Yields (attach bridge sandbox).run h r h') (hl : h'.links[hostEnd sandbox]? = some l) :
    h.links[hostEnd sandbox]? = some l ∨
      (l.device = .veth (innerEnd sandbox) → l.master = some bridge) := by
  obtain ⟨base, hready, hcases⟩ := attach_outcome out
  obtain ⟨_, _, rfl⟩ | ⟨_, _, base', place, near, _, _, hmaster, h₁, hs, hend⟩ |
    ⟨_, _, _, base', _, hs⟩ := hcases
  · rw [hready.row hb (by simp)] at hl
    exact Or.inl hl
  · right
    intro hd
    rcases hend with rfl | rfl
    · cases hs.near_row.symm.trans hl
      apply hmaster
      have hplace := hs.nearDevice.symm.trans hd
      simpa using hplace
    · rw [hs.nearFree] at hl
      cases hl
  · right
    intro _
    cases hs.near_row.symm.trans hl
    rfl

end Attachment

theorem hostEnd_ne_bridge (hb : ¬ EndLike bridge) (x : String) : hostEnd x ≠ ⟨none, bridge⟩ := by
  rintro ⟨⟩
  exact hb (endLike_hostVeth x)

/-- Making a bridge touches no other link. -/
theorem Bridge.create_row {address : Option String} {r : Except NetError Unit} {id : LinkId}
    (out : Yields (Bridge.create bridge address).run h r h') (hid : id ≠ ⟨none, bridge⟩) :
    h'.links[id]? = h.links[id]? := by
  obtain ⟨h₁, hmade, hend⟩ := Bridge.create_steps out
  have hrow₁ := Host.addBridge_row hmade hid
  rcases hend with rfl | ⟨_, _, ok⟩
  · exact hrow₁
  · obtain ⟨_, _, _, rfl⟩ := Host.addAddress_eq_ok.mp ok
    rw [Host.update_links, if_neg hid, hrow₁]

namespace Tended

theorem cleanup (ht : Tended bridge h) {clean : Bool}
    (out : Yields (Attachment.cleanup sandbox bridge) h clean h') : Tended bridge h' := by
  obtain ⟨hp, hc, _⟩ := ht.guarded.built
  refine ⟨ht.guarded.trans (Attachment.careful_cleanup _ _ out),
    (confined_cleanup ht.owned hp hc out).owned, ?_⟩
  intro x l hl hd
  exact ht.anchored x l (Attachment.cleanup_rows hp hc out hl) hd

theorem create (ht : Tended bridge h) (hb : ¬ EndLike bridge) {address : Option String}
    {r : Except NetError Unit} (out : Yields (Bridge.create bridge address).run h r h') :
    Tended bridge h' := by
  refine ⟨ht.guarded.trans (Bridge.careful_create _ _ out),
    (confined_create (s := "") ht.owned hb out).owned, ?_⟩
  intro x l hl hd
  rw [Bridge.create_row out (hostEnd_ne_bridge hb x)] at hl
  exact ht.anchored x l hl hd

theorem attach (ht : Tended bridge h) (hb : ¬ EndLike bridge) {r : Except NetError Unit}
    (out : Yields (Attachment.attach bridge sandbox).run h r h') : Tended bridge h' := by
  have hconfined := confined_attach ht.owned hb out
  refine ⟨ht.guarded.trans (Attachment.careful_attach _ _ out), hconfined.owned, ?_⟩
  intro x l hl hd
  by_cases hx : x = sandbox
  · subst hx
    obtain hold | hanchored := Attachment.attach_anchors (hostEnd_ne_bridge hb x) out hl
    · exact ht.anchored x l hold hd
    · exact hanchored hd
  · rw [(hconfined.untouched x hx).near] at hl
    exact ht.anchored x l hl hd

/-- A host end whose other end is inside is connected. -/
theorem connected (ht : Tended bridge h)
    (hd : h.deviceAt (hostEnd x) = some (.veth (innerEnd x))) : Connected bridge x h := by
  obtain ⟨hp, hc, hbuilt⟩ := ht.guarded.built
  obtain ⟨l, hl, hdl⟩ := Option.map_eq_some_iff.mp hd
  obtain ⟨_, far, hfar, hback⟩ := hp.peer hl hdl
  have hm := ht.anchored x l hl hdl
  obtain ⟨_, _, hbr⟩ := (hbuilt.links _ l hl).enslaved bridge hm
  exact ⟨hc.registered _ _ far hfar, ⟨l, hl, hdl, hm⟩, ⟨far, hfar, hback⟩,
    Host.isBridge_iff.mp hbr⟩

end Tended

namespace Manager

open LifecycleProgram

variable {name : SandboxName} {tracker : Tracker} {w w' : World φ σ ι}

/-- A sandbox that is found wired has its namespace and its host end. -/
theorem isWired_sees (name : SandboxName) (h : Host) :
    Leads b (· = h) (isWired name) fun wired h' => h' = h ∧ (wired = true →
      "corral-" ++ name.text ∈ h.netns ∧ ∃ p, h.deviceAt (hostEnd name.text) = some (.veth p)) := by
  have hnetns : Leads b (· = h) (onHost (Namespace.present name.wire.netns))
      fun registered h' => h' = h ∧ (registered = true → "corral-" ++ name.text ∈ h.netns) := by
    apply leads_outcome
    rintro _ registered h' rfl hy
    exact Namespace.present_outcome hy
  refine hnetns.bind fun registered => ?_
  cases registered with
  | false => exact fun _ hw => ⟨hw.1, fun hno => absurd hno Bool.false_ne_true⟩
  | true =>
    apply leads_outcome
    rintro _ there h' ⟨rfl, hin⟩ hy
    obtain ⟨rfl, hv⟩ := Veth.present_outcome hy
    exact ⟨rfl, fun hthere => ⟨hin rfl, hv hthere⟩⟩

theorem isRunning_sees (name : SandboxName) (h : Host) :
    Leads b (· = h) (isRunning name) fun running h' => h' = h ∧ (running = true →
      "corral-" ++ name.text ∈ h.netns ∧ ∃ p, h.deviceAt (hostEnd name.text) = some (.veth p)) := by
  refine Leads.bind (leads_supervisor _) fun active => ?_
  cases active with
  | false => exact fun _ hw => ⟨hw, fun hno => absurd hno Bool.false_ne_true⟩
  | true => exact isWired_sees name h

theorem bringUp_wires (ok : World.run b (bringUp m name).run w = (.ok (), w')) :
    WiredFor m.config name.text w'.net.host := by
  rw [bringUp_eq] at ok
  obtain ⟨_, w₁, _, reclaimed⟩ := run_except_ok ok
  obtain ⟨root, w₂, hprovision, launched⟩ := run_except_ok reclaimed
  have hwired := provision_wires hprovision
  obtain ⟨_, rfl⟩ := Prod.mk.inj launched
  exact hwired

/-- A start that succeeds found the sandbox running and let it be, or has brought it up. -/
theorem start_brings (ok : (World.run b ((m.start x).run.run tracker) w).1.1 = .ok ()) :
    (launches b ((m.start x).run.run tracker) w = [] ∧
      (World.run b ((m.start x).run.run tracker) w).2.net.host = w.net.host ∧
      "corral-" ++ x ∈ w.net.host.netns ∧ ∃ p, w.net.host.deviceAt (hostEnd x) = some (.veth p)) ∨
    ∃ (name : SandboxName) (w₀ w₁ : World φ σ ι), name.text = x ∧ w₀.net.host = w.net.host ∧
      World.run b (bringUp m name).run w₀ = (.ok (), w₁) ∧
      (World.run b ((m.start x).run.run tracker) w).2 = w₁ := by
  cases hn : SandboxName.ofText x with
  | error e =>
    rw [start_run_invalid m tracker hn] at ok
    cases ok
  | ok name =>
    obtain rfl := ofText_text hn
    have hlaunches := launches_start (b := b) m tracker w hn
    obtain ⟨hsame, hsees⟩ := isRunning_sees (b := b) name w.net.host w rfl
    rw [approach, run_bind] at hlaunches
    rw [start_run m tracker hn] at hlaunches ok ⊢
    rw [run_bind] at ok ⊢
    generalize World.run b (isRunning name) w = answered at *
    obtain ⟨running, w₀⟩ := answered
    cases running with
    | true => exact Or.inl ⟨hlaunches, hsame, hsees rfl⟩
    | false =>
      right
      simp only [Bool.false_eq_true, if_false] at ok ⊢
      rw [startFresh_run, run_bind, run_now, run_bind] at ok ⊢
      cases hbrought : World.run b (bringUp m name).run w₀ with
      | mk r w₁ =>
      rw [hbrought] at ok
      cases r with
      | ok u => exact ⟨name, w₀, w₁, rfl, hsame, hbrought, rfl⟩
      | error e =>
        simp only at ok
        rw [run_bind, run_bind, run_now] at ok
        cases ok

/-- A start that succeeds found the sandbox running and let it be, or has wired it. -/
theorem start_ok (ok : (World.run b ((m.start x).run.run tracker) w).1.1 = .ok ()) :
    (launches b ((m.start x).run.run tracker) w = [] ∧
      (World.run b ((m.start x).run.run tracker) w).2.net.host = w.net.host ∧
      "corral-" ++ x ∈ w.net.host.netns ∧ ∃ p, w.net.host.deviceAt (hostEnd x) = some (.veth p)) ∨
    WiredFor m.config x (World.run b ((m.start x).run.run tracker) w).2.net.host := by
  rcases start_brings ok with hfound | ⟨name, w₀, w₁, rfl, _, hbrought, hafter⟩
  · exact Or.inl hfound
  · rw [hafter]
    exact Or.inr (bringUp_wires hbrought)

end Manager

/-- A sandbox manager in its surroundings, with what it remembers. -/
structure Session (φ σ ι : Type) where
  tracker : Tracker
  world : World φ σ ι

namespace Session

variable {s : Session φ σ ι} {r : SandboxRequest} {P : Host → Prop}

def host (s : Session φ σ ι) : Host :=
  s.world.net.host

/-- The reply to a request, and the session after it. -/
def serve (b : Behaviour φ σ ι) (m : Manager) (s : Session φ σ ι) (r : SandboxRequest) :
    SandboxReply × Session φ σ ι :=
  let served := World.run b ((r.program m).run s.tracker) s.world
  (served.1.1, ⟨served.1.2, served.2⟩)

/-- The session after requests made one after another. -/
def after (b : Behaviour φ σ ι) (m : Manager) (s : Session φ σ ι)
    (requests : List SandboxRequest) : Session φ σ ι :=
  requests.foldl (fun s r => (s.serve b m r).2) s

theorem after_concat (requests : List SandboxRequest) (r : SandboxRequest) :
    s.after b m (requests ++ [r]) = ((s.after b m requests).serve b m r).2 := by
  simp only [after, List.foldl_append, List.foldl_cons, List.foldl_nil]

theorem serve_reply {α : Type} {f : α → SandboxReply} {p : Tracking α}
    (hr : r.program m = f <$> p) : s.serve b m r =
      (f (World.run b (p.run s.tracker) s.world).1.1,
        ⟨(World.run b (p.run s.tracker) s.world).1.2,
          (World.run b (p.run s.tracker) s.world).2⟩) := by
  simp only [serve, hr, StateT.run_map, World.run, Program.run_map]

theorem serve_start (x : String) : s.serve b m (.start x) =
    (.outcome (World.run b ((m.start x).run.run s.tracker) s.world).1.1,
      ⟨(World.run b ((m.start x).run.run s.tracker) s.world).1.2,
        (World.run b ((m.start x).run.run s.tracker) s.world).2⟩) :=
  serve_reply rfl

theorem serve_start_ok
    (ok : (World.run b ((m.start x).run.run s.tracker) s.world).1.1.isOk = true) :
    (s.serve b m (.start x)).1 = .outcome (.ok ()) := by
  rw [serve_start]
  cases hr : (World.run b ((m.start x).run.run s.tracker) s.world).1.1 with
  | ok u => rfl
  | error e =>
    rw [hr] at ok
    cases ok

theorem serve_keeps (hk : r.StepsKeep m P) (hs : P s.host) : P (s.serve b m r).2.host :=
  SandboxRequest.keeps hk s.tracker s.world hs

theorem after_keeps (hk : ∀ r : SandboxRequest, r.StepsKeep m P) (hs : P s.host)
    (requests : List SandboxRequest) : P (s.after b m requests).host := by
  induction requests generalizing s with
  | nil => exact hs
  | cons r rest ih => exact ih (serve_keeps (hk r) hs)

theorem tended_steps (hb : ¬ EndLike m.config.bridge) (r : SandboxRequest) :
    r.StepsKeep m (Tended m.config.bridge) := by
  apply SandboxRequest.stepsKeep
  · exact fun y h clean h' ht out => ht.cleanup out
  · exact fun h r h' ht out => ht.create hb out
  · exact fun y _ h r h' ht out => ht.attach hb out

theorem tended_after (hb : ¬ EndLike m.config.bridge) (hs : Tended m.config.bridge s.host)
    (requests : List SandboxRequest) : Tended m.config.bridge (s.after b m requests).host :=
  after_keeps (tended_steps hb) hs requests

/-- No request but a start of the sandbox itself makes its host end be stranded. -/
theorem stranded_steps {h₀ : Host} (hb : ¬ EndLike m.config.bridge) (hr : r ≠ .start x) :
    r.StepsKeep m fun h => Tended m.config.bridge h ∧ (Stranded x h → Stranded x h₀) := by
  apply SandboxRequest.stepsKeep
  · rintro y h clean h' ⟨ht, hback⟩ out
    obtain ⟨hp, hc, _⟩ := ht.guarded.built
    refine ⟨ht.cleanup out, fun hstranded => hback ?_⟩
    obtain ⟨l, hl, hd⟩ := Option.map_eq_some_iff.mp hstranded
    rw [Stranded, Host.deviceAt_of_some (Attachment.cleanup_rows hp hc out hl), hd]
  · rintro h r h' ⟨ht, hback⟩ out
    refine ⟨ht.create hb out, fun hstranded => hback ?_⟩
    rw [Stranded, Host.deviceAt, Bridge.create_row out (hostEnd_ne_bridge hb x)] at hstranded
    exact hstranded
  · rintro y rfl h r h' ⟨ht, hback⟩ out
    refine ⟨ht.attach hb out, fun hstranded => hback ?_⟩
    have hne : x ≠ y := by
      rintro rfl
      exact hr rfl
    rw [Stranded, Host.deviceAt, ((confined_attach ht.owned hb out).untouched x hne).near]
      at hstranded
    exact hstranded

/-- A start that succeeds does not strand the sandbox. -/
theorem stranded_start (ok : (s.serve b m (.start x)).1 = .outcome (.ok ()))
    (hafter : Stranded x (s.serve b m (.start x)).2.host) : Stranded x s.host := by
  rw [serve_start] at ok hafter
  rcases Manager.start_ok (SandboxReply.outcome.inj ok) with ⟨_, hsame, _⟩ | hwired
  · have hhost : Stranded x (World.run b ((m.start x).run.run s.tracker) s.world).2.net.host :=
      hafter
    rw [hsame] at hhost
    exact hhost
  · obtain ⟨l, hl, hd, _⟩ := hwired.near
    exact absurd hd (hafter.not_inner hl)

theorem stranded_step (hb : ¬ EndLike m.config.bridge) (hs : Tended m.config.bridge s.host)
    (hafter : Stranded x (s.serve b m r).2.host) : Stranded x s.host ∨
      (r = .start x ∧ ∃ e, (s.serve b m r).1 = .outcome (.error e)) := by
  by_cases hr : r = .start x
  · subst hr
    cases hreply : (World.run b ((m.start x).run.run s.tracker) s.world).1.1 with
    | ok u => exact Or.inl (stranded_start (by rw [serve_start, hreply]) hafter)
    | error e => exact Or.inr ⟨rfl, e, by rw [serve_start, hreply]⟩
  · left
    exact (serve_keeps (stranded_steps hb hr) ⟨hs, fun h => h⟩).2 hafter

/-- A host end is stranded since a start of its sandbox that failed. -/
theorem stranded_since (hb : ¬ EndLike m.config.bridge) (hs : Tended m.config.bridge s.host)
    (hfirst : ¬ Stranded x s.host) (requests : List SandboxRequest)
    (hafter : Stranded x (s.after b m requests).host) :
    ∃ pre post, requests = pre ++ .start x :: post ∧
      (∃ e, ((s.after b m pre).serve b m (.start x)).1 = .outcome (.error e)) ∧
      ∀ rest, rest <+: post → Stranded x (s.after b m (pre ++ .start x :: rest)).host := by
  induction requests using List.reverseRecOn with
  | nil => exact absurd hafter hfirst
  | append_singleton requests r ih =>
    have hlast := hafter
    rw [after_concat] at hlast
    obtain hbefore | ⟨rfl, hfailed⟩ := stranded_step hb (tended_after hb hs requests) hlast
    · obtain ⟨pre, post, rfl, hfailed, hsince⟩ := ih hbefore
      refine ⟨pre, post ++ [r], by simp, hfailed, ?_⟩
      intro rest hrest
      obtain rfl | hrest := List.prefix_concat_iff.mp hrest
      · simpa using hafter
      · exact hsince rest hrest
    · refine ⟨requests, [], rfl, hfailed, ?_⟩
      intro rest hrest
      obtain rfl := List.prefix_nil.mp hrest
      exact hafter

/-- After a start that succeeds, the host end of the sandbox is in the bridge and its other end
inside the namespace, unless the sandbox was found running with its host end stranded since an
earlier start that failed. -/
theorem start_connects (b : Behaviour φ σ ι) (m : Manager) (hb : ¬ EndLike m.config.bridge)
    (s : Session φ σ ι) (hs : s.host = .initial) (earlier : List SandboxRequest) (x : String) :
    let before := s.after b m earlier
    let started := before.serve b m (.start x)
    started.1 = .outcome (.ok ()) →
    Connected m.config.bridge x started.2.host ∨
    (launches b ((m.start x).run.run before.tracker) before.world = [] ∧
      "corral-" ++ x ∈ started.2.host.netns ∧ Stranded x started.2.host ∧
      ∃ pre post, earlier = pre ++ .start x :: post ∧
        (∃ e, ((s.after b m pre).serve b m (.start x)).1 = .outcome (.error e)) ∧
        ∀ rest, rest <+: post → Stranded x (s.after b m (pre ++ .start x :: rest)).host) := by
  intro before started ok
  have hinitial : Tended m.config.bridge s.host := hs ▸ tended_initial _
  have htended : Tended m.config.bridge before.host := tended_after hb hinitial earlier
  have hserved : started = _ := serve_start x
  rw [hserved] at ok ⊢
  rcases Manager.start_ok (SandboxReply.outcome.inj ok) with ⟨hnone, hsame, hin, p, hd⟩ | hwired
  · have hhost : (World.run b ((m.start x).run.run before.tracker) before.world).2.net.host =
        before.host := hsame
    simp only [host] at hhost ⊢
    rw [hhost]
    rcases htended.owned.peer_of_hostEnd hd with rfl | rfl
    · right
      have hfirst : ¬ Stranded x s.host := by
        rw [hs, Stranded, Host.deviceAt, Host.initial_links, if_neg (by simp)]
        simp
      exact ⟨hnone, hin, hd, stranded_since hb hinitial hfirst earlier hd⟩
    · exact Or.inl (htended.connected hd)
  · left
    obtain ⟨near, hnear, hdn, _, hmaster⟩ := hwired.near
    obtain ⟨far, hfar, hdf, _⟩ := hwired.far
    obtain ⟨lb, hlb, hdb, _⟩ := hwired.bridge
    exact ⟨hwired.netns, ⟨near, hnear, hdn, hmaster⟩, ⟨far, hfar, hdf⟩,
      Host.hasBridge_iff.mpr ⟨lb, hlb, hdb⟩⟩

/-- A sandbox that is started twice is connected, though the second start does nothing. -/
theorem start_connects_again :
    let m : Manager := ⟨{}, rfl⟩
    let s : Session (List Fault) ScriptedSupervisor ScriptedImages :=
      ⟨∅, ScriptedWorld.initial {} {}⟩
    let before := s.after ScriptedWorld.behaviour m [.start "web"]
    let started := before.serve ScriptedWorld.behaviour m (.start "web")
    started.1 = .outcome (.ok ()) ∧ Connected m.config.bridge "web" started.2.host := by
  intro m s before started
  have hfirst : (s.serve ScriptedWorld.behaviour m (.start "web")).1 = .outcome (.ok ()) :=
    serve_start_ok (by decide +kernel)
  have hok : started.1 = .outcome (.ok ()) := serve_start_ok (by decide +kernel)
  refine ⟨hok, ?_⟩
  have hconnects := start_connects ScriptedWorld.behaviour m (by decide) s rfl [.start "web"] "web"
  rcases hconnects hok with hconnected | ⟨_, _, _, pre, post, hsplit, ⟨e, hfailed⟩, _⟩
  · exact hconnected
  · cases pre with
    | nil => cases hfirst.symm.trans hfailed
    | cons r pre => simp at hsplit

/-- A pair that can neither be moved nor be deleted again is left behind, and the unit is active.
The next start finds the sandbox running. -/
theorem stranded_found_running :
    let m : Manager := ⟨{}, rfl⟩
    let faults : List Fault := [⟨"set_netns", 1, some 1⟩, ⟨"delete_link", 1, some 2⟩,
      ⟨"delete_namespace", 1, some 1⟩]
    let s : Session (List Fault) ScriptedSupervisor ScriptedImages :=
      ⟨∅, ⟨⟨.initial, faults, []⟩, {}, {}, 0, []⟩⟩
    let before := s.after ScriptedWorld.behaviour m [.start "web", .cleanup "web", .start "web"]
    let started := before.serve ScriptedWorld.behaviour m (.start "web")
    ¬ EndLike m.config.bridge ∧ s.host = .initial ∧ started.1 = .outcome (.ok ()) ∧
      ¬ Connected m.config.bridge "web" started.2.host := by
  intro m faults s before started
  have hstranded : Stranded "web" started.2.host := by
    rw [Stranded]
    decide +kernel
  have hok : started.1 = .outcome (.ok ()) := serve_start_ok (by decide +kernel)
  refine ⟨by decide, rfl, hok, ?_⟩
  intro hconnected
  obtain ⟨l, hl, hd, _⟩ := hconnected.near
  exact hstranded.not_inner hl hd

end Session

end SandboxNet
