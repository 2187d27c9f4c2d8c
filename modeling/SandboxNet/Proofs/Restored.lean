import SandboxNet.Proofs.Connected

/-! A start and the stop after it. The pair goes through its host end and the namespace with its
loopback, so the host is what it was, but for a bridge that is up and has its address. -/
namespace SandboxNet

variable {φ σ ι : Type} {b : Behaviour φ σ ι} {m : Manager} {name : SandboxName}
  {bridge x : String} {address : Option String} {h h₁ h' : Host} {id : LinkId} {l : Link}

/-- A link with an address, if there is one and it is not there. -/
def Link.addressed (l : Link) (address : Option String) : Link :=
  { l with addresses := l.addresses ++ (address.filter (· ∉ l.addresses)).toList }

theorem Link.addressed_none (l : Link) : l.addressed none = l := by
  simp [addressed]

theorem Link.addressed_present {a : String} (ha : a ∈ l.addresses) :
    l.addressed (some a) = l := by
  simp [addressed, Option.filter, ha]

theorem Link.addressed_new {a : String} (ha : a ∉ l.addresses) :
    l.addressed (some a) = { l with addresses := l.addresses ++ [a] } := by
  simp [addressed, Option.filter, ha]

namespace Host

/-- A link outside a namespace that is not registered does not end inside it. -/
theorem no_end_inside {base : Host} {k : LinkId} {ns : String} (hr : h.Reachable)
    (hns : ns ∉ h.netns) (hrows : ∀ id : LinkId, id.netns ≠ some ns →
      base.links[id]? = (h.update k raised).links[id]?) (id : LinkId) (l : Link) (p : LinkId)
    (hid : id.netns ≠ some ns) (hl : base.links[id]? = some l) (hd : l.device = .veth p) :
    p.netns ≠ some ns := by
  obtain ⟨hp, hc⟩ := hr.sound
  have hdevice := deviceAt_raised h k id
  rw [hrows id hid] at hl
  rw [deviceAt_of_some hl, hd] at hdevice
  obtain ⟨l', hl', hd'⟩ := Option.map_eq_some_iff.mp hdevice.symm
  obtain ⟨_, lp, hlp, _⟩ := hp.peer hl' hd'
  intro hin
  obtain ⟨_, n⟩ := p
  cases hin
  exact hns (hc.registered ns n lp hlp)

end Host

namespace Bridge

theorem ensure_makes (out : Yields (ensure bridge).run h (.ok ()) h') :
    h' = h.bridged bridge fun l => l := by
  obtain ⟨_, he, _⟩ | ⟨_, ⟨rfl, hd⟩ | ok⟩ := ensure_outcome out
  · cases he
  · obtain ⟨l, hl, _⟩ := Option.map_eq_some_iff.mp hd
    exact (Host.bridged_id hl).symm
  · exact Host.addBridge_eq_bridged ok

theorem ensureAddress_makes {a : String} (hl : h.links[(⟨none, bridge⟩ : LinkId)]? = some l)
    (out : Yields (ensureAddress bridge a).run h (.ok ()) h') :
    h' = h.bridged bridge (·.addressed (some a)) := by
  obtain ⟨hin, rfl⟩ | ⟨hnew, rfl⟩ := ensureAddress_done out hl
  · have hsame : h'.bridged bridge (·.addressed (some a)) = h'.bridged bridge fun l => l := by
      rw [Host.bridged, hl, Option.getD_some, Link.addressed_present hin, Host.bridged, hl]
      rfl
    rw [hsame, Host.bridged_id hl]
  · rw [Host.update_eq_bridged hl, Host.bridged, Host.bridged, hl, Option.getD_some,
      Link.addressed_new hnew]

/-- What making a bridge with an address does, if it does not fail. -/
theorem create_makes (out : Yields (create bridge address).run h (.ok ()) h') :
    h' = h.bridged bridge (·.addressed address) := by
  obtain ⟨_, _, he, _⟩ | ⟨_, _, afterName⟩ := yields_check_bind.mp out
  · cases he
  obtain ⟨_, _, he, _⟩ | ⟨_, _, afterAddress⟩ := yields_check_bind.mp afterName
  · cases he
  obtain ⟨_, h₁, hmade, last⟩ := yields_net_ok afterAddress
  obtain rfl := ensure_makes hmade
  cases address with
  | none =>
    obtain ⟨_, rfl⟩ := last
    simp only [Link.addressed_none]
  | some a =>
    rw [ensureAddress_makes (Host.bridged_self _ _ _) last, Host.bridged_bridged]

end Bridge

namespace Attachment

variable {base : Host} {near far : Link}

/-- A sandbox without a namespace that is attached to a bridge which is there. Outside its new
namespace there is the pair, the bridge is up, and nothing else has changed. -/
theorem attach_fresh (out : Yields (attach bridge x).run h (.ok ()) h')
    (hb : h.deviceAt ⟨none, bridge⟩ = some .bridge) (hns : "corral-" ++ x ∉ h.netns) :
    ∃ base near far, Spliced base x (innerEnd x) near far h' ∧
      base.netns = h.netns.insert ("corral-" ++ x) ∧
      ∀ id : LinkId, id.netns ≠ some ("corral-" ++ x) →
        base.links[id]? = (h.update ⟨none, bridge⟩ raised).links[id]? := by
  obtain ⟨base, ⟨h₁, hbridge, hregister⟩,
    ⟨_, he, _⟩ | ⟨_, he, _⟩ | ⟨_, _, hin, base', hup, hs⟩⟩ := attach_outcome out
  · cases he
  · cases he
  have hsame : h₁ = h := by
    rcases hbridge with rfl | ok
    · rfl
    · have hfree := (Host.addBridge_eq_ok.mp ok).1
      simp [Host.deviceAt, hfree] at hb
  subst hsame
  have hadded : h₁.addNamespace ("corral-" ++ x) = .ok base := by
    rcases hregister with rfl | ok
    · exact absurd hin hns
    · exact ok
  obtain ⟨_, rfl⟩ := Host.addNamespace_eq_ok.mp hadded
  refine ⟨base', _, _, hs, ?_, fun id hid => ?_⟩
  · rcases hup with rfl | rfl
    · rfl
    · rfl
  · have hlo : id ≠ innerLoopback x := by
      rintro rfl
      exact hid rfl
    rcases hup with rfl | rfl
    · simp only [Host.update_links, Host.links_insert, if_neg hlo]
      simp
    · simp only [Host.update_links, Host.links_insert, if_neg hlo]
      simp

/-- The pair goes through its host end, and the rest of the sandbox with its namespace. -/
theorem run_cleanup_spliced (hv : NameRule.sandbox.check x = .ok ()) (hr : h.Reachable)
    (hs : Spliced base x (innerEnd x) near far h)
    (hb : h.deviceAt ⟨none, bridge⟩ = some .bridge) (hns : "corral-" ++ x ∈ base.netns)
    (hout : ∀ (id : LinkId) (l : Link) (p : LinkId), id.netns ≠ some ("corral-" ++ x) →
      base.links[id]? = some l → l.device = .veth p → p.netns ≠ some ("corral-" ++ x)) :
    ∃ h', Host.run (cleanup x bridge) h = (true, h') ∧
      h'.netns = base.netns.erase ("corral-" ++ x) ∧ ∀ id : LinkId, h'.links[id]? =
        if id.netns = some ("corral-" ++ x) then none else base.links[id]? := by
  have hd : h.deviceAt (hostEnd x) = some (.veth (innerEnd x)) := by
    rw [Host.deviceAt_of_some hs.near_row, hs.nearDevice]
  have hdetach := run_detach_wired hv hb hd
  rw [hs.remove_end (Or.inl rfl)] at hdetach
  obtain ⟨hp, hc⟩ := hr.sound
  have hbase : base.Paired ∧ base.Contained := by
    rw [← hs.remove_end (Or.inl rfl)]
    exact ⟨Host.paired_remove hp _, Host.contained_remove hp hc⟩
  obtain ⟨h', ok⟩ : ∃ h', base.deleteNamespace ("corral-" ++ x) = .ok h' :=
    ⟨_, Host.deleteNamespace_eq_ok.mpr ⟨hns, rfl⟩⟩
  have hnetns := Host.deleteNamespace_netns ok
  have hrows : ∀ id : LinkId, h'.links[id]? =
      if id.netns = some ("corral-" ++ x) then none else base.links[id]? := by
    intro id
    apply Option.ext
    intro l
    rw [Host.deleteNamespace_links hbase.1 (hbase.2.unenslaved _) ok]
    by_cases hid : id.netns = some ("corral-" ++ x)
    · simp [hid]
    · rw [if_neg hid]
      exact ⟨fun hl => hl.1, fun hl => ⟨hl, hid, fun p hd => hout id l p hid hl hd⟩⟩
  refine ⟨h', run_cleanup_gone hv hdetach (run_dropNamespace_mem ok) ?_ ?_, hnetns, hrows⟩
  · intro p hleft
    rw [Host.deviceAt, hrows, if_neg (by simp), hs.nearFree] at hleft
    cases hleft
  · simp [hnetns]

end Attachment

namespace Manager

open LifecycleProgram

variable {w w' : World φ σ ι} {tracker : Tracker}

/-- Nothing is taken away before the start of a sandbox of which nothing is there. -/
theorem reclaimStale_nothing (m : Manager) (name : SandboxName)
    (hns : "corral-" ++ name.text ∉ h.netns) (hnear : h.links[hostEnd name.text]? = none) :
    Leads b (· = h) (reclaimStale m name) fun _ h' => h' = h := by
  have hstale : Leads b (· = h) (isStale name) fun stale h' => h' = h ∧ stale = false := by
    have hveth : Leads b (· = h) (onHost (Veth.present name.wire.hostVeth))
        fun there h' => h' = h ∧ there = false := by
      apply leads_outcome
      rintro _ there h' rfl out
      obtain ⟨rfl, hthere⟩ := Veth.present_outcome out
      refine ⟨rfl, Bool.eq_false_iff.mpr fun hyes => ?_⟩
      obtain ⟨p, hd⟩ := hthere hyes
      rw [Host.deviceAt] at hd
      have hnone : h'.links[(⟨none, name.wire.hostVeth⟩ : LinkId)]? = none := hnear
      simp [hnone] at hd
    refine hveth.bind fun there => ?_
    cases there with
    | true => exact fun _ hw => absurd hw.2 (by simp)
    | false =>
      apply leads_outcome
      rintro _ there h' ⟨rfl, _⟩ out
      obtain ⟨rfl, hthere⟩ := Namespace.present_outcome out
      exact ⟨rfl, Bool.eq_false_iff.mpr fun hyes => hns (hthere hyes)⟩
  refine hstale.bind fun stale => ?_
  cases stale with
  | true => exact fun _ hw => absurd hw.2 (by simp)
  | false => exact fun _ hw => hw.1

/-- Bringing up a sandbox of which nothing is there makes the bridge and attaches the sandbox. -/
theorem bringUp_steps (m : Manager) (name : SandboxName)
    (hns : "corral-" ++ name.text ∉ h.netns) (hnear : h.links[hostEnd name.text]? = none) :
    Leads b (· = h) (bringUp m name).run fun r h' => r = .ok () →
      ∃ h₁, Yields (Bridge.create m.config.bridge m.config.address).run h (.ok ()) h₁ ∧
        Yields (Attachment.attach m.config.bridge name.text).run h₁ (.ok ()) h' := by
  have hcreate : Leads b (· = h) (wiring (Bridge.create m.config.bridge m.config.address)).run
      fun r h₁ => r = .ok () →
        Yields (Bridge.create m.config.bridge m.config.address).run h (.ok ()) h₁ := by
    apply leads_wiring
    rintro _ r h₁ rfl out ok
    obtain rfl := mapError_ok ok
    exact out
  have hattach : Leads b
      (fun h₁ => Yields (Bridge.create m.config.bridge m.config.address).run h (.ok ()) h₁)
      (wiring (Attachment.attach m.config.bridge name.text)).run fun r h' => r = .ok () →
        ∃ h₁, Yields (Bridge.create m.config.bridge m.config.address).run h (.ok ()) h₁ ∧
          Yields (Attachment.attach m.config.bridge name.text).run h₁ (.ok ()) h' := by
    apply leads_wiring
    intro h₁ r h' hmade out ok
    obtain rfl := mapError_ok ok
    exact ⟨h₁, hmade, out⟩
  refine (reclaimStale_nothing m name hns hnear).lift.except_bind (fun _ => ?_)
    fun _ _ _ hok => (by cases hok)
  refine Leads.except_bind (leads_image name) (fun root => ?_) fun _ _ _ hok => (by cases hok)
  refine hcreate.except_bind (fun _ => ?_) fun _ _ _ hok => (by cases hok)
  refine Leads.except_bind (hattach.narrow fun h₁ hmade => hmade rfl) (fun _ => ?_)
    fun _ _ _ hok => (by cases hok)
  exact fun _ hw _ => hw rfl

/-- The host after a start that did not find the sandbox running. -/
theorem start_steps (hns : "corral-" ++ x ∉ w.net.host.netns)
    (hnear : w.net.host.links[hostEnd x]? = none)
    (ok : (World.run b ((m.start x).run.run tracker) w).1.1 = .ok ()) :
    NameRule.sandbox.check x = .ok () ∧ ∃ h₁,
      Yields (Bridge.create m.config.bridge m.config.address).run w.net.host (.ok ()) h₁ ∧
      Yields (Attachment.attach m.config.bridge x).run h₁ (.ok ())
        (World.run b ((m.start x).run.run tracker) w).2.net.host := by
  rcases start_brings ok with ⟨_, _, hin, _⟩ | ⟨name, w₀, w₁, rfl, hsame, hbrought, hafter⟩
  · exact absurd hin hns
  · have hsteps := bringUp_steps (b := b) m name hns hnear w₀ hsame
    rw [hbrought] at hsteps
    rw [hafter]
    exact ⟨NameRule.check_eq_ok.mpr name.accepted, hsteps rfl⟩

/-- What a stop does to a host whose calls do not fail of themselves. -/
theorem stop_host (hquiet : ∀ c f, (b.faults.strike c f).1 = none) (m : Manager)
    (name : SandboxName) (tracker : Tracker) (w : World φ σ ι) :
    (World.run b ((m.stop name.text).run.run tracker) w).2.net.host =
      (Host.run (Attachment.cleanup name.text m.config.bridge) w.net.host).2 := by
  obtain ⟨w₁, hnet, _, _, hend, _⟩ := stop_ends (b := b) m name tracker w
  have hunstruck : Unstruck b.faults (Attachment.cleanup name.text m.config.bridge) w₁.net :=
    fun _ _ => hquiet _ _
  rw [hend, reclaimed, run_reclaim, ← hnet]
  exact hunstruck.run_host

end Manager

namespace Session

variable {s : Session φ σ ι}

theorem host_serve_stop (hquiet : ∀ c f, (b.faults.strike c f).1 = none)
    (hv : NameRule.sandbox.check x = .ok ()) : (s.serve b m (.stop x)).2.host =
      (Host.run (Attachment.cleanup x m.config.bridge) s.host).2 := by
  have hserve : s.serve b m (.stop x) = _ := serve_reply rfl
  rw [hserve]
  exact Manager.stop_host hquiet m ⟨x, NameRule.check_eq_ok.mp hv⟩ s.tracker s.world

/-- A sandbox of which nothing was there is started and then stopped, under any supervisor and
whether or not it could be stopped. The host is what it was before, but for the bridge: it is there,
it is up, and it has the configured address. -/
theorem stop_gives_back (b : Behaviour φ σ ι) (hquiet : ∀ c f, (b.faults.strike c f).1 = none)
    (m : Manager) (s : Session φ σ ι) (hr : s.host.Reachable) (x : String)
    (hnear : s.host.links[hostEnd x]? = none) (hns : "corral-" ++ x ∉ s.host.netns) :
    let started := s.serve b m (.start x)
    let stopped := started.2.serve b m (.stop x)
    started.1 = .outcome (.ok ()) → stopped.2.host =
      s.host.bridged m.config.bridge fun l => raised (l.addressed m.config.address) := by
  intro started stopped ok
  have hserved : started = _ := serve_start x
  rw [hserved] at ok
  obtain ⟨hv, h₁, hcreate, hattach⟩ := Manager.start_steps hns hnear (SandboxReply.outcome.inj ok)
  have hhost : started.2.host =
      (World.run b ((m.start x).run.run s.tracker) s.world).2.net.host := by
    rw [hserved]
    rfl
  rw [← hhost] at hattach
  have hr₁ := hcreate.reachable hr
  have hmade : h₁ = s.host.bridged m.config.bridge (·.addressed m.config.address) :=
    Bridge.create_makes hcreate
  have hnetns : h₁.netns = s.host.netns := by
    rw [hmade]
    rfl
  obtain ⟨lb, hlb, hbd, _⟩ := Bridge.create_ok hcreate
  have hb : h₁.deviceAt ⟨none, m.config.bridge⟩ = some .bridge := by
    rw [Host.deviceAt_of_some hlb, hbd]
  obtain ⟨base, near, far, hs, hbase, hrows⟩ := Attachment.attach_fresh hattach hb (hnetns ▸ hns)
  -- the sandbox is taken away from the host with the pair, and the base of the pair is left
  obtain ⟨h', hrun, hnetns', hrows'⟩ := Attachment.run_cleanup_spliced hv (hattach.reachable hr₁) hs
    (Attachment.attach_keeps_bridge hattach hb) (by simp [hbase])
    (Host.no_end_inside hr₁ (hnetns ▸ hns) hrows)
  have hstopped : stopped.2.host = h' := by
    rw [host_serve_stop hquiet hv, hrun]
  have hraised : h₁.update ⟨none, m.config.bridge⟩ raised =
      s.host.bridged m.config.bridge fun l => raised (l.addressed m.config.address) := by
    rw [Host.update_eq_bridged hlb, hmade, Host.bridged_bridged]
  rw [hstopped]
  apply Host.ext_rows
  · intro id
    rw [hrows']
    by_cases hid : id.netns = some ("corral-" ++ x)
    · obtain ⟨_, n⟩ := id
      cases hid
      rw [if_pos rfl, Host.bridged_row, if_neg (by simp), hr.sound.2.absent hns]
    · rw [if_neg hid, hrows id hid, hraised]
  · rw [hnetns', hbase, hnetns, Host.erase_insert hns]
    rfl

/-- A unit that cannot be stopped is left running. The host had the bridge without its address and
a pair in it, and has them still. -/
theorem stop_gives_back_unstoppable :
    let b : Behaviour Unit ScriptedSupervisor ScriptedImages :=
      ⟨.simulated, .quiet, ScriptedSupervisor.answer, ScriptedImages.answer⟩
    let m : Manager := ⟨{ address := some "10.1.0.1/24" }, rfl⟩
    let before := (((Host.initial.answer (.addBridge "corral0")).2.answer
      (.addVeth "eth0" "eth1")).2.answer (.setMaster "eth0" (some "corral0"))).2
    let s : Session Unit ScriptedSupervisor ScriptedImages :=
      ⟨∅, ⟨⟨before, (), []⟩, { obeys := none }, {}, 0, []⟩⟩
    let started := s.serve b m (.start "web")
    let stopped := started.2.serve b m (.stop "web")
    started.1 = .outcome (.ok ()) ∧
      stopped.2.tracker.stateOf ⟨"web", rfl⟩ = some .failed ∧ stopped.2.host =
        s.host.bridged m.config.bridge fun l => raised (l.addressed m.config.address) := by
  intro b m before s started stopped
  have hr : s.host.Reachable := .call _ (.call _ (.call _ .initial))
  have hstarted : started.1 = .outcome (.ok ()) := serve_start_ok (by decide +kernel)
  refine ⟨hstarted, by decide +kernel, ?_⟩
  exact stop_gives_back b (fun _ _ => rfl) m s hr "web" (by decide +kernel) (by decide +kernel)
    hstarted

end Session

end SandboxNet
