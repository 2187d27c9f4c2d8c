import SandboxNet.Proofs.AttachmentOutcomes

/-! Network programs on a host whose calls do not fail of themselves: one equation for each
operation in each situation. -/
namespace SandboxNet

variable {α β : Type} {h h' : Host}

/-- Carries out a network program on the simulated host itself. -/
def Host.run (p : NetProgram α) (h : Host) : α × Host :=
  p.run Host.answer h

namespace Host

@[simp] theorem run_done (a : α) (h : Host) : Host.run (.done a) h = (a, h) := rfl

/-- What a program does without faults is one of its outcomes. -/
theorem run_yields {p : NetProgram α} {a : α} (hp : Host.run p h = (a, h')) : Yields p h a h' := by
  induction p generalizing h with
  | done a =>
    cases hp
    exact ⟨rfl, rfl⟩
  | ask c next ih => exact Or.inr (ih _ hp)

theorem run_reachable (p : NetProgram α) (hr : h.Reachable) : (Host.run p h).2.Reachable :=
  (run_yields rfl).reachable hr

theorem run_bind {p : NetProgram α} {f : α → NetProgram β} {a : α}
    (hp : Host.run p h = (a, h')) : Host.run (p >>= f) h = Host.run (f a) h' := by
  simp only [Host.run] at hp ⊢
  rw [Program.run_bind, hp]

theorem run_map {p : NetProgram α} {f : α → β} {a : α} (hp : Host.run p h = (a, h')) :
    Host.run (f <$> p) h = (f a, h') := by
  simp only [Host.run] at hp ⊢
  rw [Program.run_map, hp]

theorem run_net_ok {p : Net α} {f : α → Net β} {a : α} (hp : Host.run p.run h = (.ok a, h')) :
    Host.run (p >>= f).run h = Host.run (f a).run h' := by
  simp only [Host.run] at hp ⊢
  rw [Program.run_except_bind, hp]

theorem run_net_error {p : Net α} {f : α → Net β} {e : NetError}
    (hp : Host.run p.run h = (.error e, h')) : Host.run (p >>= f).run h = (.error e, h') := by
  simp only [Host.run] at hp ⊢
  rw [Program.run_except_bind, hp]

theorem run_lift {p : NetProgram α} {a : α} (hp : Host.run p h = (a, h')) :
    Host.run (liftM p : Net α).run h = (.ok a, h') :=
  run_map hp

theorem run_lift_bind {p : NetProgram α} {f : α → Net β} {a : α} (hp : Host.run p h = (a, h')) :
    Host.run (liftM p >>= f : Net β).run h = Host.run (f a).run h' :=
  run_net_ok (run_lift hp)

theorem run_discard {p : Net α} {r : Except NetError α} (hp : Host.run p.run h = (r, h')) :
    Host.run (Net.discard p) h = ((), h') :=
  run_bind hp

theorem run_attempt {p : Net α} {r : Except NetError α} (hp : Host.run p.run h = (r, h')) :
    Host.run (Net.attempt p).run h = (.ok r, h') :=
  run_lift hp

/-- A change that the host can make is made. -/
theorem run_change {p : Net Unit} {x : Except NetError Host} (hp : Host.run p.run h = h.change x)
    (ok : x = .ok h') : Host.run p.run h = (.ok (), h') := by
  rw [hp, ok]
  rfl

end Host

variable {ns name peer bridge : String} {p : LinkId} {l : Link} {h₁ h₂ : Host}

theorem run_find? (name : String) (h : Host) : Host.run (Net.find? name) h =
    (h.links[(⟨none, name⟩ : LinkId)]?.map (h.record ⟨none, name⟩), h) := rfl

theorem run_setAdmin {netns : Option String} {up : Bool}
    (hl : h.links[(⟨netns, name⟩ : LinkId)]? = some l) :
    Host.run (Net.setAdmin netns name up).run h =
      (.ok (), h.update ⟨netns, name⟩ ({ · with adminUp := up })) :=
  Host.run_change rfl (Host.setAdmin_eq_ok.mpr ⟨⟨l, hl⟩, rfl⟩)

namespace Namespace

theorem run_present (ns : String) (h : Host) :
    Host.run (present ns) h = (h.netns.contains ns, h) := by
  have hp : Host.run (present ns) h = (h.netns.toList.contains ns, h) := rfl
  rw [hp, Std.ExtTreeSet.contains_toList]

theorem run_present_mem (hn : ns ∈ h.netns) : Host.run (present ns) h = (true, h) := by
  rw [run_present, Std.ExtTreeSet.contains_iff_mem.mpr hn]

theorem run_present_not_mem (hn : ns ∉ h.netns) : Host.run (present ns) h = (false, h) := by
  rw [run_present, Bool.eq_false_iff.mpr (mt Std.ExtTreeSet.contains_iff_mem.mp hn)]

theorem run_ensure_mem (hn : ns ∈ h.netns) : Host.run (ensure ns).run h = (.ok false, h) := by
  rw [ensure, Host.run_lift_bind (run_present_mem hn)]
  rfl

theorem run_ensure_not_mem (hv : NameRule.netns.check ns = .ok ())
    (ok : h.addNamespace ns = .ok h') : Host.run (ensure ns).run h = (.ok true, h') := by
  have hn := (Host.addNamespace_eq_ok.mp ok).1
  have hc : Host.run (create ns).run h = (.ok (), h') := by
    rw [create, hv, Host.run_net_ok rfl, Host.run_lift_bind (run_present_not_mem hn)]
    exact Host.run_change rfl ok
  rw [ensure, Host.run_lift_bind (run_present_not_mem hn)]
  exact Host.run_net_ok hc

theorem run_delete (ok : h.deleteNamespace ns = .ok h') :
    Host.run (delete ns).run h = (.ok (), h') := by
  have hn := (Host.deleteNamespace_eq_ok.mp ok).1
  rw [delete, Host.run_lift_bind (run_present_mem hn)]
  exact Host.run_change rfl ok

end Namespace

namespace Veth

theorem run_find?_veth (hl : h.links[(⟨none, name⟩ : LinkId)]? = some l)
    (hd : l.device = .veth p) :
    Host.run (find? name) h = (some (h.record ⟨none, name⟩ l), h) := by
  rw [find?, Host.run_bind (run_find? name h), hl]
  simp [Host.record, Link.kind, hd, Option.filter]

theorem run_find?_none (hd : ∀ p, h.deviceAt ⟨none, name⟩ ≠ some (.veth p)) :
    Host.run (find? name) h = (none, h) := by
  rw [find?, Host.run_bind (run_find? name h)]
  cases hl : h.links[(⟨none, name⟩ : LinkId)]? with
  | none => rfl
  | some l =>
    have hk : l.kind ≠ .veth := by
      intro hk
      obtain ⟨p, hp⟩ := kind_eq_veth.mp hk
      exact hd p (by rw [Host.deviceAt_of_some hl, hp])
    simp [Host.record, hk, Option.filter]

theorem run_present_true (hd : h.deviceAt ⟨none, name⟩ = some (.veth p)) :
    Host.run (present name) h = (true, h) := by
  obtain ⟨l, hl, hd⟩ := Option.map_eq_some_iff.mp hd
  rw [present, Host.run_bind (run_find?_veth hl hd)]
  rfl

theorem run_present_false (hd : ∀ p, h.deviceAt ⟨none, name⟩ ≠ some (.veth p)) :
    Host.run (present name) h = (false, h) := by
  rw [present, Host.run_bind (run_find?_none hd)]
  rfl

theorem run_get (hl : h.links[(⟨none, name⟩ : LinkId)]? = some l)
    (hd : l.device = .veth p) :
    Host.run (get name).run h = (.ok (h.record ⟨none, name⟩ l), h) := by
  rw [get, Host.run_lift_bind (run_find?_veth hl hd)]
  rfl

theorem run_requireFree (hl : h.links[(⟨none, name⟩ : LinkId)]? = none) :
    Host.run (requireFree name).run h = (.ok (), h) := by
  rw [requireFree, Host.run_lift_bind (run_find? name h), hl]
  rfl

/-- The error of a link that is in the way of a new end. -/
def inTheWay (name : String) (l : Link) : NetError :=
  .alreadyExists (if l.kind = .veth then .veth else .link) name

theorem inTheWay_veth (hd : l.device = .veth p) :
    inTheWay name l = .alreadyExists .veth name := by
  simp [inTheWay, Link.kind, hd]

theorem run_requireFree_taken (hl : h.links[(⟨none, name⟩ : LinkId)]? = some l) :
    Host.run (requireFree name).run h = (.error (inTheWay name l), h) := by
  rw [requireFree, Host.run_lift_bind (run_find? name h), hl]
  rfl

theorem run_create (hn : NameRule.veth.check name = .ok ())
    (hp : NameRule.veth.check peer = .ok ()) (ok : h.addVeth name peer = .ok h') :
    Host.run (create name peer).run h = (.ok (), h') := by
  obtain ⟨hfn, hfp, hne, _⟩ := Host.addVeth_eq_ok.mp ok
  rw [create, hn, hp, Host.run_net_ok rfl, Host.run_net_ok rfl]
  simp only [hne, if_false]
  rw [Host.run_net_ok (run_requireFree hfn), Host.run_net_ok (run_requireFree hfp)]
  exact Host.run_change rfl ok

theorem run_create_taken (hn : NameRule.veth.check name = .ok ())
    (hp : NameRule.veth.check peer = .ok ()) (hne : name ≠ peer)
    (hl : h.links[(⟨none, name⟩ : LinkId)]? = some l) :
    Host.run (create name peer).run h = (.error (inTheWay name l), h) := by
  rw [create, hn, hp, Host.run_net_ok rfl, Host.run_net_ok rfl]
  simp only [hne, if_false]
  exact Host.run_net_error (run_requireFree_taken hl)

theorem run_create_peer_taken (hn : NameRule.veth.check name = .ok ())
    (hp : NameRule.veth.check peer = .ok ()) (hne : name ≠ peer)
    (hfree : h.links[(⟨none, name⟩ : LinkId)]? = none)
    (hl : h.links[(⟨none, peer⟩ : LinkId)]? = some l) :
    Host.run (create name peer).run h = (.error (inTheWay peer l), h) := by
  rw [create, hn, hp, Host.run_net_ok rfl, Host.run_net_ok rfl]
  simp only [hne, if_false]
  rw [Host.run_net_ok (run_requireFree hfree)]
  exact Host.run_net_error (run_requireFree_taken hl)

theorem run_delete (hd : h.deviceAt ⟨none, name⟩ = some (.veth p)) :
    Host.run (delete name).run h = (.ok (), h.remove ⟨none, name⟩) := by
  obtain ⟨l, hl, hd⟩ := Option.map_eq_some_iff.mp hd
  rw [delete, Host.run_net_ok (run_get hl hd)]
  exact Host.run_change rfl (Host.deleteLink_eq_ok.mpr ⟨⟨l, hl⟩, rfl⟩)

theorem run_deletePair (hd : h.deviceAt ⟨none, name⟩ = some (.veth p)) :
    Host.run (deletePair name peer).run h = (.ok (), h.remove ⟨none, name⟩) := by
  rw [deletePair, Host.run_lift_bind (run_present_true hd)]
  exact run_delete hd

theorem run_attachTo_bridge (hd : h.deviceAt ⟨none, name⟩ = some (.veth p))
    (hm : h.setMaster name (some bridge) = .ok h₁) (ha : h₁.setAdmin none name true = .ok h') :
    Host.run (attachTo name (.bridge bridge)).run h = (.ok (), h') := by
  obtain ⟨l, hl, hd⟩ := Option.map_eq_some_iff.mp hd
  rw [attachTo, Host.run_net_ok (run_get hl hd), Host.run_net_ok (Host.run_change rfl hm)]
  exact Host.run_change rfl ha

theorem run_attachTo_netns (hd : h.deviceAt ⟨none, name⟩ = some (.veth p))
    (hn : h.setNetns name ns = .ok h₁) (ha : h₁.setAdmin (some ns) name true = .ok h₂)
    (hlo : h₂.setAdmin (some ns) "lo" true = .ok h') :
    Host.run (attachTo name (.netns ns)).run h = (.ok (), h') := by
  obtain ⟨l, hl, hd⟩ := Option.map_eq_some_iff.mp hd
  rw [attachTo, Host.run_net_ok (run_get hl hd), Host.run_net_ok (Host.run_change rfl hn),
    Host.run_net_ok (Host.run_change rfl ha)]
  exact Host.run_lift (Host.run_discard (Host.run_change rfl hlo))

theorem run_attachTo_netns_taken (hd : h.deviceAt ⟨none, name⟩ = some (.veth p))
    (hns : ns ∈ h.netns) (hl : h.links[(⟨some ns, name⟩ : LinkId)]? = some l) :
    Host.run (attachTo name (.netns ns)).run h = (.error (.alreadyExists .link name), h) := by
  have hmove : h.setNetns name ns = .error (.alreadyExists .link name) := by
    rw [Host.setNetns, Std.ExtTreeSet.contains_iff_mem.mpr hns,
      (Host.contains_iff_some _ _).mpr ⟨l, hl⟩]
    rfl
  have hrun : Host.run (Net.setNetns name ns).run h = h.change (h.setNetns name ns) := rfl
  rw [hmove] at hrun
  obtain ⟨l', hl', hd⟩ := Option.map_eq_some_iff.mp hd
  rw [attachTo, Host.run_net_ok (run_get hl' hd)]
  exact Host.run_net_error hrun

end Veth

namespace Bridge

theorem run_find?_bridge (hl : h.links[(⟨none, bridge⟩ : LinkId)]? = some l)
    (hd : l.device = .bridge) :
    Host.run (find? bridge) h = (some (h.record ⟨none, bridge⟩ l), h) := by
  rw [find?, Host.run_bind (run_find? bridge h), hl]
  simp [Host.record, Link.kind, hd, Option.filter]

theorem run_find?_none (hd : h.deviceAt ⟨none, bridge⟩ ≠ some .bridge) :
    Host.run (find? bridge) h = (none, h) := by
  rw [find?, Host.run_bind (run_find? bridge h)]
  cases hl : h.links[(⟨none, bridge⟩ : LinkId)]? with
  | none => rfl
  | some l =>
    have hk : l.kind ≠ .bridge := by
      intro hk
      exact hd (by rw [Host.deviceAt_of_some hl, kind_eq_bridge.mp hk])
    simp [Host.record, hk, Option.filter]

theorem run_present_true (hd : h.deviceAt ⟨none, bridge⟩ = some .bridge) :
    Host.run (present bridge) h = (true, h) := by
  obtain ⟨l, hl, hd⟩ := Option.map_eq_some_iff.mp hd
  rw [present, Host.run_bind (run_find?_bridge hl hd)]
  rfl

theorem run_present_false (hd : h.deviceAt ⟨none, bridge⟩ ≠ some .bridge) :
    Host.run (present bridge) h = (false, h) := by
  rw [present, Host.run_bind (run_find?_none hd)]
  rfl

theorem run_ensure_present (hd : h.deviceAt ⟨none, bridge⟩ = some .bridge) :
    Host.run (ensure bridge).run h = (.ok (), h) := by
  rw [ensure, Host.run_lift_bind (run_present_true hd)]
  rfl

theorem run_ensure_free (ok : h.addBridge bridge = .ok h') :
    Host.run (ensure bridge).run h = (.ok (), h') := by
  have hfree := (Host.addBridge_eq_ok.mp ok).1
  have hd : h.deviceAt ⟨none, bridge⟩ ≠ some .bridge := by
    simp [Host.deviceAt, hfree]
  rw [ensure, Host.run_lift_bind (run_present_false hd)]
  refine (Host.run_lift_bind (run_find? bridge h)).trans ?_
  rw [hfree]
  exact Host.run_change rfl ok

theorem run_ensure_taken (hl : h.links[(⟨none, bridge⟩ : LinkId)]? = some l)
    (hd : l.device ≠ .bridge) :
    Host.run (ensure bridge).run h = (.error (.alreadyExists .link bridge), h) := by
  have hnone : h.deviceAt ⟨none, bridge⟩ ≠ some .bridge := by
    rw [Host.deviceAt_of_some hl]
    simpa using hd
  rw [ensure, Host.run_lift_bind (run_present_false hnone)]
  refine (Host.run_lift_bind (run_find? bridge h)).trans ?_
  rw [hl]
  rfl

/-- Without an address there is nothing more to do. -/
theorem run_create_ensure {r : Except NetError Unit} (hv : NameRule.bridge.check bridge = .ok ())
    (he : Host.run (ensure bridge).run h = (r, h')) :
    Host.run (create bridge none).run h = (r, h') := by
  rw [create, hv, Host.run_net_ok rfl, Host.run_net_ok rfl]
  cases r with
  | ok u => exact Host.run_net_ok he
  | error e => exact Host.run_net_error he

theorem run_create_present (hv : NameRule.bridge.check bridge = .ok ())
    (hd : h.deviceAt ⟨none, bridge⟩ = some .bridge) :
    Host.run (create bridge none).run h = (.ok (), h) :=
  run_create_ensure hv (run_ensure_present hd)

theorem run_create_free (hv : NameRule.bridge.check bridge = .ok ())
    (ok : h.addBridge bridge = .ok h') : Host.run (create bridge none).run h = (.ok (), h') :=
  run_create_ensure hv (run_ensure_free ok)

theorem run_create_invalid {e : NetError} (hv : NameRule.bridge.check bridge = .error e) :
    Host.run (create bridge none).run h = (.error e, h) := by
  rw [create, hv]
  exact Host.run_net_error rfl

theorem run_create_taken (hv : NameRule.bridge.check bridge = .ok ())
    (hl : h.links[(⟨none, bridge⟩ : LinkId)]? = some l) (hd : l.device ≠ .bridge) :
    Host.run (create bridge none).run h = (.error (.alreadyExists .link bridge), h) :=
  run_create_ensure hv (run_ensure_taken hl hd)

theorem run_addresses (hl : h.links[(⟨none, bridge⟩ : LinkId)]? = some l) :
    Host.run (Net.addresses bridge).run h = (.ok l.addresses, h) := by
  have hanswer : h.addresses bridge = .ok l.addresses := by
    rw [Host.addresses, Host.get?, hl]
  exact congrArg (·, h) hanswer

theorem run_ensureAddress (hl : h.links[(⟨none, bridge⟩ : LinkId)]? = some l)
    (a : String) : ∃ h', Host.run (ensureAddress bridge a).run h = (.ok (), h') := by
  rw [ensureAddress, Host.run_net_ok (run_addresses hl)]
  by_cases ha : a ∈ l.addresses
  · rw [if_neg (by simp [ha])]
    exact ⟨h, rfl⟩
  · have ok := Host.addAddress_eq_ok.mpr ⟨l, hl, ha, rfl⟩
    rw [if_pos (by simp [ha])]
    exact ⟨_, Host.run_change rfl ok⟩

theorem run_setUp (hd : h.deviceAt ⟨none, bridge⟩ = some .bridge) :
    Host.run (setUp bridge true).run h = (.ok (), h.update ⟨none, bridge⟩ raised) := by
  obtain ⟨l, hl, hd⟩ := Option.map_eq_some_iff.mp hd
  have hg : Host.run (get bridge).run h = (.ok (h.record ⟨none, bridge⟩ l), h) := by
    rw [get, Host.run_lift_bind (run_find?_bridge hl hd)]
    rfl
  rw [setUp, Host.run_net_ok hg]
  exact Host.run_change rfl (Host.setAdmin_eq_ok.mpr ⟨⟨l, hl⟩, rfl⟩)

end Bridge

namespace Attachment

variable {base : Host} {sandbox : String} {place : LinkId} {near far lo : Link}

/-- The first half of wiring a pair: the host end into the bridge, and the bridge up. -/
theorem run_enslave {f : Unit → Net Unit} (hs : Spliced base sandbox looseEnd
      (.fresh (.veth looseEnd)) (.fresh (.veth (hostEnd sandbox))) h)
    (hb : base.deviceAt ⟨none, bridge⟩ = some .bridge) :
    ∃ h₁, Host.run (do
        Veth.attachTo ("vh-" ++ sandbox) (.bridge bridge)
        Bridge.setUp bridge true
        f () : Net Unit).run h = Host.run (f ()).run h₁ ∧
      Spliced (base.update ⟨none, bridge⟩ raised) sandbox looseEnd
        ⟨.veth looseEnd, true, some bridge, []⟩ (.fresh (.veth (hostEnd sandbox))) h₁ := by
  obtain ⟨lb, hlb, hbd⟩ := Option.map_eq_some_iff.mp hb
  have hs₁ := hs.update_near (f := ({ · with master := some bridge })) rfl
  have hs₂ := hs₁.update_near (f := ({ · with adminUp := true })) rfl
  have hm : h.setMaster ("vh-" ++ sandbox) (some bridge) = .ok _ := Host.setMaster_eq_ok.mpr
    ⟨fun b hb' => Option.some.inj hb' ▸ Host.hasBridge_iff.mpr ⟨lb, hs.base_row hlb, hbd⟩,
      ⟨_, hs.near_row⟩, rfl⟩
  have hup := Veth.run_attachTo_bridge (Host.deviceAt_of_some hs.near_row) hm
    (Host.setAdmin_eq_ok.mpr ⟨⟨_, hs₁.near_row⟩, rfl⟩)
  have hbr := Bridge.run_setUp
    ((Host.deviceAt_of_some (hs₂.base_row hlb)).trans (congrArg some hbd))
  exact ⟨_, (Host.run_net_ok hup).trans (Host.run_net_ok hbr), hs₂.update_base (f := raised) hlb⟩

theorem run_connect (hs : Spliced base sandbox looseEnd (.fresh (.veth looseEnd))
      (.fresh (.veth (hostEnd sandbox))) h)
    (hb : base.deviceAt ⟨none, bridge⟩ = some .bridge) (hns : "corral-" ++ sandbox ∈ base.netns)
    (hin : base.links[innerEnd sandbox]? = none)
    (hlo : base.links[innerLoopback sandbox]? = some lo) :
    ∃ h', Host.run (connect bridge (.of sandbox)).run h = (.ok (), h') ∧
      Spliced ((base.update ⟨none, bridge⟩ raised).update (innerLoopback sandbox) raised) sandbox
        (innerEnd sandbox) ⟨.veth (innerEnd sandbox), true, some bridge, []⟩
        ⟨.veth (hostEnd sandbox), true, none, []⟩ h' := by
  obtain ⟨h₁, hrun, hs₁⟩ := run_enslave
    (f := fun _ => Veth.attachTo "host0" (.netns ("corral-" ++ sandbox))) hs hb
  have hin' : (base.update ⟨none, bridge⟩ raised).links[innerEnd sandbox]? = none := by
    rw [Host.update_links, if_neg (by simp), hin]
  have hlo' : (base.update ⟨none, bridge⟩ raised).links[innerLoopback sandbox]? = some lo := by
    rw [Host.update_links, if_neg (by simp), hlo]
  have hn : h₁.setNetns "host0" ("corral-" ++ sandbox) = .ok _ := Host.setNetns_eq_ok.mpr
    ⟨hs₁.netns ▸ hns, (hs₁.other_row (by simp) (by simp)).trans hin', _, hs₁.far_row, rfl⟩
  have hs₂ := hs₁.move hn
  have hs₃ := hs₂.update_far (f := ({ · with adminUp := true })) rfl
  have hmv := Veth.run_attachTo_netns (Host.deviceAt_of_some hs₁.far_row) hn
    (Host.setAdmin_eq_ok.mpr ⟨⟨_, hs₂.far_row⟩, rfl⟩)
    (Host.setAdmin_eq_ok.mpr ⟨⟨_, hs₃.base_row hlo'⟩, rfl⟩)
  exact ⟨_, hrun.trans hmv, hs₃.update_base hlo'⟩

/-- A link inside the namespace that has the name of the other end keeps it out. -/
theorem run_connect_taken {l : Link} (hs : Spliced base sandbox looseEnd
      (.fresh (.veth looseEnd)) (.fresh (.veth (hostEnd sandbox))) h)
    (hb : base.deviceAt ⟨none, bridge⟩ = some .bridge) (hns : "corral-" ++ sandbox ∈ base.netns)
    (hin : base.links[innerEnd sandbox]? = some l) :
    ∃ h' near far,
      Host.run (connect bridge (.of sandbox)).run h = (.error (.alreadyExists .link "host0"), h') ∧
      Spliced (base.update ⟨none, bridge⟩ raised) sandbox looseEnd near far h' := by
  obtain ⟨h₁, hrun, hs₁⟩ := run_enslave
    (f := fun _ => Veth.attachTo "host0" (.netns ("corral-" ++ sandbox))) hs hb
  have hin' : (base.update ⟨none, bridge⟩ raised).links[innerEnd sandbox]? = some l := by
    rw [Host.update_links, if_neg (by simp), hin]
  have hfail := Veth.run_attachTo_netns_taken (Host.deviceAt_of_some hs₁.far_row)
    (hs₁.netns ▸ hns) (hs₁.base_row hin')
  exact ⟨h₁, _, _, hrun.trans hfail, hs₁⟩

/-- Nothing but the pair goes, wherever its other end has got to. -/
theorem run_rollback (hs : Spliced base sandbox place near far h) :
    Host.run (rollback (.of sandbox)) h = ((), base) := by
  have hd : h.deviceAt (hostEnd sandbox) = some (.veth place) := by
    rw [Host.deviceAt_of_some hs.near_row, hs.nearDevice]
  have hp : Host.run (Veth.deletePair ("vh-" ++ sandbox) "host0").run h = _ :=
    Veth.run_deletePair hd
  rw [hs.remove_end (Or.inl rfl)] at hp
  exact Host.run_discard hp

theorem run_forSandbox_ok (hv : NameRule.sandbox.check sandbox = .ok ()) :
    Host.run (Net.ofExcept (WireNames.forSandbox sandbox)).run h = (.ok (.of sandbox), h) := by
  rw [forSandbox_eq_ok.mpr ⟨hv, rfl⟩]
  rfl

theorem run_forSandbox_error {e : NetError} (hv : NameRule.sandbox.check sandbox = .error e) :
    Host.run (Net.ofExcept (WireNames.forSandbox sandbox)).run h = (.error e, h) := by
  rw [forSandbox_eq_error.mpr hv]
  rfl

/-- A valid sandbox and a bridge and a namespace that are there or can be made. -/
structure Ready (bridge sandbox : String) (h base : Host) : Prop where
  valid : NameRule.sandbox.check sandbox = .ok ()
  steps : ∃ h₁ made, Host.run (Bridge.create bridge none).run h = (.ok (), h₁) ∧
    Host.run (Namespace.ensure ("corral-" ++ sandbox)).run h₁ = (.ok made, base)

theorem Ready.run_prepare {r : Except NetError Unit} (hr : Ready bridge sandbox h base)
    (hc : Host.run (Veth.create ("vh-" ++ sandbox) "host0").run base = (r, h')) :
    Host.run (prepare bridge sandbox).run h = (r.map fun _ => .of sandbox, h') := by
  obtain ⟨hv, h₁, made, hb, hn⟩ := hr
  rw [prepare, Host.run_net_ok (run_forSandbox_ok hv), Host.run_net_ok hb]
  refine (Host.run_net_ok hn).trans ?_
  cases r with
  | ok u => exact Host.run_net_ok hc
  | error e => exact Host.run_net_error hc

theorem run_attach_refused {e : NetError} (hv : NameRule.sandbox.check sandbox = .ok ())
    (hc : Host.run (Bridge.create bridge none).run h = (.error e, h)) :
    Host.run (attach bridge sandbox).run h = (.error e, h) := by
  have hprepare : Host.run (prepare bridge sandbox).run h = (.error e, h) := by
    rw [prepare, Host.run_net_ok (run_forSandbox_ok hv)]
    exact Host.run_net_error hc
  rw [attach_eq]
  exact Host.run_net_error hprepare

theorem run_attach_blocked {e : NetError} (hr : Ready bridge sandbox h base)
    (hc : Host.run (Veth.create ("vh-" ++ sandbox) "host0").run base = (.error e, base)) :
    Host.run (attach bridge sandbox).run h = (.error e, base) := by
  rw [attach_eq]
  exact Host.run_net_error (hr.run_prepare hc)

theorem run_attach_taken {p : LinkId} (hr : Ready bridge sandbox h base)
    (hl : base.links[hostEnd sandbox]? = some near) (hd : near.device = .veth p) :
    Host.run (attach bridge sandbox).run h =
      (.error (.alreadyExists .veth ("vh-" ++ sandbox)), base) := by
  have hcreate := Veth.run_create_taken (check_hostVeth hr.valid) check_looseEnd
    (hostVeth_ne_loose sandbox) hl
  rw [Veth.inTheWay_veth hd] at hcreate
  exact run_attach_blocked hr hcreate

theorem run_attach_free (hr : Ready bridge sandbox h base)
    (hb : base.deviceAt ⟨none, bridge⟩ = some .bridge) (hns : "corral-" ++ sandbox ∈ base.netns)
    (hnear : base.links[hostEnd sandbox]? = none) (hloose : base.links[looseEnd]? = none)
    (hin : base.links[innerEnd sandbox]? = none)
    (hlo : base.links[innerLoopback sandbox]? = some lo) :
    ∃ h', Host.run (attach bridge sandbox).run h = (.ok (), h') ∧
      Spliced ((base.update ⟨none, bridge⟩ raised).update (innerLoopback sandbox) raised) sandbox
        (innerEnd sandbox) ⟨.veth (innerEnd sandbox), true, some bridge, []⟩
        ⟨.veth (hostEnd sandbox), true, none, []⟩ h' := by
  have hv := Host.addVeth_eq_ok.mpr ⟨hnear, hloose, hostVeth_ne_loose sandbox, rfl⟩
  obtain ⟨h', hc, hs⟩ := run_connect (Spliced.of_addVeth hv) hb hns hin hlo
  refine ⟨h', ?_, hs⟩
  rw [attach_eq, Host.run_net_ok (hr.run_prepare
    (Veth.run_create (check_hostVeth hr.valid) check_looseEnd hv))]
  exact Host.run_net_ok (Host.run_attempt hc)

theorem run_detach_missing (hv : NameRule.sandbox.check sandbox = .ok ())
    (hb : h.deviceAt ⟨none, bridge⟩ ≠ some .bridge) :
    Host.run (detach bridge sandbox).run h = (.error (.notFound .bridge bridge), h) := by
  rw [detach, Host.run_net_ok (run_forSandbox_ok hv),
    Host.run_lift_bind (Bridge.run_present_false hb)]
  rfl

theorem run_detach_wired {p : LinkId} (hv : NameRule.sandbox.check sandbox = .ok ())
    (hb : h.deviceAt ⟨none, bridge⟩ = some .bridge)
    (hd : h.deviceAt (hostEnd sandbox) = some (.veth p)) :
    Host.run (detach bridge sandbox).run h = (.ok (), h.remove (hostEnd sandbox)) := by
  rw [detach, Host.run_net_ok (run_forSandbox_ok hv),
    Host.run_lift_bind (Bridge.run_present_true hb)]
  exact (Host.run_lift_bind (Veth.run_present_true hd)).trans (Veth.run_delete hd)

theorem run_detach_unwired (hv : NameRule.sandbox.check sandbox = .ok ())
    (hb : h.deviceAt ⟨none, bridge⟩ = some .bridge)
    (hd : ∀ p, h.deviceAt (hostEnd sandbox) ≠ some (.veth p)) :
    Host.run (detach bridge sandbox).run h = (.ok (), h) := by
  rw [detach, Host.run_net_ok (run_forSandbox_ok hv),
    Host.run_lift_bind (Bridge.run_present_true hb)]
  exact Host.run_lift_bind (Veth.run_present_false hd)

theorem run_dropNamespace_mem (ok : h.deleteNamespace ns = .ok h') :
    Host.run (dropNamespace ns) h = ((), h') := by
  rw [dropNamespace, Host.run_bind
    (Namespace.run_present_mem (Host.deleteNamespace_eq_ok.mp ok).1)]
  exact Host.run_discard (Namespace.run_delete ok)

theorem run_dropNamespace_not_mem (hn : ns ∉ h.netns) :
    Host.run (dropNamespace ns) h = ((), h) := by
  rw [dropNamespace, Host.run_bind (Namespace.run_present_not_mem hn)]
  rfl

theorem run_cleanup_gone {r : Except NetError Unit}
    (hv : NameRule.sandbox.check sandbox = .ok ())
    (hd : Host.run (detach bridge sandbox).run h = (r, h₁))
    (hn : Host.run (dropNamespace ("corral-" ++ sandbox)) h₁ = ((), h'))
    (hnear : ∀ p, h'.deviceAt (hostEnd sandbox) ≠ some (.veth p))
    (hns : "corral-" ++ sandbox ∉ h'.netns) :
    Host.run (cleanup sandbox bridge) h = (true, h') := by
  simp only [cleanup, forSandbox_eq_ok.mpr ⟨hv, rfl⟩]
  refine (Host.run_bind (Host.run_discard hd)).trans ?_
  refine (Host.run_bind hn).trans ?_
  refine (Host.run_bind (Veth.run_present_false hnear)).trans ?_
  exact Host.run_bind (Namespace.run_present_not_mem hns)

theorem run_cleanup_invalid {e : NetError} (hv : NameRule.sandbox.check sandbox = .error e) :
    Host.run (cleanup sandbox bridge) h = (false, h) := by
  simp only [cleanup, forSandbox_eq_error.mpr hv]
  rfl

end Attachment

end SandboxNet
