import SandboxNet.Proofs.AttachOrder

/-! When an attachment to a host whose calls do not fail of themselves succeeds, for any names and
whatever is on the host, and the host that it then leaves. -/
namespace SandboxNet

variable {bridge sandbox : String} {h h' : Host}

/-- Both names can be used, the bridge is there or can be made, and the places of the pair are
free, on the host and inside. -/
structure Attachable (h : Host) (bridge sandbox : String) : Prop where
  sandboxName : NameRule.sandbox.accepts sandbox = true
  bridgeName : NameRule.bridge.accepts bridge = true
  takes : h.takesBridge bridge = true
  near : h.get? ("vh-" ++ sandbox) = none
  loose : h.get? "host0" = none
  bridge_ne_near : bridge ≠ "vh-" ++ sandbox
  bridge_ne_loose : bridge ≠ "host0"
  inner : "corral-" ++ sandbox ∈ h.netns → h.links[innerEnd sandbox]? = none

instance (h : Host) (bridge sandbox : String) : Decidable (Attachable h bridge sandbox) :=
  decidable_of_iff
    (NameRule.sandbox.accepts sandbox = true ∧ NameRule.bridge.accepts bridge = true ∧
      h.takesBridge bridge = true ∧ h.get? ("vh-" ++ sandbox) = none ∧ h.get? "host0" = none ∧
      bridge ≠ "vh-" ++ sandbox ∧ bridge ≠ "host0" ∧
      ("corral-" ++ sandbox ∈ h.netns → h.links[innerEnd sandbox]? = none))
    ⟨fun ⟨hs, hb, ht, hn, hl, hbn, hbl, hi⟩ => ⟨hs, hb, ht, hn, hl, hbn, hbl, hi⟩,
      fun ⟨hs, hb, ht, hn, hl, hbn, hbl, hi⟩ => ⟨hs, hb, ht, hn, hl, hbn, hbl, hi⟩⟩

/-- It does not matter if the bridge is made before. -/
theorem Attachable.bridged {f : Link → Link} (ha : Attachable h bridge sandbox)
    (hf : ∀ l, (f l).device = l.device) : Attachable (h.bridged bridge f) bridge sandbox := by
  have hother : ∀ id : LinkId, id ≠ ⟨none, bridge⟩ →
      (h.bridged bridge f).links[id]? = h.links[id]? := by
    intro id hid
    rw [Host.bridged_row, if_neg hid]
  have htakes : (h.bridged bridge f).takesBridge bridge = true :=
    takesBridge_of_present (present_bridged ha.takes hf)
  refine ⟨ha.sandboxName, ha.bridgeName, htakes, ?_, ?_, ha.bridge_ne_near, ha.bridge_ne_loose, ?_⟩
  · exact (hother _ (by simp [ha.bridge_ne_near.symm])).trans ha.near
  · exact (hother _ (by simp [ha.bridge_ne_loose.symm])).trans ha.loose
  · intro hn
    rw [hother _ (by simp)]
    exact ha.inner hn

/-- The host with a sandbox wired to a bridge. The bridge and the loopback of the namespace keep
all else that they have. -/
def Host.wired (h : Host) (bridge sandbox : String) : Host where
  links := (((h.links.insert ⟨none, bridge⟩
    (raised (h.links[(⟨none, bridge⟩ : LinkId)]?.getD (.fresh .bridge)))).insert
      (innerLoopback sandbox)
      (raised (h.links[innerLoopback sandbox]?.getD (.fresh .loopback)))).insert
        (hostEnd sandbox) ⟨.veth (innerEnd sandbox), true, some bridge, []⟩).insert
          (innerEnd sandbox) ⟨.veth (hostEnd sandbox), true, none, []⟩
  netns := h.netns.insert ("corral-" ++ sandbox)

theorem bridge_ne_near_iff : bridge ≠ "vh-" ++ sandbox ↔ hostEnd sandbox ≠ ⟨none, bridge⟩ := by
  simp [eq_comm]

theorem bridge_ne_loose_iff : bridge ≠ "host0" ↔ looseEnd ≠ ⟨none, bridge⟩ := by
  simp [eq_comm]

/-- A namespace that is not registered holds nothing. -/
theorem inner_free_iff (hc : h.Contained) :
    ("corral-" ++ sandbox ∈ h.netns → h.links[innerEnd sandbox]? = none) ↔
      h.links[innerEnd sandbox]? = none := by
  refine ⟨fun hin => ?_, fun hin _ => hin⟩
  by_cases hn : "corral-" ++ sandbox ∈ h.netns
  · exact hin hn
  · exact hc.absent hn

theorem Ending.reply_eq_ok {o : Ending} : o.reply = .ok () ↔ o = .wired := by
  cases o <;> simp [reply]

theorem ending_eq_wired : h.ending bridge sandbox = .wired ↔
    NameRule.bridge.check bridge = .ok () ∧ h.takesBridge bridge = true ∧
      h.links[hostEnd sandbox]? = none ∧ h.links[looseEnd]? = none ∧
        h.links[innerEnd sandbox]? = none := by
  simp only [Host.ending, Host.get?]
  cases NameRule.bridge.check bridge with
  | error e => simp
  | ok u =>
    cases h.takesBridge bridge with
    | false => simp
    | true =>
      cases h.links[hostEnd sandbox]? <;> cases h.links[looseEnd]? <;>
        cases h.links[innerEnd sandbox]? <;> simp

theorem Ends.eq_wired (he : Ends bridge sandbox .wired h h')
    (hb : hostEnd sandbox ≠ ⟨none, bridge⟩) : h' = h.wired bridge sandbox := by
  apply Host.ext_rows
  · intro id
    rw [he.row, Host.wired, Host.links_insert, Host.links_insert, Host.links_insert,
      Host.links_insert, Ending.onRow, Ending.onBridge, Ending.onOwn]
    by_cases hbridge : id = ⟨none, bridge⟩
    · subst hbridge
      simp [hb.symm]
    · by_cases hlo : id = innerLoopback sandbox
      · simp [hlo]
      · by_cases hnear : id = hostEnd sandbox
        · simp [hnear, hb]
        · simp [hbridge, hlo, hnear]
  · exact he.netns

namespace Attachment

/-- An attachment that succeeds was of a valid sandbox, to a bridge that is no end of the pair. -/
theorem attach_ok_names (out : Yields (attach bridge sandbox).run h (.ok ()) h') :
    NameRule.sandbox.check sandbox = .ok () ∧ hostEnd sandbox ≠ ⟨none, bridge⟩ ∧
      looseEnd ≠ ⟨none, bridge⟩ := by
  have hv : NameRule.sandbox.check sandbox = .ok () := by
    obtain ⟨_, _, he, _⟩ | ⟨names, hnames, _⟩ := yields_check_bind.mp out
    · cases he
    · exact (forSandbox_eq_ok.mp hnames).1
  obtain ⟨base, _, ⟨_, he, _⟩ | ⟨_, he, _⟩ | ⟨_, hb, _, base', hup, hs⟩⟩ := attach_outcome out
  · cases he
  · cases he
  have hdevice : ∀ id, base'.deviceAt id = base.deviceAt id := by
    intro id
    rcases hup with rfl | rfl
    · rw [deviceAt_raised]
    · rw [deviceAt_raised, deviceAt_raised]
  rw [← hdevice] at hb
  refine ⟨hv, ?_, ?_⟩
  · intro he
    rw [← he, Host.deviceAt, hs.nearFree] at hb
    cases hb
  · intro he
    rw [← he, Host.deviceAt, hs.looseFree] at hb
    cases hb

theorem run_attach_attachable (hc : h.Contained) (ha : Attachable h bridge sandbox) :
    Host.run (attach bridge sandbox).run h = (.ok (), h.wired bridge sandbox) := by
  have hbn := bridge_ne_near_iff.mp ha.bridge_ne_near
  have hending : h.ending bridge sandbox = .wired := ending_eq_wired.mpr
    ⟨NameRule.accepts_iff.mp ha.bridgeName, ha.takes, ha.near, ha.loose,
      (inner_free_iff hc).mp ha.inner⟩
  obtain ⟨h', hrun, he⟩ := attach_ends_clear hc (NameRule.accepts_iff.mp ha.sandboxName) hbn
    (bridge_ne_loose_iff.mp ha.bridge_ne_loose)
  rw [hending] at hrun he
  rw [hrun, he.eq_wired hbn]
  rfl

theorem attachable_of_ok (hc : h.Contained)
    (ok : (Host.run (attach bridge sandbox).run h).1 = .ok ()) : Attachable h bridge sandbox := by
  have out : Yields (attach bridge sandbox).run h (.ok ()) _ := Host.run_yields (Prod.ext ok rfl)
  obtain ⟨hv, hbn, hbl⟩ := attach_ok_names out
  obtain ⟨h', hrun, _⟩ := attach_ends_clear hc hv hbn hbl
  rw [hrun] at ok
  obtain ⟨hb, ht, hnear, hloose, hin⟩ := ending_eq_wired.mp (Ending.reply_eq_ok.mp ok)
  exact ⟨NameRule.accepts_iff.mpr hv, NameRule.accepts_iff.mpr hb, ht, hnear, hloose,
    bridge_ne_near_iff.mpr hbn, bridge_ne_loose_iff.mpr hbl, fun _ => hin⟩

/-- An attachment succeeds exactly on the hosts and for the names with which it can, and then
leaves the host as it was with the sandbox wired. -/
theorem attach_succeeds_exactly (hr : h.Reachable) (bridge sandbox : String) :
    let attached := Host.run (attach bridge sandbox).run h
    (attached.1 = .ok () ↔ Attachable h bridge sandbox) ∧
      (attached.1 = .ok () → attached.2 = h.wired bridge sandbox) := by
  intro attached
  have hc := hr.sound.2
  refine ⟨⟨attachable_of_ok hc, fun ha => ?_⟩, fun ok => ?_⟩
  · exact congrArg Prod.fst (run_attach_attachable hc ha)
  · exact congrArg Prod.snd (run_attach_attachable hc (attachable_of_ok hc ok))

/-- A bridge that is named like the end of another sandbox, has an address and is down, and a
namespace that already holds the end of a foreign pair: the sandbox can be wired to it, but to no
bridge that is named like its own end. -/
theorem attach_succeeds_exactly_crowded :
    let h := (((((Host.initial.answer (.addNamespace "corral-web")).2.answer
      (.addVeth "tap0" "tap1")).2.answer (.setNetns "tap1" "corral-web")).2.answer
        (.addBridge "vh-db")).2.answer (.addAddress "vh-db" "10.0.0.1/24")).2
    h.Reachable ∧ (Host.run (attach "vh-db" "web").run h).2 = h.wired "vh-db" "web" ∧
      (h.wired "vh-db" "web").links[(⟨none, "vh-db"⟩ : LinkId)]? =
        some ⟨.bridge, true, none, ["10.0.0.1/24"]⟩ ∧
      (Host.run (attach "vh-web" "web").run h).1 ≠ .ok () := by
  intro h
  have hr : h.Reachable := .call _ (.call _ (.call _ (.call _ (.call _ .initial))))
  obtain ⟨hiff, hleaves⟩ := attach_succeeds_exactly hr "vh-db" "web"
  refine ⟨hr, hleaves (hiff.mpr (by decide +kernel)), by decide +kernel, fun ok => ?_⟩
  exact ((attach_succeeds_exactly hr "vh-web" "web").1.mp ok).bridge_ne_near rfl

end Attachment

end SandboxNet
