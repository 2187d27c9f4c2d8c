import SandboxNet.Proofs.Rollback

/-! Attachments of different sandboxes, one after another on a host whose calls do not fail of
themselves. How one ends and what it does to each link can be told from the host before it, and the
others change nothing of that. So their order does not matter. -/
namespace SandboxNet

variable {bridge sandbox b₁ b₂ s₁ s₂ : String} {h h₁ h' base : Host} {id : LinkId}

/-- What an attachment comes to: nothing was made, the pair could not be made, the pair could not be
wired and was deleted again, or the sandbox is wired. -/
inductive Ending where
  | refused (e : NetError)
  | blocked (e : NetError)
  | undone (e : NetError)
  | wired

namespace Ending

def reply : Ending → Except NetError Unit
  | refused e | blocked e | undone e => .error e
  | wired => .ok ()

/-- What becomes of the place of the bridge. -/
def onBridge : Ending → Option Link → Option Link
  | refused _, row => row
  | blocked _, row => some (row.getD (.fresh .bridge))
  | undone _, row | wired, row => some (raised (row.getD (.fresh .bridge)))

/-- What becomes of the places of the sandbox. -/
def onOwn (bridge sandbox : String) (id : LinkId) : Ending → Option Link → Option Link
  | refused _, row => row
  | blocked _, row | undone _, row =>
    if id = innerLoopback sandbox then some (row.getD (.fresh .loopback)) else row
  | wired, row =>
    if id = innerLoopback sandbox then some (raised (row.getD (.fresh .loopback)))
    else if id = hostEnd sandbox then some ⟨.veth (innerEnd sandbox), true, some bridge, []⟩
    else if id = innerEnd sandbox then some ⟨.veth (hostEnd sandbox), true, none, []⟩
    else row

/-- What becomes of a place of the host. -/
def onRow (bridge sandbox : String) (id : LinkId) (o : Ending) (row : Option Link) : Option Link :=
  if id = ⟨none, bridge⟩ then o.onBridge row else o.onOwn bridge sandbox id row

/-- Whether there are a bridge and a namespace at the end. -/
def made : Ending → Bool
  | refused _ => false
  | blocked _ | undone _ | wired => true

/-- What becomes of the namespaces. -/
def onNetns (sandbox : String) (netns : Std.ExtTreeSet String) (o : Ending) :
    Std.ExtTreeSet String :=
  if o.made then netns.insert ("corral-" ++ sandbox) else netns

end Ending

/-- Whether a name is free or that of a bridge. -/
def Host.takesBridge (h : Host) (bridge : String) : Bool :=
  (h.get? bridge).all (·.kind = .bridge)

/-- How an attachment to a host will end. -/
def Host.ending (h : Host) (bridge sandbox : String) : Ending :=
  match NameRule.bridge.check bridge with
  | .error e => .refused e
  | .ok () =>
    if !h.takesBridge bridge then .refused (.alreadyExists .link bridge)
    else match h.get? ("vh-" ++ sandbox), h.get? "host0", h.links[innerEnd sandbox]? with
      | some l, _, _ => .blocked (Veth.inTheWay ("vh-" ++ sandbox) l)
      | none, some l, _ => .blocked (Veth.inTheWay "host0" l)
      | none, none, some _ => .undone (.alreadyExists .link "host0")
      | none, none, none => .wired

/-- One host is what an attachment with this ending makes of the other. -/
structure Ends (bridge sandbox : String) (o : Ending) (h h' : Host) : Prop where
  row : ∀ id : LinkId, h'.links[id]? = o.onRow bridge sandbox id h.links[id]?
  netns : h'.netns = o.onNetns sandbox h.netns

theorem takesBridge_iff : h.takesBridge bridge = true ↔
    h.links[(⟨none, bridge⟩ : LinkId)]? = none ∨ h.deviceAt ⟨none, bridge⟩ = some .bridge := by
  rw [Host.takesBridge, Host.get?, Host.deviceAt]
  cases h.links[(⟨none, bridge⟩ : LinkId)]? with
  | none => simp
  | some l => simp [kind_eq_bridge]

theorem takesBridge_eq_false : h.takesBridge bridge = false ↔
    ∃ l, h.links[(⟨none, bridge⟩ : LinkId)]? = some l ∧ l.device ≠ .bridge := by
  rw [Host.takesBridge, Host.get?]
  cases h.links[(⟨none, bridge⟩ : LinkId)]? with
  | none => simp
  | some l => simp [kind_eq_bridge]

/-- What is there under the name of a bridge, or is made there, is a bridge. -/
theorem device_of_takesBridge (ht : h.takesBridge bridge = true) :
    (h.links[(⟨none, bridge⟩ : LinkId)]?.getD (.fresh .bridge)).device = .bridge := by
  rcases takesBridge_iff.mp ht with hfree | hd
  · rw [hfree]
    rfl
  · obtain ⟨l, hl, hd⟩ := Option.map_eq_some_iff.mp hd
    rw [hl]
    exact hd

theorem takesBridge_of_present (hd : h.deviceAt ⟨none, bridge⟩ = some .bridge) :
    h.takesBridge bridge = true :=
  takesBridge_iff.mpr (Or.inr hd)

theorem present_bridged {f : Link → Link} (ht : h.takesBridge bridge = true)
    (hf : ∀ l, (f l).device = l.device) :
    (h.bridged bridge f).deviceAt ⟨none, bridge⟩ = some .bridge := by
  rw [Host.deviceAt_of_some (h.bridged_self bridge f), hf, device_of_takesBridge ht]

/-- The host end of no sandbox is the bridge, and neither is the place that all share. -/
structure Apart (bridge : String) : Prop where
  loose : bridge ≠ "host0"
  near : ¬ EndLike bridge

instance (bridge : String) : Decidable (Apart bridge) :=
  decidable_of_iff (bridge ≠ "host0" ∧ ¬ EndLike bridge)
    ⟨fun ha => ⟨ha.1, ha.2⟩, fun ha => ⟨ha.loose, ha.near⟩⟩

theorem Apart.ne_hostEnd (ha : Apart bridge) (sandbox : String) :
    hostEnd sandbox ≠ ⟨none, bridge⟩ := by
  intro he
  apply ha.near
  rw [← (LinkId.mk.inj he).2]
  exact endLike_hostVeth sandbox

theorem Apart.ne_looseEnd (ha : Apart bridge) : looseEnd ≠ ⟨none, bridge⟩ := by
  intro he
  exact ha.loose (LinkId.mk.inj he).2.symm

/-- A place that is for one sandbox only. -/
def Own (sandbox : String) (id : LinkId) : Prop :=
  id = innerLoopback sandbox ∨ id = hostEnd sandbox ∨ id = innerEnd sandbox

theorem Own.inj (h₁ : Own s₁ id) (h₂ : Own s₂ id) : s₁ = s₂ := by
  rcases h₁ with rfl | rfl | rfl <;> rcases h₂ with h₂ | h₂ | h₂ <;> simp_all

theorem Apart.not_own (ha : Apart bridge) (sandbox : String) : ¬ Own sandbox ⟨none, bridge⟩ := by
  rintro (he | he | he)
  · cases he
  · exact ha.ne_hostEnd sandbox he.symm
  · cases he

theorem not_own_looseEnd (sandbox : String) : ¬ Own sandbox looseEnd := by
  simp [Own]

namespace Ending

theorem onOwn_foreign (hown : ¬ Own sandbox id) (o : Ending) (row : Option Link) :
    o.onOwn bridge sandbox id row = row := by
  obtain ⟨hlo, hn, hi⟩ : id ≠ innerLoopback sandbox ∧ id ≠ hostEnd sandbox ∧
      id ≠ innerEnd sandbox := by
    simpa [Own] using hown
  cases o <;> simp only [onOwn, if_neg hlo, if_neg hn, if_neg hi]

theorem onRow_foreign (hb : id ≠ ⟨none, bridge⟩) (hown : ¬ Own sandbox id) (o : Ending)
    (row : Option Link) : o.onRow bridge sandbox id row = row := by
  rw [onRow, if_neg hb, onOwn_foreign hown]

/-- However two attachments to one bridge end, it does not matter to the bridge which is first. -/
theorem onBridge_comm (o₁ o₂ : Ending) (row : Option Link) :
    o₁.onBridge (o₂.onBridge row) = o₂.onBridge (o₁.onBridge row) := by
  cases o₁ <;> cases o₂ <;> rfl

/-- Attachments of different sandboxes commute at each place. -/
theorem onRow_comm (hs : s₁ ≠ s₂) (ha₁ : Apart b₁) (ha₂ : Apart b₂) (o₁ o₂ : Ending)
    (row : Option Link) : o₁.onRow b₁ s₁ id (o₂.onRow b₂ s₂ id row) =
      o₂.onRow b₂ s₂ id (o₁.onRow b₁ s₁ id row) := by
  by_cases h₁ : id = ⟨none, b₁⟩
  · by_cases h₂ : id = ⟨none, b₂⟩
    · simp only [onRow, if_pos h₁, if_pos h₂]
      exact onBridge_comm o₁ o₂ row
    · have hown : ¬ Own s₂ id := h₁ ▸ ha₁.not_own s₂
      rw [onRow_foreign h₂ hown, onRow_foreign h₂ hown]
  · by_cases hown : Own s₁ id
    · have h₂ : id ≠ ⟨none, b₂⟩ := by
        rintro rfl
        exact ha₂.not_own s₁ hown
      have hown₂ : ¬ Own s₂ id := fun hown₂ => hs (hown.inj hown₂)
      rw [onRow_foreign h₂ hown₂, onRow_foreign h₂ hown₂]
    · rw [onRow_foreign h₁ hown, onRow_foreign h₁ hown]

theorem mem_onNetns {ns : String} {netns : Std.ExtTreeSet String} {o : Ending} :
    ns ∈ o.onNetns sandbox netns ↔ (o.made = true ∧ "corral-" ++ sandbox = ns) ∨ ns ∈ netns := by
  rw [onNetns]
  split
  · rename_i hm
    simp [hm]
  · rename_i hm
    simp [hm]

theorem onNetns_comm (o₁ o₂ : Ending) (netns : Std.ExtTreeSet String) :
    o₁.onNetns s₁ (o₂.onNetns s₂ netns) = o₂.onNetns s₂ (o₁.onNetns s₁ netns) := by
  apply Std.ExtTreeSet.ext_mem
  intro ns
  simp only [mem_onNetns, or_left_comm]

theorem onBridge_device {o : Ending} (hm : o.made = true) (ht : h.takesBridge bridge = true) :
    (o.onBridge h.links[(⟨none, bridge⟩ : LinkId)]?).map (·.device) = some .bridge := by
  have hrow := device_of_takesBridge ht
  cases o with
  | refused e => cases hm
  | blocked e => exact congrArg some hrow
  | undone e => exact congrArg some hrow
  | wired => exact congrArg some hrow

theorem onRow_unmade {o : Ending} (hm : o.made = false) (row : Option Link) :
    o.onRow bridge sandbox id row = row := by
  cases o with
  | refused e =>
    rw [onRow]
    split <;> rfl
  | blocked e => cases hm
  | undone e => cases hm
  | wired => cases hm

end Ending

theorem Bridge.run_ensure_made (ht : h.takesBridge bridge = true) :
    Host.run (ensure bridge).run h = (.ok (), h.bridged bridge fun l => l) := by
  rcases takesBridge_iff.mp ht with hfree | hd
  · have ok := Host.addBridge_eq_ok.mpr ⟨hfree, rfl⟩
    rw [← Host.addBridge_eq_bridged ok]
    exact run_ensure_free ok
  · obtain ⟨l, hl, _⟩ := Option.map_eq_some_iff.mp hd
    rw [Host.bridged_id hl]
    exact run_ensure_present hd

namespace Attachment

/-- The bridge and the namespace, made if they are not there, and all else as it was. -/
structure Based (bridge sandbox : String) (h base : Host) : Prop where
  ready : Ready bridge sandbox h base
  row : ∀ id : LinkId, base.links[id]? =
    if id = ⟨none, bridge⟩ then some (h.links[id]?.getD (.fresh .bridge))
    else if id = innerLoopback sandbox then some (h.links[id]?.getD (.fresh .loopback))
    else h.links[id]?
  netns : base.netns = h.netns.insert ("corral-" ++ sandbox)

theorem based (hv : NameRule.sandbox.check sandbox = .ok ())
    (hb : NameRule.bridge.check bridge = .ok ()) (ht : h.takesBridge bridge = true)
    (hc : h.Contained) : ∃ base, Based bridge sandbox h base := by
  have hrun := Bridge.run_create_ensure hb (Bridge.run_ensure_made ht)
  have hrow := h.bridged_row bridge fun l => l
  by_cases hn : "corral-" ++ sandbox ∈ h.netns
  · refine ⟨_, ⟨hv, _, false, hrun, Namespace.run_ensure_mem hn⟩, fun id => ?_, ?_⟩
    · obtain ⟨lo, hlo, _⟩ := Option.map_eq_some_iff.mp (hc.loopback _ hn)
      rw [hrow]
      by_cases he : id = innerLoopback sandbox
      · simp [he, hlo]
      · simp only [he, if_false]
    · exact (Host.insert_registered hn).symm
  · have ok : (h.bridged bridge fun l => l).addNamespace ("corral-" ++ sandbox) = .ok _ :=
      Host.addNamespace_eq_ok.mpr ⟨hn, rfl⟩
    refine ⟨_, ⟨hv, _, true, hrun, Namespace.run_ensure_not_mem (check_netns hv) ok⟩,
      fun id => ?_, rfl⟩
    rw [Host.links_insert, hrow]
    by_cases he : id = innerLoopback sandbox
    · simp [he, hc.absent hn]
    · simp only [he, if_false]

namespace Based

theorem bridge_device (hbase : Based bridge sandbox h base) (ht : h.takesBridge bridge = true) :
    base.deviceAt ⟨none, bridge⟩ = some .bridge := by
  rw [Host.deviceAt, hbase.row, if_pos rfl]
  exact congrArg some (device_of_takesBridge ht)

theorem netns_mem (hbase : Based bridge sandbox h base) : "corral-" ++ sandbox ∈ base.netns := by
  simp [hbase.netns]

theorem near_row (hbase : Based bridge sandbox h base) (hb : hostEnd sandbox ≠ ⟨none, bridge⟩) :
    base.links[hostEnd sandbox]? = h.links[hostEnd sandbox]? := by
  rw [hbase.row, if_neg hb, if_neg (by simp)]

theorem loose_row (hbase : Based bridge sandbox h base) (hb : looseEnd ≠ ⟨none, bridge⟩) :
    base.links[looseEnd]? = h.links[looseEnd]? := by
  rw [hbase.row, if_neg hb, if_neg (by simp)]

theorem inner_row (hbase : Based bridge sandbox h base) :
    base.links[innerEnd sandbox]? = h.links[innerEnd sandbox]? := by
  rw [hbase.row, if_neg (by simp), if_neg (by simp)]

theorem loopback_row (hbase : Based bridge sandbox h base) : base.links[innerLoopback sandbox]? =
    some (h.links[innerLoopback sandbox]?.getD (.fresh .loopback)) := by
  rw [hbase.row, if_neg (by simp), if_pos rfl]

theorem ends_blocked (hbase : Based bridge sandbox h base) (e : NetError) :
    Ends bridge sandbox (.blocked e) h base :=
  ⟨hbase.row, hbase.netns⟩

theorem ends_undone (hbase : Based bridge sandbox h base) (e : NetError) :
    Ends bridge sandbox (.undone e) h (base.update ⟨none, bridge⟩ raised) := by
  refine ⟨fun id => ?_, hbase.netns⟩
  rw [Host.update_links, hbase.row, hbase.row, Ending.onRow, Ending.onBridge, Ending.onOwn]
  by_cases he : id = ⟨none, bridge⟩
  · simp [he]
  · simp [he]

theorem ends_wired (hbase : Based bridge sandbox h base) (hs : Spliced
      ((base.update ⟨none, bridge⟩ raised).update (innerLoopback sandbox) raised) sandbox
      (innerEnd sandbox) ⟨.veth (innerEnd sandbox), true, some bridge, []⟩
      ⟨.veth (hostEnd sandbox), true, none, []⟩ h') (hb : hostEnd sandbox ≠ ⟨none, bridge⟩) :
    Ends bridge sandbox .wired h h' := by
  refine ⟨fun id => ?_, hs.netns.trans hbase.netns⟩
  rw [hs.row, Host.update_links, Host.update_links, Host.update_links, hbase.row, hbase.row,
    hbase.row, Ending.onRow, Ending.onBridge, Ending.onOwn]
  by_cases hbridge : id = ⟨none, bridge⟩
  · subst hbridge
    simp [hb.symm]
  · by_cases hlo : id = innerLoopback sandbox
    · simp [hlo]
    · simp [hbridge, hlo]

end Based

theorem ends_refused (e : NetError) : Ends bridge sandbox (.refused e) h h :=
  ⟨fun _ => (Ending.onRow_unmade rfl _).symm, rfl⟩

/-- An attachment that cannot get the other end inside takes the pair away again. -/
theorem run_attach_undone {l : Link} (hr : Ready bridge sandbox h base)
    (hb : base.deviceAt ⟨none, bridge⟩ = some .bridge) (hns : "corral-" ++ sandbox ∈ base.netns)
    (hnear : base.links[hostEnd sandbox]? = none) (hloose : base.links[looseEnd]? = none)
    (hin : base.links[innerEnd sandbox]? = some l) :
    Host.run (attach bridge sandbox).run h =
      (.error (.alreadyExists .link "host0"), base.update ⟨none, bridge⟩ raised) := by
  have hv := Host.addVeth_eq_ok.mpr ⟨hnear, hloose, hostVeth_ne_loose sandbox, rfl⟩
  obtain ⟨h', near, far, hc, hs⟩ := run_connect_taken (Spliced.of_addVeth hv) hb hns hin
  have hprepare := hr.run_prepare (Veth.run_create (check_hostVeth hr.valid) check_looseEnd hv)
  have hrollback := run_rollback hs
  rw [attach_eq]
  refine (Host.run_net_ok hprepare).trans ?_
  rw [Host.run] at hc hrollback ⊢
  rw [run_connectOrRollback, hc]
  simp only [hrollback]

/-- On a host whose calls do not fail of themselves, how an attachment ends and what it does can be
told before, if the bridge is neither end of the pair. -/
theorem attach_ends_clear (hc : h.Contained) (hv : NameRule.sandbox.check sandbox = .ok ())
    (hbn : hostEnd sandbox ≠ ⟨none, bridge⟩) (hbl : looseEnd ≠ ⟨none, bridge⟩) :
    ∃ h', Host.run (attach bridge sandbox).run h = ((h.ending bridge sandbox).reply, h') ∧
      Ends bridge sandbox (h.ending bridge sandbox) h h' := by
  cases hb : NameRule.bridge.check bridge with
  | error e =>
    have hending : h.ending bridge sandbox = .refused e := by rw [Host.ending, hb]
    rw [hending]
    exact ⟨h, run_attach_refused hv (Bridge.run_create_invalid hb), ends_refused e⟩
  | ok u =>
    cases ht : h.takesBridge bridge with
    | false =>
      have hending : h.ending bridge sandbox = .refused (.alreadyExists .link bridge) := by
        simp [Host.ending, hb, ht]
      obtain ⟨l, hl, hd⟩ := takesBridge_eq_false.mp ht
      rw [hending]
      exact ⟨h, run_attach_refused hv (Bridge.run_create_taken hb hl hd), ends_refused _⟩
    | true =>
      obtain ⟨base, hbase⟩ := based hv hb ht hc
      have hnear := hbase.near_row hbn
      have hloose := hbase.loose_row hbl
      have hin := hbase.inner_row
      have hdevice := hbase.bridge_device ht
      simp only [Host.ending, hb, ht, Host.get?, Bool.not_true, Bool.false_eq_true, if_false]
      -- the bridge is neither end of the pair, so what is in the way was there before
      cases hn : h.links[hostEnd sandbox]? with
      | some l =>
        have hcreate := Veth.run_create_taken (check_hostVeth hv) check_looseEnd
          (hostVeth_ne_loose sandbox) (hnear.trans hn)
        exact ⟨base, run_attach_blocked hbase.ready hcreate, hbase.ends_blocked _⟩
      | none =>
        rw [hn] at hnear
        cases ho : h.links[looseEnd]? with
        | some l =>
          have hcreate := Veth.run_create_peer_taken (check_hostVeth hv) check_looseEnd
            (hostVeth_ne_loose sandbox) hnear (hloose.trans ho)
          exact ⟨base, run_attach_blocked hbase.ready hcreate, hbase.ends_blocked _⟩
        | none =>
          rw [ho] at hloose
          cases hi : h.links[innerEnd sandbox]? with
          | some l =>
            refine ⟨_, ?_, hbase.ends_undone _⟩
            exact run_attach_undone hbase.ready hdevice hbase.netns_mem hnear hloose (hin.trans hi)
          | none =>
            obtain ⟨h', hrun, hs⟩ := run_attach_free hbase.ready hdevice hbase.netns_mem hnear
              hloose (hin.trans hi) hbase.loopback_row
            exact ⟨h', hrun, hbase.ends_wired hs hbn⟩

theorem attach_ends (hr : h.Reachable) (hv : NameRule.sandbox.check sandbox = .ok ())
    (ha : Apart bridge) :
    ∃ h', Host.run (attach bridge sandbox).run h = ((h.ending bridge sandbox).reply, h') ∧
      Ends bridge sandbox (h.ending bridge sandbox) h h' :=
  attach_ends_clear hr.sound.2 hv (ha.ne_hostEnd sandbox) ha.ne_looseEnd

end Attachment

theorem takesBridge_of_made (hm : (h.ending bridge sandbox).made = true) :
    h.takesBridge bridge = true := by
  cases ht : h.takesBridge bridge with
  | true => rfl
  | false =>
    rw [Host.ending] at hm
    split at hm
    · cases hm
    · simp [ht, Ending.made] at hm

namespace Ends

variable {o o₁ o₂ : Ending} {h₂ h₁₂ h₂₁ : Host}

theorem foreign_row (he : Ends bridge sandbox o h h') (hb : id ≠ ⟨none, bridge⟩)
    (hown : ¬ Own sandbox id) : h'.links[id]? = h.links[id]? := by
  rw [he.row, Ending.onRow_foreign hb hown]

/-- An attachment makes or breaks no name that can be a bridge's. -/
theorem takesBridge_eq (he : Ends b₂ s₂ (h.ending b₂ s₂) h h') (ha : Apart b₁) :
    h'.takesBridge b₁ = h.takesBridge b₁ := by
  by_cases hb : b₁ = b₂
  · subst hb
    cases hm : (h.ending b₁ s₂).made with
    | true =>
      have ht := takesBridge_of_made hm
      rw [ht]
      refine takesBridge_of_present ?_
      rw [Host.deviceAt, he.row, Ending.onRow, if_pos rfl]
      exact Ending.onBridge_device hm ht
    | false =>
      rw [Host.takesBridge, Host.takesBridge, Host.get?, Host.get?, he.row,
        Ending.onRow_unmade hm]
  · have hne : (⟨none, b₁⟩ : LinkId) ≠ ⟨none, b₂⟩ := by simp [hb]
    rw [Host.takesBridge, Host.takesBridge, Host.get?, Host.get?,
      he.foreign_row hne (ha.not_own s₂)]

/-- How an attachment ends does not depend on the attachments of other sandboxes before it. -/
theorem ending_eq (hs : s₁ ≠ s₂) (ha₁ : Apart b₁) (ha₂ : Apart b₂)
    (he : Ends b₂ s₂ (h.ending b₂ s₂) h h') : h'.ending b₁ s₁ = h.ending b₁ s₁ := by
  have hnear : h'.get? ("vh-" ++ s₁) = h.get? ("vh-" ++ s₁) := by
    refine he.foreign_row (ha₂.ne_hostEnd s₁) fun hown => hs ?_
    exact Own.inj (Or.inr (Or.inl rfl)) hown
  have hloose : h'.get? "host0" = h.get? "host0" :=
    he.foreign_row ha₂.ne_looseEnd (not_own_looseEnd s₂)
  have hin : h'.links[innerEnd s₁]? = h.links[innerEnd s₁]? := by
    refine he.foreign_row (by simp) fun hown => hs ?_
    exact Own.inj (Or.inr (Or.inr rfl)) hown
  simp only [Host.ending, he.takesBridge_eq ha₁, hnear, hloose, hin]

theorem comm (hs : s₁ ≠ s₂) (ha₁ : Apart b₁) (ha₂ : Apart b₂) (he₁ : Ends b₁ s₁ o₁ h h₁)
    (he₁₂ : Ends b₂ s₂ o₂ h₁ h₁₂) (he₂ : Ends b₂ s₂ o₂ h h₂) (he₂₁ : Ends b₁ s₁ o₁ h₂ h₂₁) :
    h₁₂ = h₂₁ := by
  apply Host.ext_rows
  · intro id
    rw [he₁₂.row, he₁.row, he₂₁.row, he₂.row, Ending.onRow_comm hs ha₁ ha₂]
  · rw [he₁₂.netns, he₁.netns, he₂₁.netns, he₂.netns, Ending.onNetns_comm]

end Ends

namespace Attachment

variable {requests others : List (String × String)}

/-- Attaches sandboxes one after another, each to its bridge, and tells what each was replied. -/
def attachEach : List (String × String) → NetProgram (List (String × Except NetError Unit))
  | [] => return []
  | (bridge, sandbox) :: rest => do
    let reply ← (attach bridge sandbox).run
    let later ← attachEach rest
    return (sandbox, reply) :: later

/-- Different sandboxes, and bridges that are in the way of none. -/
structure Orderly (requests : List (String × String)) : Prop where
  distinct : (requests.map (·.2)).Nodup
  valid : ∀ r ∈ requests, NameRule.sandbox.check r.2 = .ok ()
  apart : ∀ r ∈ requests, Apart r.1

namespace Orderly

variable {r : String × String}

theorem tail (ho : Orderly (r :: requests)) : Orderly requests :=
  ⟨(List.nodup_cons.mp ho.distinct).2, fun q hq => ho.valid q (List.mem_cons_of_mem r hq),
    fun q hq => ho.apart q (List.mem_cons_of_mem r hq)⟩

theorem ne_head {q : String × String} (ho : Orderly (r :: requests)) (hq : q ∈ requests) :
    q.2 ≠ r.2 := by
  intro he
  apply (List.nodup_cons.mp ho.distinct).1
  exact List.mem_map.mpr ⟨q, hq, he⟩

theorem perm (ho : Orderly requests) (hp : requests.Perm others) : Orderly others :=
  ⟨(hp.map _).nodup_iff.mp ho.distinct, fun r hr => ho.valid r (hp.mem_iff.mpr hr),
    fun r hr => ho.apart r (hp.mem_iff.mpr hr)⟩

theorem head_ends (ho : Orderly (r :: requests)) (hr : h.Reachable) :
    ∃ h', Host.run (attach r.1 r.2).run h = ((h.ending r.1 r.2).reply, h') ∧
      Ends r.1 r.2 (h.ending r.1 r.2) h h' ∧ h'.Reachable := by
  obtain ⟨h', hrun, he⟩ := attach_ends hr (ho.valid r List.mem_cons_self)
    (ho.apart r List.mem_cons_self)
  have hr' := Host.run_reachable (attach r.1 r.2).run hr
  rw [hrun] at hr'
  exact ⟨h', hrun, he, hr'⟩

end Orderly

theorem run_attachEach_cons {r : String × String} {reply : Except NetError Unit}
    (hrun : Host.run (attach r.1 r.2).run h = (reply, h')) :
    Host.run (attachEach (r :: requests)) h =
      ((r.2, reply) :: (Host.run (attachEach requests) h').1,
        (Host.run (attachEach requests) h').2) := by
  rw [attachEach, Host.run_bind hrun]
  exact Host.run_bind rfl

/-- Each is replied what it would be replied alone. -/
theorem attachEach_replies (hr : h.Reachable) (ho : Orderly requests) :
    (Host.run (attachEach requests) h).1 =
      requests.map fun r => (r.2, (h.ending r.1 r.2).reply) := by
  induction requests generalizing h with
  | nil => rfl
  | cons r rest ih =>
    obtain ⟨h', hrun, he, hr'⟩ := ho.head_ends hr
    have hrest : rest.map (fun q => (q.2, (h'.ending q.1 q.2).reply)) =
        rest.map fun q => (q.2, (h.ending q.1 q.2).reply) := by
      apply List.map_congr_left
      intro q hq
      have hending := he.ending_eq (ho.ne_head hq) (ho.apart q (List.mem_cons_of_mem r hq))
        (ho.apart r List.mem_cons_self)
      rw [hending]
    rw [run_attachEach_cons hrun, ih hr' ho.tail, hrest]
    rfl

/-- Two sandboxes can be attached in either order. -/
theorem attachEach_swap {r q : String × String} (hr : h.Reachable)
    (ho : Orderly (r :: q :: requests)) :
    (Host.run (attachEach (r :: q :: requests)) h).2 =
      (Host.run (attachEach (q :: r :: requests)) h).2 := by
  have hoq : Orderly (q :: r :: requests) := ho.perm (List.Perm.swap q r requests)
  have hne : q.2 ≠ r.2 := ho.ne_head List.mem_cons_self
  have har := ho.apart r List.mem_cons_self
  have haq := hoq.apart q List.mem_cons_self
  obtain ⟨h₁, hrun₁, he₁, hr₁⟩ := ho.head_ends hr
  obtain ⟨h₁₂, hrun₁₂, he₁₂, _⟩ := ho.tail.head_ends hr₁
  obtain ⟨h₂, hrun₂, he₂, hr₂⟩ := hoq.head_ends hr
  obtain ⟨h₂₁, hrun₂₁, he₂₁, _⟩ := hoq.tail.head_ends hr₂
  -- neither ends otherwise for the other having gone first
  rw [he₁.ending_eq hne haq har] at he₁₂
  rw [he₂.ending_eq hne.symm har haq] at he₂₁
  have hsame : h₁₂ = h₂₁ := he₁.comm hne.symm har haq he₁₂ he₂ he₂₁
  rw [run_attachEach_cons hrun₁, run_attachEach_cons hrun₁₂, run_attachEach_cons hrun₂,
    run_attachEach_cons hrun₂₁, hsame]

theorem attachEach_host (hr : h.Reachable) (ho : Orderly requests)
    (hp : requests.Perm others) :
    (Host.run (attachEach requests) h).2 = (Host.run (attachEach others) h).2 := by
  induction hp generalizing h with
  | nil => rfl
  | cons r hp ih =>
    obtain ⟨h', hrun, _, hr'⟩ := ho.head_ends hr
    rw [run_attachEach_cons hrun, run_attachEach_cons hrun]
    exact ih hr' ho.tail
  | swap r q rest => exact attachEach_swap hr ho
  | trans hp _ ih₁ ih₂ => exact (ih₁ hr ho).trans (ih₂ hr (ho.perm hp))

/-- Attachments of different sandboxes leave the same host in every order, and in every order each
is replied what it would be replied alone. -/
theorem attach_in_any_order (hr : h.Reachable) (ho : Orderly requests)
    (hp : requests.Perm others) :
    let one := Host.run (attachEach requests) h
    let other := Host.run (attachEach others) h
    one.2 = other.2 ∧ one.1.Perm other.1 ∧
      one.1 = requests.map fun r => (r.2, (Host.run (attach r.1 r.2).run h).1) := by
  intro one other
  have hone : one.1 = requests.map _ := attachEach_replies hr ho
  have hother : other.1 = others.map _ := attachEach_replies hr (ho.perm hp)
  refine ⟨attachEach_host hr ho hp, ?_, ?_⟩
  · rw [hone, hother]
    exact hp.map _
  · rw [hone]
    apply List.map_congr_left
    intro r hmem
    obtain ⟨h', hrun, _⟩ := attach_ends hr (ho.valid r hmem) (ho.apart r hmem)
    rw [hrun]

/-- Three attachments, of which one is undone and one is refused, forwards and backwards. -/
theorem attach_in_any_order_failing :
    let h := (((Host.initial.answer (.addNamespace "corral-db")).2.answer
      (.addVeth "host0" "spare")).2.answer (.setNetns "host0" "corral-db")).2
    let requests := [("br0", "web"), ("br0", "db"), ("lo", "api")]
    let one := Host.run (attachEach requests) h
    let other := Host.run (attachEach requests.reverse) h
    h.Reachable ∧ Orderly requests ∧ one.1.map (·.2.isOk) = [true, false, false] ∧
      one.2 = other.2 ∧ one.1.Perm other.1 := by
  intro h requests one other
  have hr : h.Reachable := .call _ (.call _ (.call _ .initial))
  have ho : Orderly requests := by
    refine ⟨by decide, ?_, by decide⟩
    simp only [NameRule.check_eq_ok]
    decide +kernel
  have hany := attach_in_any_order hr ho (List.reverse_perm requests).symm
  exact ⟨hr, ho, by decide +kernel, hany.1, hany.2.1⟩

end Attachment

end SandboxNet
