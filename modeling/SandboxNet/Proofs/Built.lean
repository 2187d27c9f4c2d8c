import SandboxNet.Proofs.Careful
import SandboxNet.Proofs.HostRows
import SandboxNet.Proofs.LinkState
import SandboxNet.Proofs.SandboxRequests

/-! What the managers alone can build. On the host itself a bridge can be put into a bridge, even
into itself, and moved into a namespace; the managers never do so, whatever fails. -/
namespace SandboxNet

namespace Host

variable {h h' : Host} {id : LinkId} {l : Link} {B B' : String → Prop}

/-- A link as a manager makes it, where `B` are the bridges that it may be in. -/
structure Proper (B : String → Prop) (id : LinkId) (l : Link) : Prop where
  veth : ∀ p, l.device = .veth p → NameRule.veth.check id.name = .ok ()
  bridge : l.device = .bridge → NameRule.bridge.check id.name = .ok () ∧ id.netns = none
  loopback : l.device = .loopback → id.name = "lo"
  enslaved : ∀ b, l.master = some b → id.netns = none ∧ (∃ p, l.device = .veth p) ∧ B b
  addressed : ∀ a ∈ l.addresses, Address.check a = .ok ()

/-- The bridges of the default namespace. -/
abbrev IsBridge (h : Host) (b : String) : Prop :=
  h.deviceAt ⟨none, b⟩ = some .bridge

/-- A host whose links are as the managers make them, with names that the rules accept. -/
structure Built (h : Host) : Prop where
  links : h.Rows (Proper h.IsBridge)
  netns : ∀ ns ∈ h.netns, NameRule.netns.check ns = .ok ()

theorem isBridge_iff {b : String} : h.IsBridge b ↔ h.hasBridge b = true := by
  rw [hasBridge_iff]
  exact Option.map_eq_some_iff

theorem Proper.mono (hl : Proper B id l) (hB : ∀ b, B b → B' b) : Proper B' id l := by
  refine ⟨hl.veth, hl.bridge, hl.loopback, ?_, hl.addressed⟩
  intro b hm
  obtain ⟨hn, hv, hb⟩ := hl.enslaved b hm
  exact ⟨hn, hv, hB b hb⟩

theorem Proper.freed (hl : Proper B id l) : Proper B id { l with master := none } :=
  ⟨hl.veth, hl.bridge, hl.loopback, fun _ hm => (by cases hm), hl.addressed⟩

theorem Proper.admin (hl : Proper B id l) (up : Bool) : Proper B id { l with adminUp := up } :=
  ⟨hl.veth, hl.bridge, hl.loopback, hl.enslaved, hl.addressed⟩

theorem proper_fresh_veth (p : LinkId) (hn : NameRule.veth.check id.name = .ok ()) :
    Proper B id (.fresh (.veth p)) where
  veth _ _ := hn
  bridge hd := by cases hd
  loopback hd := by cases hd
  enslaved _ hm := by cases hm
  addressed _ ha := by cases ha

theorem proper_fresh_bridge {b : String} (hn : NameRule.bridge.check b = .ok ()) :
    Proper B ⟨none, b⟩ (.fresh .bridge) where
  veth _ hd := by cases hd
  bridge _ := ⟨hn, rfl⟩
  loopback hd := by cases hd
  enslaved _ hm := by cases hm
  addressed _ ha := by cases ha

theorem proper_fresh_loopback (netns : Option String) :
    Proper B ⟨netns, "lo"⟩ (.fresh .loopback) where
  veth _ hd := by cases hd
  bridge hd := by cases hd
  loopback _ := rfl
  enslaved _ hm := by cases hm
  addressed _ ha := by cases ha

theorem veth_of_deviceAt {p : LinkId} (hd : h.deviceAt id = some (.veth p))
    (hl : h.links[id]? = some l) : l.device = .veth p := by
  rw [deviceAt_of_some hl] at hd
  exact Option.some.inj hd

/-- A change made with care leaves the links proper, for any bridges that they may be in. -/
theorem proper_change (hp : h.Paired) (hB : ∀ b, h.IsBridge b → B b)
    (hr : h.Rows (Proper B)) (hc : GuardedChange h h') : h'.Rows (Proper B) := by
  cases hc with
  | addVeth ha hb ok =>
    obtain ⟨_, _, _, rfl⟩ := addVeth_eq_ok.mp ok
    exact Rows.insert (h := ⟨_, h.netns⟩) (hr.insert (proper_fresh_veth _ ha))
      (proper_fresh_veth _ hb)
  | addBridge hb ok =>
    obtain ⟨_, rfl⟩ := addBridge_eq_ok.mp ok
    exact hr.insert (proper_fresh_bridge hb)
  | deleteVeth hd ok =>
    obtain ⟨_, rfl⟩ := deleteLink_eq_ok.mp ok
    exact hr.remove (fun _ _ hl => hl.freed) _
  | deleteBridge hd ok =>
    obtain ⟨_, rfl⟩ := deleteLink_eq_ok.mp ok
    exact hr.remove (fun _ _ hl => hl.freed) _
  | setAdmin ok =>
    obtain ⟨_, rfl⟩ := setAdmin_eq_ok.mp ok
    exact hr.update fun l hl => (hr _ l hl).admin _
  | setMaster hd ok =>
    obtain ⟨hmaster, _, rfl⟩ := setMaster_eq_ok.mp ok
    refine hr.update fun l hl => ?_
    have hv := veth_of_deviceAt hd hl
    have hl' := hr _ l hl
    refine ⟨hl'.veth, hl'.bridge, hl'.loopback, ?_, hl'.addressed⟩
    intro b hm
    exact ⟨rfl, ⟨_, hv⟩, hB b (isBridge_iff.mpr (hmaster b hm))⟩
  | setNetns hd ok =>
    refine hr.setNetns hp (fun l hl => ?_) (fun id l p q hdl hl => ?_) ok
    · -- only a veth end is moved, so the rules for bridges and loopbacks do not matter
      have hv := veth_of_deviceAt hd hl
      have hl' := hr _ l hl
      refine ⟨hl'.veth, fun hb => ?_, hl'.loopback, fun _ hm => (by cases hm), hl'.addressed⟩
      cases hv.symm.trans hb
    · refine ⟨fun _ _ => hl.veth p hdl, fun hb => (by cases hb), fun hb => (by cases hb), ?_,
        hl.addressed⟩
      intro b hm
      obtain ⟨hn, _, hb⟩ := hl.enslaved b hm
      exact ⟨hn, ⟨q, rfl⟩, hb⟩
  | addAddress ha ok =>
    obtain ⟨_, _, _, rfl⟩ := addAddress_eq_ok.mp ok
    refine hr.update fun l hl => ?_
    have hl' := hr _ l hl
    refine ⟨hl'.veth, hl'.bridge, hl'.loopback, hl'.enslaved, ?_⟩
    intro a hmem
    rcases List.mem_append.mp hmem with hold | hnew
    · exact hl'.addressed a hold
    · rw [List.mem_singleton.mp hnew]
      exact ha
  | addNamespace hn ok =>
    obtain ⟨_, rfl⟩ := addNamespace_eq_ok.mp ok
    exact hr.insert (proper_fresh_loopback _)
  | deleteNamespace ok => exact hr.deleteNamespace (fun _ _ hl => hl.freed) ok

theorem deviceAt_insert {netns : Std.ExtTreeSet String} {k : LinkId} {d : Device}
    (hk : h.links[k]? = none) (hd : h.deviceAt id = some d) (l : Link) :
    Host.deviceAt ⟨h.links.insert k l, netns⟩ id = some d := by
  have hne : id ≠ k := by
    rintro rfl
    rw [deviceAt, hk] at hd
    cases hd
  rw [deviceAt, links_insert, if_neg hne]
  exact hd

theorem remove_keeps_bridge {k : LinkId} {b : String} (hp : h.Paired)
    (hne : (⟨none, b⟩ : LinkId) ≠ k) (hb : h.IsBridge b) : (h.remove k).IsBridge b := by
  have hnd : h.deviceAt k ≠ some (.veth ⟨none, b⟩) := by
    intro hd
    cases hb.symm.trans (hp k _ hd).2
  rw [IsBridge, remove_deviceAt, if_neg (not_or.mpr ⟨hne, hnd⟩)]
  exact hb

theorem deleteNamespace_keeps_bridge {ns b : String} (hp : h.Paired) (hk : h.Contained)
    (hb : h.IsBridge b) (ok : h.deleteNamespace ns = .ok h') : h'.IsBridge b := by
  obtain ⟨l, hl, hd⟩ := Option.map_eq_some_iff.mp hb
  have hl' : h'.links[(⟨none, b⟩ : LinkId)]? = some l := by
    refine (deleteNamespace_links hp (hk.unenslaved _) ok).mpr ⟨hl, by simp, ?_⟩
    intro p hv
    cases hd.symm.trans hv
  rw [IsBridge, deviceAt_of_some hl', hd]

/-- A bridge goes only if it is deleted itself. -/
theorem bridges_kept (hp : h.Paired) (hk : h.Contained) (hc : GuardedChange h h') :
    (∃ b, h.IsBridge b ∧ h' = h.remove ⟨none, b⟩) ∨ ∀ b, h.IsBridge b → h'.IsBridge b := by
  have hupdate : ∀ (k : LinkId) (f : Link → Link), (∀ l, (f l).device = l.device) →
      ∀ b, h.IsBridge b → (h.update k f).IsBridge b := by
    intro k f hf b hb
    rw [IsBridge, deviceAt_update hf]
    exact hb
  cases hc with
  | addVeth _ _ ok =>
    obtain ⟨hfreeA, hfreeB, hab, rfl⟩ := addVeth_eq_ok.mp ok
    refine Or.inr fun b hb => deviceAt_insert (h := ⟨_, h.netns⟩) ?_ (deviceAt_insert hfreeA hb _) _
    rw [links_insert, if_neg (by simp [Ne.symm hab]), hfreeB]
  | addBridge _ ok =>
    obtain ⟨hfree, rfl⟩ := addBridge_eq_ok.mp ok
    exact Or.inr fun b hb => deviceAt_insert hfree hb _
  | deleteVeth hd ok =>
    obtain ⟨_, rfl⟩ := deleteLink_eq_ok.mp ok
    refine Or.inr fun b hb => remove_keeps_bridge hp ?_ hb
    intro he
    rw [← he, hb] at hd
    cases hd
  | deleteBridge hd ok => exact Or.inl ⟨_, hd, (deleteLink_eq_ok.mp ok).2⟩
  | setAdmin ok =>
    obtain ⟨_, rfl⟩ := setAdmin_eq_ok.mp ok
    exact Or.inr (hupdate _ _ fun _ => rfl)
  | setMaster _ ok =>
    obtain ⟨_, _, rfl⟩ := setMaster_eq_ok.mp ok
    exact Or.inr (hupdate _ _ fun _ => rfl)
  | @setNetns a ns p hd ok =>
    obtain ⟨d, hd', _, hdev⟩ := setNetns_deviceAt hp ok
    cases hd.symm.trans hd'
    refine Or.inr fun b hb => ?_
    -- neither the end that moves nor its other end is a bridge
    have hne : (⟨none, b⟩ : LinkId) ≠ ⟨none, a⟩ := by
      intro he
      rw [← he, hb] at hd
      cases hd
    have hnp : (Device.veth p) ≠ .veth ⟨none, b⟩ := by
      rintro ⟨⟩
      cases hb.symm.trans (hp _ _ hd).2
    rw [IsBridge, hdev, if_neg (by simp), if_neg hnp, if_neg hne]
    exact hb
  | addAddress _ ok =>
    obtain ⟨_, _, _, rfl⟩ := addAddress_eq_ok.mp ok
    exact Or.inr (hupdate _ _ fun _ => rfl)
  | addNamespace _ ok =>
    obtain ⟨hn, rfl⟩ := addNamespace_eq_ok.mp ok
    exact Or.inr fun b hb => deviceAt_insert (hk.absent hn) hb _
  | deleteNamespace ok => exact Or.inr fun b hb => deleteNamespace_keeps_bridge hp hk hb ok

/-- What was in a bridge that is deleted is freed, and the rest is in a bridge that stays. -/
theorem Built.remove_bridge {b : String} (hp : h.Paired) (hb : Built h) (hd : h.IsBridge b) :
    (h.remove ⟨none, b⟩).Rows (Proper (h.remove ⟨none, b⟩).IsBridge) := by
  intro id l hl
  have hproper := hb.links.remove (fun _ _ hl => hl.freed) _ id l hl
  refine ⟨hproper.veth, hproper.bridge, hproper.loopback, ?_, hproper.addressed⟩
  intro c hm
  obtain ⟨hn, hv, hc⟩ := hproper.enslaved c hm
  refine ⟨hn, hv, remove_keeps_bridge hp ?_ hc⟩
  rintro ⟨⟩
  rw [remove_row, if_pos hd] at hl
  split at hl
  · cases hl
  · obtain ⟨l₀, _, rfl⟩ := Option.map_eq_some_iff.mp hl
    simp only [release] at hm
    split at hm
    · cases hm
    · rename_i hother
      exact hother ⟨hn, hm⟩

theorem netns_change {ns : String} (hc : GuardedChange h h') (hn : ns ∈ h'.netns) :
    ns ∈ h.netns ∨ NameRule.netns.check ns = .ok () := by
  cases hc with
  | addVeth _ _ ok =>
    obtain ⟨_, _, _, rfl⟩ := addVeth_eq_ok.mp ok
    exact Or.inl hn
  | addBridge _ ok =>
    obtain ⟨_, rfl⟩ := addBridge_eq_ok.mp ok
    exact Or.inl hn
  | deleteVeth _ ok | deleteBridge _ ok =>
    obtain ⟨_, rfl⟩ := deleteLink_eq_ok.mp ok
    exact Or.inl (remove_netns h _ ▸ hn)
  | setAdmin ok =>
    obtain ⟨_, rfl⟩ := setAdmin_eq_ok.mp ok
    exact Or.inl hn
  | setMaster _ ok =>
    obtain ⟨_, _, rfl⟩ := setMaster_eq_ok.mp ok
    exact Or.inl hn
  | setNetns _ ok =>
    obtain ⟨_, _, _, _, rfl⟩ := setNetns_eq_ok.mp ok
    exact Or.inl hn
  | addAddress _ ok =>
    obtain ⟨_, _, _, rfl⟩ := addAddress_eq_ok.mp ok
    exact Or.inl hn
  | addNamespace hname ok =>
    obtain ⟨_, rfl⟩ := addNamespace_eq_ok.mp ok
    simp only [Std.ExtTreeSet.mem_insert, Std.LawfulEqCmp.compare_eq_iff_eq] at hn
    rcases hn with rfl | hn
    · exact Or.inr hname
    · exact Or.inl hn
  | deleteNamespace ok =>
    rw [deleteNamespace_netns ok] at hn
    exact Or.inl (Std.ExtTreeSet.mem_of_mem_erase hn)

theorem built_change (hp : h.Paired) (hk : h.Contained) (hb : Built h) (hc : GuardedChange h h') :
    Built h' := by
  refine ⟨?_, fun ns hn => (netns_change hc hn).elim (hb.netns ns) fun hok => hok⟩
  obtain ⟨b, hd, rfl⟩ | hkept := bridges_kept hp hk hc
  · exact hb.remove_bridge hp hd
  · exact proper_change hp hkept (hb.links.mono fun _ _ hl => hl.mono hkept) hc

theorem Built.not_nested (hb : Built h) (inner outer : LinkId) : ¬ h.Nested inner outer := by
  rintro ⟨m, hm, hd, _, hmaster⟩
  obtain ⟨_, ⟨p, hv⟩, _⟩ := (hb.links inner m hm).enslaved _ hmaster
  cases hd.symm.trans hv

theorem Built.not_inside (hb : Built h) (inner outer : LinkId) :
    ¬ Relation.TransGen h.Nested inner outer := by
  intro hn
  obtain ⟨_, hn, _⟩ := Relation.TransGen.head'_iff.mp hn
  exact hb.not_nested _ _ hn

/-- The members of a bridge are no bridges, so to look at them is to look deep enough. -/
theorem Built.stateWithin_eq (hb : Built h) (hl : h.links[id]? = some l) (depth : Nat) :
    h.stateWithin (depth + 1) id l = h.state id l := by
  have hloop : h.LoopFree := fun b => hb.not_inside b b
  have hempty : h.inside id = ∅ :=
    Finset.eq_empty_of_forall_notMem fun c hc => hb.not_inside c id (mem_inside.mp hc)
  refine stateWithin_enough hloop hl ?_ (card_inside_lt_size hloop hl)
  rw [hempty, Finset.card_empty]
  exact Nat.succ_pos depth

theorem initial_built : Built initial := by
  constructor
  · intro id l hl
    rw [initial_links] at hl
    split at hl
    · rename_i he
      cases hl
      exact he ▸ proper_fresh_loopback none
    · cases hl
  · intro ns hn
    simp [initial] at hn

/-- From the first host on, changes made with care lead to hosts that are as built. -/
theorem Guarded.built (hg : Host.initial.Guarded h) : h.Paired ∧ h.Contained ∧ Built h := by
  induction hg with
  | refl => exact ⟨initial_sound.1, initial_sound.2, initial_built⟩
  | tail _ hc ih =>
    obtain ⟨hp, hk, hb⟩ := ih
    exact ⟨paired_change hp hk hc.change, contained_change hp hk hc.change,
      built_change hp hk hb hc⟩

end Host

/-- An operation of any manager. What a sandbox manager remembers may be anything. -/
inductive Operation where
  | netns (r : NamespaceRequest)
  | veth (r : VethRequest)
  | bridge (r : BridgeRequest)
  | wire (r : WireRequest)
  | sandbox (m : Manager) (tracker : Tracker) (r : SandboxRequest)

namespace Operation

open LifecycleProgram

variable {α φ σ ι : Type} {b : Behaviour φ σ ι} {h₀ : Host}

def program : Operation → LifecycleProgram Unit
  | netns r => onHost r.program
  | veth r => onHost r.program
  | bridge r => onHost r.program
  | wire r => do let _ ← onHost r.program
  | sandbox m tracker r => do let _ ← (r.program m).run tracker

theorem keeps_guarded {p : NetProgram α} (hp : ∀ h, Careful h p) : Keeps h₀.Guarded p := by
  intro h a h' hg hy
  exact hg.trans (hp h a h' hy)

theorem request_guarded (m : Manager) (r : SandboxRequest) : r.StepsKeep m h₀.Guarded := by
  apply SandboxRequest.stepsKeep
  · exact fun _ => keeps_guarded fun _ => Attachment.careful_cleanup
  · exact keeps_guarded fun _ => Bridge.careful_create
  · exact fun _ _ => keeps_guarded fun _ => Attachment.careful_attach

theorem leads_guarded (o : Operation) : Leads b h₀.Guarded o.program fun _ => h₀.Guarded := by
  cases o with
  | netns r => exact (keeps_guarded fun _ => r.careful).onHost
  | veth r => exact (keeps_guarded fun _ => r.careful).onHost
  | bridge r => exact (keeps_guarded fun _ => r.careful).onHost
  | wire r => exact (keeps_guarded fun _ => r.careful).onHost.bind fun _ => fun _ hw => hw
  | sandbox m tracker r =>
    exact (SandboxRequest.keeps (request_guarded m r) tracker).bind fun _ => fun _ hw => hw

theorem forM_guarded (operations : List Operation) :
    Leads b h₀.Guarded (operations.forM program) fun _ => h₀.Guarded := by
  induction operations with
  | nil => exact fun _ hw => hw
  | cons o rest ih => exact o.leads_guarded.bind fun _ => ih

end Operation

variable {φ σ ι : Type}

/-- Whatever the managers are asked to do and whatever fails, only veth ends of the default
namespace are in a bridge, and that bridge is there. No bridge is in a bridge or in a namespace, and
the rules accept all names and addresses. -/
theorem managers_build (b : Behaviour φ σ ι) (operations : List Operation) (w : World φ σ ι)
    (hw : w.net.host = .initial) :
    let h := (World.run b (operations.forM Operation.program) w).2.net.host
    (∀ (id : LinkId) (l : Link) (bridge : String), h.links[id]? = some l →
      l.master = some bridge →
      l.kind = .veth ∧ id.netns = none ∧ h.hasBridge bridge = true) ∧
    (∀ (id : LinkId) (l : Link), h.links[id]? = some l → l.kind = .bridge →
      l.master = none ∧ id.netns = none) ∧
    (∀ (id : LinkId) (l : Link) (depth : Nat), h.links[id]? = some l →
      h.stateWithin (depth + 1) id l = h.state id l) ∧
    (∀ (id : LinkId) (l : Link), h.links[id]? = some l →
      (l.kind = .veth ∧ NameRule.veth.check id.name = .ok ()) ∨
      (l.kind = .bridge ∧ NameRule.bridge.check id.name = .ok ()) ∨
      (l.kind = .loopback ∧ id.name = "lo")) ∧
    (∀ ns ∈ h.netns, NameRule.netns.check ns = .ok ()) ∧
    ∀ (id : LinkId) (l : Link), h.links[id]? = some l →
      ∀ address ∈ l.addresses, Address.check address = .ok () := by
  intro h
  have hg : Host.initial.Guarded h :=
    Operation.forM_guarded operations w (hw ▸ Relation.ReflTransGen.refl)
  obtain ⟨_, _, hb⟩ := hg.built
  refine ⟨?_, ?_, ?_, ?_, hb.netns, ?_⟩
  · intro id l bridge hl hm
    obtain ⟨hn, hv, hbridge⟩ := (hb.links id l hl).enslaved bridge hm
    exact ⟨kind_eq_veth.mpr hv, hn, Host.isBridge_iff.mp hbridge⟩
  · intro id l hl hk
    have hd := kind_eq_bridge.mp hk
    refine ⟨?_, ((hb.links id l hl).bridge hd).2⟩
    cases hm : l.master with
    | none => rfl
    | some bridge =>
      obtain ⟨_, ⟨p, hv⟩, _⟩ := (hb.links id l hl).enslaved bridge hm
      cases hd.symm.trans hv
  · intro id l depth hl
    exact hb.stateWithin_eq hl depth
  · intro id l hl
    have hproper := hb.links id l hl
    cases hd : l.device with
    | veth p => exact Or.inl ⟨kind_eq_veth.mpr ⟨p, hd⟩, hproper.veth p hd⟩
    | bridge => exact Or.inr (Or.inl ⟨kind_eq_bridge.mpr hd, (hproper.bridge hd).1⟩)
    | loopback => exact Or.inr (Or.inr ⟨by simp [Link.kind, hd], hproper.loopback hd⟩)
  · intro id l hl
    exact (hb.links id l hl).addressed

/-- A bridge is not put into itself nor moved into a namespace, and its member is left in it. -/
theorem managers_build_refused :
    let operations : List Operation := [
      .bridge (.create "br0" (some "10.0.0.1/24")), .veth (.create "near" "far"),
      .netns (.create "inner"), .bridge (.attachEnd "br0" "near"), .veth (.attach "far" "inner"),
      .veth (.attachTo "br0" (.bridge "br0")), .veth (.attachTo "br0" (.netns "inner"))]
    let h := (World.run ScriptedWorld.behaviour (operations.forM Operation.program)
      (ScriptedWorld.initial {} {})).2.net.host
    (∃ l, h.links[(⟨none, "near"⟩ : LinkId)]? = some l ∧ l.master = some "br0" ∧
      l.kind = .veth ∧ h.hasBridge "br0" = true) ∧
    ∃ l, h.links[(⟨none, "br0"⟩ : LinkId)]? = some l ∧ l.kind = .bridge ∧ l.master = none ∧
      h.stateWithin 1 ⟨none, "br0"⟩ l = h.state ⟨none, "br0"⟩ l := by
  intro operations h
  have hnear : h.links[(⟨none, "near"⟩ : LinkId)]?.map (·.master) = some (some "br0") := by
    decide +kernel
  have hbr : h.links[(⟨none, "br0"⟩ : LinkId)]?.map (·.kind) = some .bridge := by
    decide +kernel
  obtain ⟨l, hl, hm⟩ := Option.map_eq_some_iff.mp hnear
  obtain ⟨lb, hlb, hk⟩ := Option.map_eq_some_iff.mp hbr
  obtain ⟨henslaved, hfree, hstate, -⟩ :=
    managers_build ScriptedWorld.behaviour operations (ScriptedWorld.initial {} {}) rfl
  obtain ⟨hv, _, hthere⟩ := henslaved _ l "br0" hl hm
  exact ⟨⟨l, hl, hm, hv, hthere⟩, lb, hlb, hk, (hfree _ lb hlb hk).1, hstate _ lb 0 hlb⟩

end SandboxNet
