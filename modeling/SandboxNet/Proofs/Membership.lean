import Mathlib.Data.List.Induction
import SandboxNet.Proofs.Built

/-! Membership in a bridge is a name that the member keeps, so whatever takes a bridge away has to
see to its members. Deleting a bridge does. Moving one into another namespace does not, and that is
the only way for a membership to be left dangling. -/
namespace SandboxNet.Host

variable {h h' : Host} {id k : LinkId} {m : String}

/-- The link is in a bridge of this name. -/
def MemberOf (h : Host) (m : String) (id : LinkId) : Prop :=
  ∃ l, h.links[id]? = some l ∧ l.master = some m

/-- The link is in a bridge of this name, which its namespace does not have. -/
structure Dangles (h : Host) (m : String) (id : LinkId) : Prop where
  member : h.MemberOf m id
  missing : h.deviceAt ⟨id.netns, m⟩ ≠ some .bridge

/-- The bridge can be moved into the namespace, and has the link as another member. -/
structure LeftBehind (h : Host) (m ns : String) (id : LinkId) : Prop where
  moves : (h.answer (.setNetns m ns)).1 = .ok ()
  bridge : h.IsBridge m
  member : h.MemberOf m id
  other : id ≠ ⟨none, m⟩

/-- The host after calls made one after another. -/
def after (h : Host) (calls : List NetCall) : Host :=
  calls.foldl (fun h c => (h.answer c).2) h

theorem after_concat (calls : List NetCall) (c : NetCall) :
    h.after (calls ++ [c]) = ((h.after calls).answer c).2 := by
  simp only [after, List.foldl_append, List.foldl_cons, List.foldl_nil]

theorem Reachable.after (hr : h.Reachable) (calls : List NetCall) : (h.after calls).Reachable := by
  induction calls generalizing h with
  | nil => exact hr
  | cons c rest ih => exact ih (.call c hr)

theorem dangles_insert {netns : Std.ExtTreeSet String} {d : Device} (hk : h.links[k]? = none)
    (hd : Dangles ⟨h.links.insert k (.fresh d), netns⟩ m id) : Dangles h m id := by
  obtain ⟨⟨l, hl, hm⟩, hmissing⟩ := hd
  rw [links_insert] at hl
  split at hl
  · cases hl
    cases hm
  · exact ⟨⟨l, hl, hm⟩, fun hb => hmissing (deviceAt_insert hk hb _)⟩

theorem dangles_update {f : Link → Link} (hdevice : ∀ l, (f l).device = l.device)
    (hmaster : ∀ l, (f l).master = l.master) (hd : Dangles (h.update k f) m id) :
    Dangles h m id := by
  obtain ⟨⟨l, hl, hm⟩, hmissing⟩ := hd
  rw [deviceAt_update hdevice] at hmissing
  rw [update_links] at hl
  split at hl
  · rename_i he
    obtain ⟨l₀, hl₀, rfl⟩ := Option.map_eq_some_iff.mp hl
    exact ⟨⟨l₀, he ▸ hl₀, (hmaster l₀).symm.trans hm⟩, hmissing⟩
  · exact ⟨⟨l, hl, hm⟩, hmissing⟩

/-- A member that is left after a removal was one before, and not of the bridge removed. -/
theorem memberOf_remove (hm : (h.remove k).MemberOf m id) :
    h.MemberOf m id ∧ (h.deviceAt k = some .bridge → k ≠ ⟨id.netns, m⟩) := by
  obtain ⟨l, hl, hm⟩ := hm
  rw [remove_row] at hl
  split at hl
  · cases hl
  split at hl
  · obtain ⟨l₀, hl₀, rfl⟩ := Option.map_eq_some_iff.mp hl
    simp only [release] at hm
    split at hm
    · cases hm
    · rename_i hother
      refine ⟨⟨l₀, hl₀, hm⟩, fun _ hk => hother ?_⟩
      rw [hk]
      exact ⟨rfl, hm⟩
  · rename_i hnot
    exact ⟨⟨l, hl, hm⟩, fun hb => absurd hb hnot⟩

theorem dangles_remove (hp : h.Paired) (hd : Dangles (h.remove k) m id) : Dangles h m id := by
  obtain ⟨hmember, hother⟩ := memberOf_remove hd.member
  refine ⟨hmember, fun hb => hd.missing ?_⟩
  have hne : (⟨id.netns, m⟩ : LinkId) ≠ k := by
    rintro rfl
    exact hother hb rfl
  have hnd : h.deviceAt k ≠ some (.veth ⟨id.netns, m⟩) := by
    intro hv
    cases hb.symm.trans (hp k _ hv).2
  rw [remove_deviceAt, if_neg (not_or.mpr ⟨hne, hnd⟩), hb]

theorem dangles_deleteNamespace {ns : String} (hp : h.Paired)
    (ok : h.deleteNamespace ns = .ok h') (hd : Dangles h' m id) : Dangles h m id := by
  obtain ⟨_, rfl⟩ := deleteNamespace_eq_ok.mp ok
  have hall : ∀ (ids : List LinkId) (start : Host), start.Paired →
      Dangles (ids.foldl remove start) m id → Dangles start m id := by
    intro ids
    induction ids with
    | nil => exact fun _ _ hd => hd
    | cons k ids ih =>
      intro start hp hd
      exact dangles_remove hp (ih _ (paired_remove hp k) hd)
  have hstart : Dangles ⟨h.links, h.netns.erase ns⟩ m id := hall _ _ hp hd
  exact ⟨hstart.member, hstart.missing⟩

theorem dangles_setMaster {a : String} {master : Option String}
    (ok : h.setMaster a master = .ok h') (hd : Dangles h' m id) : Dangles h m id := by
  obtain ⟨hbridge, _, rfl⟩ := setMaster_eq_ok.mp ok
  have hdevice : ∀ id, (h.update ⟨none, a⟩ ({ · with master := master })).deviceAt id =
      h.deviceAt id := deviceAt_update fun _ => rfl
  obtain ⟨⟨l, hl, hm⟩, hmissing⟩ := hd
  rw [hdevice] at hmissing
  rw [update_links] at hl
  split at hl
  · -- the new member is in a bridge that was there
    rename_i he
    obtain ⟨l₀, _, rfl⟩ := Option.map_eq_some_iff.mp hl
    subst he
    exact absurd (isBridge_iff.mpr (hbridge m hm)) hmissing
  · exact ⟨⟨l, hl, hm⟩, hmissing⟩

theorem setNetns_source {a ns : String} (hp : h.Paired) (ok : h.setNetns a ns = .ok h') :
    h'.links[(⟨none, a⟩ : LinkId)]? = none := by
  obtain ⟨_, _, l, hl, rfl⟩ := setNetns_eq_ok.mp ok
  have hnd : l.device ≠ .veth ⟨none, a⟩ := fun hd => (hp.peer hl hd).1 rfl
  rw [links_insert, if_neg (by simp), redirect_links, if_neg hnd, links_erase, if_pos rfl]

/-- A move leaves a membership dangling if it did already, or if it takes the bridge itself. -/
theorem dangles_setNetns {a ns : String} (hp : h.Paired) (ok : h.setNetns a ns = .ok h')
    (hd : Dangles h' m id) : Dangles h m id ∨ (a = m ∧ h.IsBridge m ∧ h.MemberOf m id ∧
      id ≠ ⟨none, m⟩) := by
  obtain ⟨⟨l, hl, hm⟩, hmissing⟩ := hd
  have hmember : h.MemberOf m id := by
    obtain ⟨_, hnone⟩ | ⟨l₀, hl₀, hsame⟩ := setNetns_origin ok hl
    · cases hnone.symm.trans hm
    · exact ⟨l₀, hl₀, hsame.symm.trans hm⟩
  by_cases hb : h.deviceAt ⟨id.netns, m⟩ = some .bridge
  · right
    obtain ⟨d, hd, hfree, hdev⟩ := setNetns_deviceAt hp ok
    have hsource : (⟨id.netns, m⟩ : LinkId) = ⟨none, a⟩ := by
      by_contra hne
      have hto : (⟨id.netns, m⟩ : LinkId) ≠ ⟨some ns, a⟩ := by
        intro he
        rw [he, hfree] at hb
        cases hb
      have hpeer : d ≠ .veth ⟨id.netns, m⟩ := by
        rintro rfl
        cases hb.symm.trans (hp _ _ hd).2
      rw [hdev, if_neg hto, if_neg hpeer, if_neg hne] at hmissing
      exact hmissing hb
    rw [hsource] at hb
    obtain ⟨_, rfl⟩ := LinkId.mk.inj hsource
    refine ⟨rfl, hb, hmember, ?_⟩
    rintro rfl
    rw [setNetns_source hp ok] at hl
    cases hl
  · exact Or.inl ⟨hmember, hb⟩

/-- A membership dangles after a call if it did before, or if the call has moved its bridge. -/
theorem dangles_answer {c : NetCall} (hp : h.Paired) (hk : h.Contained)
    (hd : Dangles (h.answer c).2 m id) :
    Dangles h m id ∨ ∃ ns, c = .setNetns m ns ∧ LeftBehind h m ns id := by
  have hkept : ∀ r : Except NetError Host, (∀ h', r = .ok h' → Dangles h' m id → Dangles h m id) →
      Dangles (h.change r).2 m id → Dangles h m id := by
    intro r hr hd
    obtain ⟨_, ok⟩ | ⟨e, _, he⟩ := change_cases (h := h) r
    · exact hr _ ok hd
    · rw [he] at hd
      exact hd
  cases c with
  | link | links | addresses | namespaces => exact Or.inl hd
  | addVeth a b =>
    refine Or.inl (hkept _ (fun h' ok hd => ?_) hd)
    obtain ⟨ha, hb, hab, rfl⟩ := addVeth_eq_ok.mp ok
    refine dangles_insert ha (dangles_insert (h := ⟨_, h.netns⟩) ?_ hd)
    rw [links_insert, if_neg (by simp [Ne.symm hab]), hb]
  | addBridge b =>
    refine Or.inl (hkept _ (fun h' ok hd => ?_) hd)
    obtain ⟨hb, rfl⟩ := addBridge_eq_ok.mp ok
    exact dangles_insert hb hd
  | deleteLink a =>
    refine Or.inl (hkept _ (fun h' ok hd => ?_) hd)
    obtain ⟨_, rfl⟩ := deleteLink_eq_ok.mp ok
    exact dangles_remove hp hd
  | setAdmin netns a up =>
    refine Or.inl (hkept _ (fun h' ok hd => ?_) hd)
    obtain ⟨_, rfl⟩ := setAdmin_eq_ok.mp ok
    apply dangles_update _ _ hd <;> exact fun _ => rfl
  | setMaster a master => exact Or.inl (hkept _ (fun _ ok hd => dangles_setMaster ok hd) hd)
  | setNetns a ns =>
    obtain ⟨hok, ok⟩ | ⟨e, _, he⟩ := change_cases (h := h) (h.setNetns a ns)
    · obtain hbefore | ⟨rfl, hb, hmember, hother⟩ := dangles_setNetns hp ok hd
      · exact Or.inl hbefore
      · exact Or.inr ⟨ns, rfl, congrArg Prod.fst hok, hb, hmember, hother⟩
    · rw [answer, he] at hd
      exact Or.inl hd
  | addAddress a address =>
    refine Or.inl (hkept _ (fun h' ok hd => ?_) hd)
    obtain ⟨_, _, _, rfl⟩ := addAddress_eq_ok.mp ok
    apply dangles_update _ _ hd <;> exact fun _ => rfl
  | addNamespace ns =>
    refine Or.inl (hkept _ (fun h' ok hd => ?_) hd)
    obtain ⟨hn, rfl⟩ := addNamespace_eq_ok.mp ok
    exact dangles_insert (hk.absent hn) hd
  | deleteNamespace ns =>
    exact Or.inl (hkept _ (fun _ ok hd => dangles_deleteNamespace hp ok hd) hd)

/-- A membership dangles since its bridge was moved away. -/
theorem dangles_since (hr : h.Reachable) (hfirst : ¬ Dangles h m id) (calls : List NetCall)
    (hd : Dangles (h.after calls) m id) :
    ∃ pre ns post, calls = pre ++ .setNetns m ns :: post ∧ LeftBehind (h.after pre) m ns id ∧
      ∀ rest, rest <+: post → Dangles (h.after (pre ++ .setNetns m ns :: rest)) m id := by
  induction calls using List.reverseRecOn with
  | nil => exact absurd hd hfirst
  | append_singleton calls c ih =>
    have hlast := hd
    rw [after_concat] at hlast
    obtain ⟨hp, hk⟩ := (hr.after calls).sound
    obtain hbefore | ⟨ns, rfl, hleft⟩ := dangles_answer hp hk hlast
    · obtain ⟨pre, ns, post, rfl, hleft, hsince⟩ := ih hbefore
      refine ⟨pre, ns, post ++ [c], by simp, hleft, fun rest hrest => ?_⟩
      obtain rfl | hrest := List.prefix_concat_iff.mp hrest
      · simpa using hd
      · exact hsince rest hrest
    · refine ⟨calls, ns, [], rfl, hleft, fun rest hrest => ?_⟩
      obtain rfl := List.prefix_nil.mp hrest
      exact hd

/-- A bridge that is moved leaves all its other members dangling. -/
theorem LeftBehind.dangles {ns : String} (hr : h.Reachable) (hleft : LeftBehind h m ns id) :
    Dangles (h.answer (.setNetns m ns)).2 m id := by
  obtain ⟨hp, hk⟩ := hr.sound
  obtain ⟨hmoves, hb, ⟨l, hl, hm⟩, hother⟩ := hleft
  have ok : h.setNetns m ns = .ok (h.answer (.setNetns m ns)).2 := by
    obtain ⟨_, ok⟩ | ⟨e, _, he⟩ := change_cases (h := h) (h.setNetns m ns)
    · exact ok
    · rw [answer, he] at hmoves
      cases hmoves
  generalize (h.answer (.setNetns m ns)).2 = h' at ok ⊢
  -- only a link of the default namespace is in a bridge
  have hid : id.netns = none := by
    cases hn : id.netns with
    | none => rfl
    | some ns' => cases (hk.unenslaved ns' id l hl hn).symm.trans hm
  refine ⟨⟨l, ?_, hm⟩, ?_⟩
  · obtain ⟨lb, hlb, hdb⟩ := Option.map_eq_some_iff.mp hb
    obtain ⟨_, hfree, l₀, hl₀, rfl⟩ := setNetns_eq_ok.mp ok
    cases hl₀.symm.trans hlb
    have hto : id ≠ ⟨some ns, m⟩ := by
      rintro rfl
      cases hid
    rw [links_insert, if_neg hto, redirect_links, if_neg (by simp [hdb]), links_erase,
      if_neg hother, hl]
  · rw [hid, deviceAt, setNetns_source hp ok]
    simp

/-- Whatever was called, a link that is in a bridge has that bridge in its own namespace, unless the
bridge was once moved away from it; then the membership dangles since that move. Every such move
leaves all the other members of the bridge dangling. -/
theorem members_have_their_bridge (calls : List NetCall) :
    (∀ (id : LinkId) (l : Link) (m : String), (Host.initial.after calls).links[id]? = some l →
      l.master = some m →
      (∃ lb, (Host.initial.after calls).links[(⟨id.netns, m⟩ : LinkId)]? = some lb ∧
        lb.kind = .bridge) ∨
      ∃ pre ns post, calls = pre ++ .setNetns m ns :: post ∧
        LeftBehind (Host.initial.after pre) m ns id ∧
        ∀ rest, rest <+: post →
          Dangles (Host.initial.after (pre ++ .setNetns m ns :: rest)) m id) ∧
    ∀ (id : LinkId) (m ns : String), LeftBehind (Host.initial.after calls) m ns id →
      Dangles (Host.initial.after (calls ++ [.setNetns m ns])) m id := by
  refine ⟨fun id l m hl hm => ?_, fun id m ns hleft => ?_⟩
  · by_cases hb : (Host.initial.after calls).deviceAt ⟨id.netns, m⟩ = some .bridge
    · obtain ⟨lb, hlb, hd⟩ := Option.map_eq_some_iff.mp hb
      exact Or.inl ⟨lb, hlb, kind_eq_bridge.mpr hd⟩
    · have hfirst : ¬ Dangles Host.initial m id := by
        rintro ⟨⟨l, hl, hm⟩, _⟩
        rw [initial_links] at hl
        split at hl
        · cases hl
          cases hm
        · cases hl
      exact Or.inr (dangles_since .initial hfirst calls ⟨⟨l, hl, hm⟩, hb⟩)
  · rw [after_concat]
    exact hleft.dangles (Reachable.initial.after calls)

/-- The move of its other end leaves a member its bridge; the move of the bridge does not. -/
theorem members_have_their_bridge_moving :
    let calls : List NetCall := [.addBridge "br0", .addVeth "near" "far",
      .setMaster "near" (some "br0"), .addNamespace "inner", .setNetns "far" "inner"]
    let near : LinkId := ⟨none, "near"⟩
    (Host.initial.after calls).MemberOf "br0" near ∧
    (∃ lb, (Host.initial.after calls).links[(⟨none, "br0"⟩ : LinkId)]? = some lb ∧
      lb.kind = .bridge) ∧
    LeftBehind (Host.initial.after calls) "br0" "inner" near ∧
    Dangles (Host.initial.after (calls ++ [.setNetns "br0" "inner"])) "br0" near := by
  intro calls near
  obtain ⟨hbridged, hmoved⟩ := members_have_their_bridge calls
  have hmaster : (Host.initial.after calls).links[near]?.map (·.master) = some (some "br0") := by
    decide +kernel
  obtain ⟨l, hl, hm⟩ := Option.map_eq_some_iff.mp hmaster
  have hleft : LeftBehind (Host.initial.after calls) "br0" "inner" near :=
    ⟨by decide +kernel, by decide +kernel, ⟨l, hl, hm⟩, by decide⟩
  refine ⟨⟨l, hl, hm⟩, ?_, hleft, hmoved near "br0" "inner" hleft⟩
  rcases hbridged near l "br0" hl hm with hthere | ⟨pre, ns, post, hsplit, _⟩
  · exact hthere
  · have hmem : NetCall.setNetns "br0" ns ∈ calls := hsplit ▸ by simp
    simp [calls] at hmem

/-- A member is still in a bridge that has gone into another namespace. -/
theorem moved_bridge_keeps_member :
    let h := Host.initial.after [.addBridge "br0", .addVeth "near" "far",
      .setMaster "near" (some "br0"), .addNamespace "inner", .setNetns "br0" "inner"]
    (∃ l, h.links[(⟨none, "near"⟩ : LinkId)]? = some l ∧ l.master = some "br0") ∧
      h.links[(⟨none, "br0"⟩ : LinkId)]? = none := by
  intro h
  exact ⟨Option.map_eq_some_iff.mp (by decide +kernel), by decide +kernel⟩

end SandboxNet.Host
