import SandboxNet.Proofs.AttachmentOutcomes

/-! Sandboxes do not reach into each other. All of them share the place where the other end of a
pair is made, so who owns the end that is there is part of an invariant of every run. -/
namespace SandboxNet

variable {φ : Type} {h h' h₁ base base' : Host} {s t bridge : String} {id p : LinkId} {l : Link}

/-- Every pair is that of a sandbox, and no bridge is where its host end may be. -/
structure Owned (h : Host) : Prop where
  pairs : ∀ id p, h.deviceAt id = some (.veth p) →
    ∃ s, (id = hostEnd s ∧ (p = looseEnd ∨ p = innerEnd s)) ∨
      (p = hostEnd s ∧ (id = looseEnd ∨ id = innerEnd s))
  bridges : ∀ id, h.deviceAt id = some .bridge → id.netns = none ∧ ¬ EndLike id.name

/-- What a sandbox has on the host is the same on both hosts. -/
structure Untouched (t : String) (h h' : Host) : Prop where
  netns : "corral-" ++ t ∈ h'.netns ↔ "corral-" ++ t ∈ h.netns
  inside : ∀ name, h'.links[(⟨some ("corral-" ++ t), name⟩ : LinkId)]? =
    h.links[(⟨some ("corral-" ++ t), name⟩ : LinkId)]?
  near : h'.links[hostEnd t]? = h.links[hostEnd t]?
  loose : ∀ l : Link, l.device = .veth (hostEnd t) →
    (h'.links[looseEnd]? = some l ↔ h.links[looseEnd]? = some l)

theorem Untouched.refl (t : String) (h : Host) : Untouched t h h :=
  ⟨Iff.rfl, fun _ => rfl, rfl, fun _ _ => Iff.rfl⟩

theorem Untouched.trans (h₁₂ : Untouched t h h₁) (h₂₃ : Untouched t h₁ h') : Untouched t h h' :=
  ⟨h₂₃.netns.trans h₁₂.netns, fun name => (h₂₃.inside name).trans (h₁₂.inside name),
    h₂₃.near.trans h₁₂.near, fun l hl => (h₂₃.loose l hl).trans (h₁₂.loose l hl)⟩

/-- The place is not for the given sandbox, nor is an end of its pair there. -/
structure Foreign (t : String) (h : Host) (id : LinkId) : Prop where
  outside : id.netns ≠ some ("corral-" ++ t)
  elsewhere : id ≠ hostEnd t
  device : h.deviceAt id ≠ some (.veth (hostEnd t))

theorem Untouched.of_rows (hn : "corral-" ++ t ∈ h'.netns ↔ "corral-" ++ t ∈ h.netns)
    (hrow : ∀ id : LinkId, h'.links[id]? = h.links[id]? ∨ (Foreign t h id ∧ Foreign t h' id)) :
    Untouched t h h' := by
  refine ⟨hn, fun name => ?_, ?_, fun l hl => ?_⟩
  · obtain he | ⟨hf, _⟩ := hrow ⟨some ("corral-" ++ t), name⟩
    · exact he
    · exact absurd rfl hf.outside
  · obtain he | ⟨hf, _⟩ := hrow (hostEnd t)
    · exact he
    · exact absurd rfl hf.elsewhere
  · obtain he | ⟨hf, hf'⟩ := hrow looseEnd
    · rw [he]
    · constructor
      · intro h'l
        exact absurd (by rw [Host.deviceAt_of_some h'l, hl]) hf'.device
      · intro hl'
        exact absurd (by rw [Host.deviceAt_of_some hl', hl]) hf.device

/-- A change made for one sandbox: ownership is kept, and the others are untouched. -/
structure Confined (s : String) (h h' : Host) : Prop where
  owned : Owned h'
  untouched : ∀ t, t ≠ s → Untouched t h h'

theorem Confined.refl (ho : Owned h) : Confined s h h :=
  ⟨ho, fun t _ => .refl t h⟩

theorem Confined.trans (h₁₂ : Confined s h h₁) (h₂₃ : Confined s h₁ h') : Confined s h h' :=
  ⟨h₂₃.owned, fun t ht => (h₁₂.untouched t ht).trans (h₂₃.untouched t ht)⟩

/-- Ownership is kept when devices only go, or are loopbacks or bridges elsewhere. -/
theorem Owned.of_deviceAt (ho : Owned h) (hd : ∀ id d, h'.deviceAt id = some d →
    h.deviceAt id = some d ∨ d = .loopback ∨
      (d = .bridge ∧ id.netns = none ∧ ¬ EndLike id.name)) : Owned h' := by
  constructor
  · intro id p hp
    obtain hp | hp | ⟨hp, _⟩ := hd id _ hp
    · exact ho.pairs id p hp
    · cases hp
    · cases hp
  · intro id hb
    obtain hb | hb | ⟨_, hb⟩ := hd id _ hb
    · exact ho.bridges id hb
    · cases hb
    · exact hb

theorem Owned.foreign_bridge (ho : Owned h) (hd : h.deviceAt id = some .bridge) (t : String) :
    Foreign t h id := by
  obtain ⟨hn, hb⟩ := ho.bridges id hd
  refine ⟨by simp [hn], ?_, by simp [hd]⟩
  rintro rfl
  exact hb (endLike_hostVeth t)

theorem Owned.foreign_inside (ho : Owned h) (hn : id.netns = some ("corral-" ++ s)) (ht : t ≠ s) :
    Foreign t h id := by
  refine ⟨by simp [hn, Ne.symm ht], ?_, fun hd => ?_⟩
  · rintro rfl
    simp at hn
  · obtain ⟨s', ⟨rfl, _⟩ | ⟨hs, rfl | rfl⟩⟩ := ho.pairs id _ hd
    · simp at hn
    · simp at hn
    · rw [hostEnd_inj] at hs
      subst hs
      simp [ht] at hn

theorem confined_addBridge (ho : Owned h) (hb : ¬ EndLike bridge)
    (ok : h.addBridge bridge = .ok h') : Confined s h h' := by
  obtain ⟨hfree, rfl⟩ := Host.addBridge_eq_ok.mp ok
  have hnew : Host.deviceAt ⟨h.links.insert ⟨none, bridge⟩ (.fresh .bridge), h.netns⟩
      ⟨none, bridge⟩ = some .bridge := by
    simp [Host.deviceAt, Link.fresh]
  have ho' : Owned ⟨h.links.insert ⟨none, bridge⟩ (.fresh .bridge), h.netns⟩ := by
    apply ho.of_deviceAt
    intro id d hd
    by_cases hid : id = ⟨none, bridge⟩
    · subst hid
      rw [hnew] at hd
      cases hd
      exact Or.inr (Or.inr ⟨rfl, rfl, hb⟩)
    · simp only [Host.deviceAt, Host.links_insert, if_neg hid] at hd
      exact Or.inl hd
  refine ⟨ho', fun t _ => .of_rows Iff.rfl fun id => ?_⟩
  by_cases hid : id = ⟨none, bridge⟩
  · subst hid
    have hf := ho'.foreign_bridge hnew t
    exact Or.inr ⟨⟨hf.outside, hf.elsewhere, by simp [Host.deviceAt, hfree]⟩, hf⟩
  · exact Or.inl (by rw [Host.links_insert, if_neg hid])

theorem confined_addNamespace (ho : Owned h) (ok : h.addNamespace ("corral-" ++ s) = .ok h') :
    Confined s h h' := by
  obtain ⟨_, rfl⟩ := Host.addNamespace_eq_ok.mp ok
  have ho' : Owned ⟨h.links.insert (innerLoopback s) (.fresh .loopback),
      h.netns.insert ("corral-" ++ s)⟩ := by
    apply ho.of_deviceAt
    intro id d hd
    simp only [Host.deviceAt, Host.links_insert] at hd
    by_cases hid : id = innerLoopback s
    · rw [if_pos hid] at hd
      cases hd
      exact Or.inr (Or.inl rfl)
    · rw [if_neg hid] at hd
      exact Or.inl hd
  refine ⟨ho', fun t ht => .of_rows (by simp [Ne.symm ht]) fun id => ?_⟩
  by_cases hid : id = innerLoopback s
  · subst hid
    exact Or.inr ⟨ho.foreign_inside rfl ht, ho'.foreign_inside rfl ht⟩
  · exact Or.inl (by rw [Host.links_insert, if_neg hid])

/-- A change of a bridge, or of a link inside the namespace of the sandbox. -/
theorem confined_update {k : LinkId} {f : Link → Link} (ho : Owned h)
    (hf : ∀ l, (f l).device = l.device)
    (hk : h.deviceAt k = some .bridge ∨ k.netns = some ("corral-" ++ s)) :
    Confined s h (h.update k f) := by
  have ho' : Owned (h.update k f) := by
    apply ho.of_deviceAt
    intro id d hd
    rw [Host.deviceAt_update hf] at hd
    exact Or.inl hd
  refine ⟨ho', fun t ht => .of_rows Iff.rfl fun id => ?_⟩
  by_cases hid : id = k
  · subst hid
    rcases hk with hk | hk
    · have hk' : (h.update id f).deviceAt id = some .bridge :=
        (Host.deviceAt_update hf id).trans hk
      exact Or.inr ⟨ho.foreign_bridge hk t, ho'.foreign_bridge hk' t⟩
    · exact Or.inr ⟨ho.foreign_inside hk ht, ho'.foreign_inside hk ht⟩
  · exact Or.inl (by rw [Host.update_links, if_neg hid])

theorem Owned.peer_of_hostEnd (ho : Owned h) (hd : h.deviceAt (hostEnd s) = some (.veth p)) :
    p = looseEnd ∨ p = innerEnd s := by
  obtain ⟨s', ⟨hs, hp⟩ | ⟨_, hs | hs⟩⟩ := ho.pairs _ p hd
  · rw [hostEnd_inj] at hs
    exact hs ▸ hp
  · simp at hs
  · simp at hs

/-- A place of the pair of one sandbox is foreign to the others, unless it is the shared one and an
end of theirs is there. -/
theorem Owned.foreign_pair (ho : Owned h) (ht : t ≠ s)
    (hid : id = hostEnd s ∨ id = looseEnd ∨ id = innerEnd s)
    (hloose : id = looseEnd → h.deviceAt looseEnd ≠ some (.veth (hostEnd t))) :
    Foreign t h id := by
  rcases hid with rfl | rfl | rfl
  · refine ⟨by simp, by simp [Ne.symm ht], fun hd => ?_⟩
    rcases ho.peer_of_hostEnd hd with he | he <;> simp at he
  · exact ⟨by simp, by simp, hloose rfl⟩
  · exact ho.foreign_inside rfl ht

theorem confined_splice {place : LinkId} {near far : Link} (ho : Owned base)
    (hs : Spliced base s place near far h) : Confined s base h := by
  have hdev := hs.deviceAt_eq
  have ho' : Owned h := by
    constructor
    · intro id p hp
      rw [hdev] at hp
      by_cases hnear : id = hostEnd s
      · rw [if_pos hnear] at hp
        cases hp
        exact ⟨s, Or.inl ⟨hnear, hs.placed⟩⟩
      by_cases hfar : id = place
      · rw [if_neg hnear, if_pos hfar] at hp
        cases hp
        exact ⟨s, Or.inr ⟨rfl, hfar ▸ hs.placed⟩⟩
      rw [if_neg hnear, if_neg hfar] at hp
      exact ho.pairs id p hp
    · intro id hb
      rw [hdev] at hb
      split at hb
      · cases hb
      · split at hb
        · cases hb
        · exact ho.bridges id hb
  refine ⟨ho', fun t ht => .of_rows (by rw [hs.netns]) fun id => ?_⟩
  by_cases hid : id = hostEnd s ∨ id = place
  · have hplace : id = hostEnd s ∨ id = looseEnd ∨ id = innerEnd s := by
      rcases hid with hid | rfl
      · exact Or.inl hid
      · exact Or.inr hs.placed
    refine Or.inr ⟨ho.foreign_pair ht hplace ?_, ho'.foreign_pair ht hplace ?_⟩
    · simp [Host.deviceAt, hs.looseFree]
    · rintro rfl
      have hfar : looseEnd = place := by simpa using hid
      rw [hdev, if_neg (by simp), if_pos hfar]
      simp [Ne.symm ht]
  · exact Or.inl (hs.other_row (mt Or.inl hid) (mt Or.inr hid))

/-- Taking a pair away through its host end. -/
theorem confined_remove (ho : Owned h) (hp : h.Paired)
    (hd : h.deviceAt (hostEnd s) = some (.veth p)) : Confined s h (h.remove (hostEnd s)) := by
  have hpeer := ho.peer_of_hostEnd hd
  obtain ⟨l, hl, hlp⟩ := Option.map_eq_some_iff.mp hd
  have hrow : ∀ id : LinkId, (h.remove (hostEnd s)).links[id]? =
      if id = hostEnd s ∨ id = p then none else h.links[id]? :=
    fun id => Host.remove_veth hl hlp
  have ho' : Owned (h.remove (hostEnd s)) := by
    apply ho.of_deviceAt
    intro id d hd'
    rw [Host.deviceAt, hrow] at hd'
    split at hd'
    · cases hd'
    · exact Or.inl hd'
  refine ⟨ho', fun t ht => .of_rows (by rw [Host.remove_netns]) fun id => ?_⟩
  by_cases hid : id = hostEnd s ∨ id = p
  · have hplace : id = hostEnd s ∨ id = looseEnd ∨ id = innerEnd s := by
      rcases hid with hid | rfl
      · exact Or.inl hid
      · exact Or.inr hpeer
    refine Or.inr ⟨ho.foreign_pair ht hplace ?_, ho'.foreign_pair ht hplace ?_⟩
    · rintro rfl
      obtain rfl : looseEnd = p := by simpa using hid
      rw [(hp _ _ hd).2]
      simp [Ne.symm ht]
    · rintro rfl
      rw [Host.deviceAt, hrow, if_pos hid]
      simp
  · exact Or.inl (by rw [hrow, if_neg hid])

theorem confined_deleteNamespace (ho : Owned h) (hp : h.Paired) (hc : h.Contained)
    (ok : h.deleteNamespace ("corral-" ++ s) = .ok h') : Confined s h h' := by
  have hrow : ∀ (id : LinkId) (l : Link), h'.links[id]? = some l ↔ h.links[id]? = some l ∧
      id.netns ≠ some ("corral-" ++ s) ∧
        ∀ p, l.device = .veth p → p.netns ≠ some ("corral-" ++ s) :=
    fun _ _ => Host.deleteNamespace_links hp (hc.unenslaved _) ok
  have ho' : Owned h' := by
    apply ho.of_deviceAt
    intro id d hd
    obtain ⟨l, hl, hld⟩ := Option.map_eq_some_iff.mp hd
    exact Or.inl (by rw [Host.deviceAt_of_some ((hrow id l).mp hl).1, hld])
  refine ⟨ho', fun t ht => .of_rows ?_ fun id => ?_⟩
  · rw [Host.deleteNamespace_netns ok]
    simp [Ne.symm ht]
  by_cases hin : id.netns = some ("corral-" ++ s)
  · exact Or.inr ⟨ho.foreign_inside hin ht, ho'.foreign_inside hin ht⟩
  -- from outside the namespace, only the host end of the sandbox can go along with it
  by_cases hid : id = hostEnd s
  · subst hid
    exact Or.inr ⟨ho.foreign_pair ht (Or.inl rfl) (by simp),
      ho'.foreign_pair ht (Or.inl rfl) (by simp)⟩
  left
  apply Option.ext
  intro l
  rw [hrow]
  refine ⟨And.left, fun hl => ⟨hl, hin, fun p hd hpn => ?_⟩⟩
  obtain ⟨s', ⟨rfl, rfl | rfl⟩ | ⟨rfl, _⟩⟩ := ho.pairs id p (by rw [Host.deviceAt_of_some hl, hd])
  · simp at hpn
  · simp only [Option.some.injEq, String.append_right_inj] at hpn
    exact hid (by rw [hpn])
  · simp at hpn

theorem confined_create {address : Option String} {r : Except NetError Unit} (ho : Owned h)
    (hb : ¬ EndLike bridge) (out : Yields (Bridge.create bridge address).run h r h') :
    Confined s h h' := by
  obtain ⟨h₁, hmade, hend⟩ := Bridge.create_steps out
  have h₁c : Confined s h h₁ := by
    rcases hmade with rfl | ok
    · exact .refl ho
    · exact confined_addBridge ho hb ok
  rcases hend with rfl | ⟨hd, _, ok⟩
  · exact h₁c
  · obtain ⟨_, _, _, rfl⟩ := Host.addAddress_eq_ok.mp ok
    exact h₁c.trans (confined_update h₁c.owned (fun _ => rfl) (Or.inl hd))

theorem confined_readied (ho : Owned h) (hb : ¬ EndLike bridge)
    (hr : Attachment.Readied bridge ("corral-" ++ s) h base) : Confined s h base := by
  obtain ⟨h₁, hbridge, hns⟩ := hr
  have h₁c : Confined s h h₁ := by
    rcases hbridge with rfl | ok
    · exact .refl ho
    · exact confined_addBridge ho hb ok
  rcases hns with rfl | ok
  · exact h₁c
  · exact h₁c.trans (confined_addNamespace h₁c.owned ok)

theorem confined_attach {r : Except NetError Unit} (ho : Owned h) (hb : ¬ EndLike bridge)
    (out : Yields (Attachment.attach bridge s).run h r h') : Confined s h h' := by
  obtain ⟨base, hready, hcases⟩ := Attachment.attach_outcome out
  have hbase := confined_readied ho hb hready
  obtain ⟨_, _, rfl⟩ | ⟨_, _, base', _, _, _, hraised, _, h₁, hs, hend⟩ |
    ⟨_, hbr, _, base', hup, hs⟩ := hcases
  · exact hbase
  · have hbase' : Confined s h base' := by
      obtain rfl | ⟨hbr, rfl⟩ := hraised
      · exact hbase
      · exact hbase.trans (confined_update hbase.owned (fun _ => rfl) (Or.inl hbr))
    rcases hend with rfl | rfl
    · exact hbase'.trans (confined_splice hbase'.owned hs)
    · exact hbase'
  · have hbase₁ := hbase.trans
      (confined_update (f := raised) hbase.owned (fun _ => rfl) (Or.inl hbr))
    have hbase' : Confined s h base' := by
      rcases hup with rfl | rfl
      · exact hbase₁
      · exact hbase₁.trans (confined_update hbase₁.owned (fun _ => rfl) (Or.inr rfl))
    exact hbase'.trans (confined_splice hbase'.owned hs)

theorem confined_detach {r : Except NetError Unit} (ho : Owned h) (hp : h.Paired)
    (out : Yields (Attachment.detach bridge s).run h r h') : Confined s h h' := by
  obtain rfl | ⟨⟨p, hd⟩, rfl⟩ := Attachment.detach_outcome out
  · exact .refl ho
  · exact confined_remove ho hp hd

theorem confined_cleanup {clean : Bool} (ho : Owned h) (hp : h.Paired) (hc : h.Contained)
    (out : Yields (Attachment.cleanup s bridge) h clean h') : Confined s h h' := by
  obtain ⟨h₁, hp₁, hc₁, hdetach, hns⟩ := Attachment.cleanup_steps hp hc out
  have hconf : Confined s h h₁ := by
    obtain rfl | ⟨⟨p, hd⟩, rfl⟩ := hdetach
    · exact .refl ho
    · exact confined_remove ho hp hd
  rcases hns with rfl | ok
  · exact hconf
  · exact hconf.trans (confined_deleteNamespace hconf.owned hp₁ hc₁ ok)

theorem confined_request {r : WireRequest} {a : WireReply} (hr : h.Reachable) (ho : Owned h)
    (hb : ¬ EndLike r.bridge) (out : Yields r.program h a h') : Confined r.sandbox h h' := by
  obtain ⟨hp, hc⟩ := hr.sound
  cases r with
  | attach bridge sandbox =>
    obtain ⟨_, _, out⟩ := yields_map.mp out
    exact confined_attach ho hb out
  | detach bridge sandbox =>
    obtain ⟨_, _, out⟩ := yields_map.mp out
    exact confined_detach ho hp out
  | cleanup sandbox bridge =>
    obtain ⟨_, _, out⟩ := yields_map.mp out
    exact confined_cleanup ho hp hc out

theorem owned_requests {requests : List WireRequest} {replies : List WireReply}
    (hr : h.Reachable) (ho : Owned h) (hb : ∀ r ∈ requests, ¬ EndLike r.bridge)
    (out : Yields (requests.mapM WireRequest.program) h replies h') : Owned h' := by
  induction requests generalizing h replies with
  | nil =>
    obtain ⟨_, rfl⟩ := out
    exact ho
  | cons r rest ih =>
    rw [List.mapM_cons] at out
    obtain ⟨_, h₁, first, later⟩ := yields_bind.mp out
    obtain ⟨_, h₂, others, _, rfl⟩ := yields_bind.mp later
    have ho₁ := (confined_request hr ho (hb r List.mem_cons_self) first).owned
    exact ih (first.reachable hr) ho₁ (fun r' hr' => hb r' (List.mem_cons_of_mem r hr')) others

theorem bare_owned : Owned .bare := by
  constructor <;> simp [Host.deviceAt, Host.bare_links]

theorem initial_owned : Owned .initial := by
  apply bare_owned.of_deviceAt
  intro id d hd
  rw [Host.deviceAt, Host.initial_links] at hd
  split at hd
  · cases hd
    exact Or.inr (Or.inl rfl)
  · cases hd

/-- The state of a link that is no bridge depends on its other end only. -/
theorem state_eq_of_peer (hb : l.device ≠ .bridge)
    (hp : ∀ p, l.device = .veth p → h'.links[p]? = h.links[p]?) :
    h'.state id l = h.state id l := by
  simp only [Host.state]
  rw [Host.stateWithin.eq_def, Host.stateWithin.eq_def]
  cases hd : l.device with
  | veth p => simp only [hp p hd]
  | bridge => exact absurd hd hb
  | loopback => rfl

/-- The ends of an untouched pair keep their states. -/
theorem Untouched.state_eq (hu : Untouched t h h') (ho : Owned h) (hp : h.Paired)
    (hl : h.links[id]? = some l)
    (hid : id = hostEnd t ∨ id = innerEnd t ∨ (id = looseEnd ∧ l.device = .veth (hostEnd t))) :
    h'.state id l = h.state id l := by
  have hdl := Host.deviceAt_of_some hl
  rcases hid with rfl | rfl | ⟨rfl, hd⟩
  · apply state_eq_of_peer
    · intro hb
      rw [hb] at hdl
      exact (ho.bridges _ hdl).2 (endLike_hostVeth t)
    · intro p hd
      have hdp : h.deviceAt (hostEnd t) = some (.veth p) := by rw [hdl, hd]
      rcases ho.peer_of_hostEnd hdp with rfl | rfl
      · obtain ⟨lp, hlp, hback⟩ := Option.map_eq_some_iff.mp (hp _ _ hdp).2
        rw [hlp]
        exact (hu.loose lp hback).mpr hlp
      · exact hu.inside "host0"
  · apply state_eq_of_peer
    · intro hb
      rw [hb] at hdl
      cases (ho.bridges _ hdl).1
    · intro p hd
      obtain ⟨s, ⟨he, _⟩ | ⟨rfl, he | he⟩⟩ := ho.pairs _ p (by rw [hdl, hd])
      · simp at he
      · simp at he
      · rw [← innerEnd_inj.mp he]
        exact hu.near
  · apply state_eq_of_peer
    · simp [hd]
    · intro p hd'
      cases hd.symm.trans hd'
      exact hu.near

/-- Whatever requests came before and whatever calls fail, a request about one sandbox leaves the
others as they were, and their ends in the same states. -/
theorem other_sandboxes_untouched (source : FaultSource φ) (start : NetWorld φ)
    (hstart : start.host = .initial ∨ start.host = .bare) (earlier : List WireRequest)
    (r : WireRequest) (hb : ∀ r' ∈ r :: earlier, ¬ EndLike r'.bridge) (t : String)
    (ht : t ≠ r.sandbox) :
    let before := (NetWorld.run source (earlier.mapM WireRequest.program) start).2
    let after := (NetWorld.run source r.program before).2
    Untouched t before.host after.host ∧
      ∀ id l, before.host.links[id]? = some l →
        (id = hostEnd t ∨ id = innerEnd t ∨ (id = looseEnd ∧ l.device = .veth (hostEnd t))) →
        after.host.state id l = before.host.state id l := by
  intro before after
  have hfirst : start.host.Reachable ∧ Owned start.host := by
    rcases hstart with he | he
    · rw [he]
      exact ⟨.initial, initial_owned⟩
    · rw [he]
      exact ⟨.bare, bare_owned⟩
  have hearlier := yields_run source (earlier.mapM WireRequest.program) start
  have hr : before.host.Reachable := hearlier.reachable hfirst.1
  have ho : Owned before.host :=
    owned_requests hfirst.1 hfirst.2 (fun r' hr' => hb r' (List.mem_cons_of_mem r hr')) hearlier
  have hu := (confined_request hr ho (hb r List.mem_cons_self)
    (yields_run source r.program before)).untouched t ht
  exact ⟨hu, fun id l hl hid => hu.state_eq ho hr.sound.1 hl hid⟩

/-- An end that was left in the shared place stays there when another sandbox is attached. -/
theorem other_sandboxes_untouched_left_behind :
    (Host.deviceAt (NetWorld.run Fault.script
      ([WireRequest.attach "br0" "web"].mapM WireRequest.program)
      ⟨.initial, [⟨"set_netns", 0, none⟩, ⟨"delete_link", 0, none⟩], []⟩).2.host looseEnd =
        some (.veth (hostEnd "web"))) ∧
    Untouched "web" (NetWorld.run Fault.script
      ([WireRequest.attach "br0" "web"].mapM WireRequest.program)
      ⟨.initial, [⟨"set_netns", 0, none⟩, ⟨"delete_link", 0, none⟩], []⟩).2.host
      (NetWorld.run Fault.script (WireRequest.attach "br0" "db").program
        (NetWorld.run Fault.script ([WireRequest.attach "br0" "web"].mapM WireRequest.program)
          ⟨.initial, [⟨"set_netns", 0, none⟩, ⟨"delete_link", 0, none⟩], []⟩).2).2.host :=
  ⟨rfl, (other_sandboxes_untouched Fault.script _ (Or.inl rfl) [.attach "br0" "web"]
    (.attach "br0" "db") (by decide) "web" (by decide)).1⟩

end SandboxNet
