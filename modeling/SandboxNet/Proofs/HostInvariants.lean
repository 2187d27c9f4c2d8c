import SandboxNet.Proofs.HostTable

/-! Hosts reached by calls, and what holds of all of them: veth ends come in pairs, and every link
of a named namespace lies in a registered one. -/
namespace SandboxNet.Host

variable {h h' : Host} {id k p : LinkId} {l : Link}

/-- One change that went through. -/
inductive Change (h h' : Host) : Prop where
  | addVeth {a b : String} (ok : h.addVeth a b = .ok h')
  | addBridge {b : String} (ok : h.addBridge b = .ok h')
  | deleteLink {a : String} (ok : h.deleteLink a = .ok h')
  | setAdmin {netns : Option String} {a : String} {up : Bool} (ok : h.setAdmin netns a up = .ok h')
  | setMaster {a : String} {master : Option String} (ok : h.setMaster a master = .ok h')
  | setNetns {a ns : String} (ok : h.setNetns a ns = .ok h')
  | addAddress {a address : String} (ok : h.addAddress a address = .ok h')
  | addNamespace {ns : String} (ok : h.addNamespace ns = .ok h')
  | deleteNamespace {ns : String} (ok : h.deleteNamespace ns = .ok h')

/-- The hosts that some sequence of calls leads to. -/
inductive Reachable : Host → Prop where
  | initial : Reachable .initial
  | bare : Reachable .bare
  | call {h : Host} (c : NetCall) (hr : Reachable h) : Reachable (h.answer c).2

theorem change_cases (r : Except NetError Host) :
    (h.change r = (.ok (), (h.change r).2) ∧ r = .ok (h.change r).2) ∨
      ∃ e, r = .error e ∧ h.change r = (.error e, h) := by
  cases r with
  | ok h' => exact Or.inl ⟨rfl, rfl⟩
  | error e => exact Or.inr ⟨e, rfl, rfl⟩

/-- A call changes nothing or makes one of the nine changes. -/
theorem answer_host (h : Host) (c : NetCall) : (h.answer c).2 = h ∨ Change h (h.answer c).2 := by
  have hc : ∀ r : Except NetError Host, (∀ h', r = .ok h' → Change h h') →
      (h.change r).2 = h ∨ Change h (h.change r).2 := by
    intro r hr
    obtain ⟨_, ok⟩ | ⟨e, _, he⟩ := change_cases (h := h) r
    · exact Or.inr (hr _ ok)
    · exact Or.inl (by rw [he])
  cases c with
  | link | links | addresses | namespaces => exact Or.inl rfl
  | addVeth => exact hc _ fun _ ok => .addVeth ok
  | addBridge => exact hc _ fun _ ok => .addBridge ok
  | deleteLink => exact hc _ fun _ ok => .deleteLink ok
  | setAdmin => exact hc _ fun _ ok => .setAdmin ok
  | setMaster => exact hc _ fun _ ok => .setMaster ok
  | setNetns => exact hc _ fun _ ok => .setNetns ok
  | addAddress => exact hc _ fun _ ok => .addAddress ok
  | addNamespace => exact hc _ fun _ ok => .addNamespace ok
  | deleteNamespace => exact hc _ fun _ ok => .deleteNamespace ok

/-- What is kept by every change, and holds without any link, holds of every host reached. -/
theorem Reachable.induct {P : Host → Prop} (hr : Reachable h) (initial : P .initial)
    (bare : P .bare) (step : ∀ h h', P h → Change h h' → P h') : P h := by
  induction hr with
  | initial => exact initial
  | bare => exact bare
  | @call h c _ ih =>
    obtain he | hc := answer_host h c
    · rw [he]
      exact ih
    · exact step _ _ ih hc

/-- What is at a place, apart from its settings. -/
def deviceAt (h : Host) (id : LinkId) : Option Device :=
  h.links[id]?.map (·.device)

/-- The other end of a veth end is another one, is there, and points back. -/
def Paired (h : Host) : Prop :=
  ∀ id p, h.deviceAt id = some (.veth p) → p ≠ id ∧ h.deviceAt p = some (.veth id)

theorem deviceAt_of_some (hl : h.links[id]? = some l) : h.deviceAt id = some l.device := by
  simp [deviceAt, hl]

theorem deviceAt_ne_veth (hl : h.links[id]? = none) (p : LinkId) :
    h.deviceAt id ≠ some (.veth p) := by
  simp [deviceAt, hl]

theorem Paired.peer (hp : Paired h) (hl : h.links[id]? = some l) (hd : l.device = .veth p) :
    p ≠ id ∧ ∃ l', h.links[p]? = some l' ∧ l'.device = .veth id := by
  obtain ⟨hne, hb⟩ := hp id p (by rw [deviceAt_of_some hl, hd])
  exact ⟨hne, Option.map_eq_some_iff.mp hb⟩

theorem Paired.of_deviceAt (hp : Paired h) (he : ∀ id, h'.deviceAt id = h.deviceAt id) :
    Paired h' := by
  intro id p hid
  rw [he] at hid ⊢
  exact hp id p hid

theorem deviceAt_update {f : Link → Link} (hf : ∀ l, (f l).device = l.device) (id : LinkId) :
    (h.update k f).deviceAt id = h.deviceAt id := by
  simp only [deviceAt, update_links]
  by_cases he : id = k
  · subst he
    cases h.links[id]? <;> simp [hf]
  · simp [he]

theorem release_device (b id : LinkId) (l : Link) : (release b id l).device = l.device := by
  simp only [release]
  split <;> rfl

theorem paired_addVeth {a b : String} (hp : Paired h) (ok : h.addVeth a b = .ok h') :
    Paired h' := by
  obtain ⟨ha, hb, hab, rfl⟩ := addVeth_eq_ok.mp ok
  have hab' : (⟨none, a⟩ : LinkId) ≠ ⟨none, b⟩ := fun he => hab (congrArg LinkId.name he)
  -- no pair of the old table ends at one of the two new places
  have old : ∀ id p, h.deviceAt id = some (.veth p) → p ≠ ⟨none, a⟩ ∧ p ≠ ⟨none, b⟩ := by
    intro id p hid
    have hb' := (hp id p hid).2
    constructor <;> rintro rfl <;> simp_all [deviceAt]
  intro id p
  simp only [deviceAt, links_insert]
  by_cases h1 : id = ⟨none, b⟩
  · subst h1
    simp only [if_true, Option.map_some, Link.fresh, Option.some.injEq, Device.veth.injEq]
    rintro rfl
    simp [hab']
  · by_cases h2 : id = ⟨none, a⟩
    · subst h2
      simp only [hab', if_false, if_true, Option.map_some, Link.fresh, Option.some.injEq,
        Device.veth.injEq]
      rintro rfl
      simp [hab'.symm]
    · simp only [h1, h2, if_false]
      intro hid
      obtain ⟨hpa, hpb⟩ := old id p hid
      simp only [hpa, hpb, if_false]
      exact hp id p hid

theorem paired_insert (hp : Paired h) {netns : Std.ExtTreeSet String} {d : Device}
    (hk : h.links[k]? = none) (hd : ∀ p, d ≠ .veth p) :
    Paired ⟨h.links.insert k (.fresh d), netns⟩ := by
  intro id p
  simp only [deviceAt, links_insert]
  by_cases he : id = k
  · simp [he, Link.fresh, hd]
  · simp only [he, if_false]
    intro hid
    obtain ⟨hne, hb⟩ := hp id p hid
    have hpk : p ≠ k := by
      rintro rfl
      simp [deviceAt, hk] at hb
    simp only [hpk, if_false]
    exact ⟨hne, hb⟩

/-- Taking links away keeps the pairs if no end is left without its other end. -/
theorem Paired.restrict (hp : Paired h) (gone : LinkId → Prop) [DecidablePred gone]
    (closed : ∀ id p, h.deviceAt id = some (.veth p) → gone p → gone id)
    (he : ∀ id, h'.deviceAt id = if gone id then none else h.deviceAt id) : Paired h' := by
  intro id p
  rw [he, he]
  by_cases hid : gone id
  · simp [hid]
  · simp only [hid, if_false]
    intro h1
    obtain ⟨hne, h2⟩ := hp id p h1
    have hpg : ¬ gone p := fun hg => hid (closed id p h1 hg)
    simp only [hpg, if_false]
    exact ⟨hne, h2⟩

/-- What a removal does to any row, whatever is removed. -/
theorem remove_row (h : Host) (k id : LinkId) : (h.remove k).links[id]? =
    if id = k ∨ h.deviceAt k = some (.veth id) then none
    else if h.deviceAt k = some .bridge then h.links[id]?.map (release k id)
    else h.links[id]? := by
  cases hk : h.links[k]? with
  | none =>
    have hd : h.deviceAt k = none := by simp [deviceAt, hk]
    rw [remove_of_none hk, hd]
    by_cases he : id = k <;> simp [he, hk]
  | some l =>
    rw [deviceAt_of_some hk]
    cases hd : l.device with
    | veth q => simp [remove_veth hk hd, @eq_comm _ q]
    | bridge => simp [remove_bridge hk hd]
    | loopback => simp [remove_loopback hk hd]

theorem remove_deviceAt (h : Host) (k id : LinkId) : (h.remove k).deviceAt id =
    if id = k ∨ h.deviceAt k = some (.veth id) then none else h.deviceAt id := by
  rw [deviceAt, remove_row]
  split
  · rfl
  · split <;> simp [deviceAt, Function.comp_def, release_device]

theorem paired_remove (hp : Paired h) (k : LinkId) : Paired (h.remove k) := by
  apply hp.restrict (fun id => id = k ∨ h.deviceAt k = some (.veth id))
  · rintro id p hid (rfl | hk)
    · exact Or.inr (hp id p hid).2
    · -- an end has one other end only
      have hback := (hp id p hid).2.symm.trans (hp k p hk).2
      simp only [Option.some.injEq, Device.veth.injEq] at hback
      exact Or.inl hback
  · exact remove_deviceAt h k

/-- The moved end takes its place in the pair along, and nothing else moves. -/
theorem setNetns_deviceAt {a ns : String} (hp : Paired h) (ok : h.setNetns a ns = .ok h') :
    ∃ d, h.deviceAt ⟨none, a⟩ = some d ∧ h.deviceAt ⟨some ns, a⟩ = none ∧
      ∀ id, h'.deviceAt id =
        if id = ⟨some ns, a⟩ then some d
        else if d = .veth id then some (.veth ⟨some ns, a⟩)
        else if id = ⟨none, a⟩ then none
        else h.deviceAt id := by
  obtain ⟨_, ht, l, hl, rfl⟩ := setNetns_eq_ok.mp ok
  refine ⟨l.device, deviceAt_of_some hl, by simp [deviceAt, ht], fun id => ?_⟩
  simp only [deviceAt, links_insert, redirect_links, links_erase]
  split
  · rfl
  · split
    · rename_i hd
      obtain ⟨hne, l', hl', _⟩ := hp.peer hl hd
      simp [hne, hl']
    · split <;> rfl

theorem paired_setNetns {a ns : String} (hp : Paired h) (ok : h.setNetns a ns = .ok h') :
    Paired h' := by
  obtain ⟨d, hd, hfree, he⟩ := setNetns_deviceAt hp ok
  -- no end has its other end at the place that was free
  have hto : ∀ id p, h.deviceAt id = some (.veth p) → p ≠ ⟨some ns, a⟩ := by
    rintro id p hid rfl
    rw [(hp id _ hid).2] at hfree
    cases hfree
  intro id p
  rw [he, he]
  by_cases h1 : id = ⟨some ns, a⟩
  · subst h1
    simp only [if_true, Option.some.injEq]
    rintro rfl
    simp [hto _ p hd]
  by_cases h2 : d = .veth id
  · simp only [h1, h2, if_false, if_true, Option.some.injEq, Device.veth.injEq]
    rintro rfl
    exact ⟨Ne.symm h1, by simp⟩
  by_cases h3 : id = ⟨none, a⟩
  · subst h3
    simp [h2]
  simp only [h1, h2, h3, if_false]
  intro hid
  obtain ⟨hne, hb⟩ := hp id p hid
  have hps : p ≠ ⟨none, a⟩ := by
    rintro rfl
    exact h2 (Option.some.inj (hd.symm.trans hb))
  have hpd : d ≠ .veth p := by
    rintro rfl
    have hback := hb.symm.trans (hp _ p hd).2
    simp only [Option.some.injEq, Device.veth.injEq] at hback
    exact h3 hback
  simp only [hto id p hid, hpd, hps, if_false]
  exact ⟨hne, hb⟩

/-- No link of this namespace is in a bridge. -/
def Unenslaved (h : Host) (ns : String) : Prop :=
  ∀ (id : LinkId) (l : Link), h.links[id]? = some l → id.netns = some ns → l.master = none

/-- Inside such a namespace, taking a link away changes no other row but that of its other end. -/
theorem remove_inside {ns : String} (hp : Paired h) (hm : Unenslaved h ns)
    (hk : k.netns = some ns) : (h.remove k).links[id]? = some l ↔
      h.links[id]? = some l ∧ id ≠ k ∧ l.device ≠ .veth k := by
  -- even a bridge has no link to release
  have hsame : h.links[id]?.map (release k id) = h.links[id]? := by
    cases hl : h.links[id]? with
    | none => rfl
    | some l =>
      simp only [Option.map_some, Option.some.injEq, release, ite_eq_right_iff, and_imp]
      intro hn hma
      rw [hm id l hl (hn.trans hk)] at hma
      cases hma
  rw [remove_row, hsame, ite_self]
  split
  · rename_i hgone
    refine ⟨fun hl => (by cases hl), ?_⟩
    rintro ⟨hl, hne, hnd⟩
    rcases hgone with he | hd
    · exact absurd he hne
    · have hback := (deviceAt_of_some hl).symm.trans (hp k id hd).2
      exact absurd (Option.some.inj hback) hnd
  · rename_i hkept
    refine ⟨fun hl => ⟨hl, mt Or.inl hkept, fun hd => hkept (Or.inr ?_)⟩, And.left⟩
    exact (hp id k (by rw [deviceAt_of_some hl, hd])).2

/-- Taking links of such a namespace away one by one, in any order, takes them and their other ends
away and changes nothing else. -/
theorem foldl_remove_inside {ns : String} {ids : List LinkId} (hp : Paired h)
    (hm : Unenslaved h ns) (hin : ∀ k ∈ ids, k.netns = some ns) :
    (ids.foldl remove h).links[id]? = some l ↔
      h.links[id]? = some l ∧ id ∉ ids ∧ ∀ p, l.device = .veth p → p ∉ ids := by
  induction ids generalizing h with
  | nil => simp
  | cons k ids ih =>
    have hk : k.netns = some ns := hin k List.mem_cons_self
    have hm' : Unenslaved (h.remove k) ns := by
      intro id l hl hn
      exact hm id l ((remove_inside hp hm hk).mp hl).1 hn
    rw [List.foldl_cons, ih (paired_remove hp k) hm' fun k hk => hin k (List.mem_cons_of_mem _ hk),
      remove_inside hp hm hk]
    simp only [List.mem_cons, not_or]
    constructor
    · rintro ⟨⟨hl, hne, hnd⟩, hids, hpeer⟩
      refine ⟨hl, ⟨hne, hids⟩, fun p hd => ⟨?_, hpeer p hd⟩⟩
      rintro rfl
      exact hnd hd
    · rintro ⟨hl, ⟨hne, hids⟩, hpeer⟩
      exact ⟨⟨hl, hne, fun hd => (hpeer k hd).1 rfl⟩, hids, fun p hd => (hpeer p hd).2⟩

theorem foldl_remove_netns (ids : List LinkId) : (ids.foldl remove h).netns = h.netns := by
  induction ids generalizing h with
  | nil => rfl
  | cons k ids ih => rw [List.foldl_cons, ih, remove_netns]

theorem foldl_remove_paired (hp : Paired h) (ids : List LinkId) : Paired (ids.foldl remove h) := by
  induction ids generalizing h with
  | nil => exact hp
  | cons k ids ih => exact ih (paired_remove hp k)

/-- Deleting a namespace keeps exactly the links that neither are inside nor end inside. -/
theorem deleteNamespace_links {ns : String} (hp : Paired h) (hm : Unenslaved h ns)
    (ok : h.deleteNamespace ns = .ok h') : h'.links[id]? = some l ↔
      h.links[id]? = some l ∧ id.netns ≠ some ns ∧
        ∀ p, l.device = .veth p → p.netns ≠ some ns := by
  obtain ⟨_, rfl⟩ := deleteNamespace_eq_ok.mp ok
  have hp' : Paired ⟨h.links, h.netns.erase ns⟩ := hp
  rw [foldl_remove_inside hp' hm fun k hk => (mem_linksIn.mp hk).1]
  simp only [mem_linksIn, not_and, not_exists]
  refine and_congr_right fun hl => ?_
  constructor
  · rintro ⟨hin, hpeer⟩
    refine ⟨fun hn => hin hn l hl, fun p hd hn => ?_⟩
    obtain ⟨_, lp, hlp, _⟩ := hp.peer hl hd
    exact hpeer p hd hn lp hlp
  · rintro ⟨hin, hpeer⟩
    exact ⟨fun hn => absurd hn hin, fun p hd hn => absurd hn (hpeer p hd)⟩

theorem deleteNamespace_netns {ns : String} (ok : h.deleteNamespace ns = .ok h') :
    h'.netns = h.netns.erase ns := by
  obtain ⟨_, rfl⟩ := deleteNamespace_eq_ok.mp ok
  exact foldl_remove_netns _

/-- A link of a named namespace lies in a registered one and in no bridge, and every registered
namespace has its loopback. -/
structure Contained (h : Host) : Prop where
  registered : ∀ ns name l, h.links[(⟨some ns, name⟩ : LinkId)]? = some l → ns ∈ h.netns
  loopback : ∀ ns ∈ h.netns, h.deviceAt ⟨some ns, "lo"⟩ = some .loopback
  unenslaved : ∀ ns, Unenslaved h ns

theorem Contained.absent {ns name : String} (hc : Contained h) (hn : ns ∉ h.netns) :
    h.links[(⟨some ns, name⟩ : LinkId)]? = none := by
  cases hl : h.links[(⟨some ns, name⟩ : LinkId)]? with
  | none => rfl
  | some l => exact absurd (hc.registered ns name l hl) hn

theorem paired_change (hp : Paired h) (hk : Contained h) (hc : Change h h') : Paired h' := by
  cases hc with
  | addVeth ok => exact paired_addVeth hp ok
  | addBridge ok =>
    obtain ⟨hb, rfl⟩ := addBridge_eq_ok.mp ok
    exact paired_insert hp hb (by simp)
  | deleteLink ok =>
    obtain ⟨_, rfl⟩ := deleteLink_eq_ok.mp ok
    exact paired_remove hp _
  | setAdmin ok =>
    obtain ⟨_, rfl⟩ := setAdmin_eq_ok.mp ok
    exact hp.of_deviceAt (deviceAt_update fun _ => rfl)
  | setMaster ok =>
    obtain ⟨_, _, rfl⟩ := setMaster_eq_ok.mp ok
    exact hp.of_deviceAt (deviceAt_update fun _ => rfl)
  | setNetns ok => exact paired_setNetns hp ok
  | addAddress ok =>
    obtain ⟨_, _, _, rfl⟩ := addAddress_eq_ok.mp ok
    exact hp.of_deviceAt (deviceAt_update fun _ => rfl)
  | addNamespace ok =>
    obtain ⟨hn, rfl⟩ := addNamespace_eq_ok.mp ok
    exact paired_insert hp (hk.absent hn) (by simp)
  | deleteNamespace ok =>
    obtain ⟨_, rfl⟩ := deleteNamespace_eq_ok.mp ok
    apply foldl_remove_paired
    exact hp

/-- An update that keeps the device, and frees from a bridge or keeps that too, or is made in the
default namespace. -/
theorem contained_update {f : Link → Link} (hc : Contained h) (hf : ∀ l, (f l).device = l.device)
    (hm : k.netns = none ∨ ∀ l, (f l).master = l.master) : Contained (h.update k f) := by
  constructor
  · intro ns name l
    rw [update_links]
    split
    · rename_i he
      intro hl
      obtain ⟨l', hl', _⟩ := Option.map_eq_some_iff.mp hl
      exact hc.registered ns name l' (he ▸ hl')
    · exact hc.registered ns name l
  · intro ns hn
    rw [deviceAt_update hf]
    exact hc.loopback ns hn
  · intro ns id l
    rw [update_links]
    split
    · rename_i he
      subst he
      intro hl hn
      obtain ⟨l', hl', rfl⟩ := Option.map_eq_some_iff.mp hl
      rcases hm with hm | hm
      · rw [hm] at hn
        exact absurd hn (by simp)
      · rw [hm]
        exact hc.unenslaved ns id l' hl' hn
    · exact hc.unenslaved ns id l

/-- A link put into the default namespace is none of those that containment is about. -/
theorem contained_insert {name : String} (hc : Contained h) (l : Link) :
    Contained ⟨h.links.insert ⟨none, name⟩ l, h.netns⟩ := by
  constructor
  · intro ns name' l'
    rw [links_insert]
    exact hc.registered ns name' l'
  · intro ns hn
    simp only [deviceAt, links_insert]
    exact hc.loopback ns hn
  · intro ns id l'
    rw [links_insert]
    split
    · rename_i he
      simp [he]
    · exact hc.unenslaved ns id l'

/-- What is left after a removal was there before; at most it has left its bridge. -/
theorem remove_origin (hl : (h.remove k).links[id]? = some l) :
    ∃ l₀, h.links[id]? = some l₀ ∧ (l₀.master = none → l.master = none) := by
  rw [remove_row] at hl
  split at hl
  · cases hl
  split at hl
  · obtain ⟨l₀, hl₀, rfl⟩ := Option.map_eq_some_iff.mp hl
    refine ⟨l₀, hl₀, fun hm => ?_⟩
    simp only [release]
    split
    · rfl
    · exact hm
  · exact ⟨l, hl, fun hm => hm⟩

theorem remove_loopback_kept (hp : Paired h) (hne : id ≠ k)
    (hlo : h.deviceAt id = some .loopback) : (h.remove k).deviceAt id = some .loopback := by
  have hnd : h.deviceAt k ≠ some (.veth id) := by
    intro hd
    cases hlo.symm.trans (hp k id hd).2
  rw [remove_deviceAt, if_neg (not_or.mpr ⟨hne, hnd⟩), hlo]

theorem contained_remove {name : String} (hp : Paired h) (hc : Contained h) :
    Contained (h.remove ⟨none, name⟩) := by
  constructor
  · intro ns name' l hl
    obtain ⟨l₀, hl₀, _⟩ := remove_origin hl
    rw [remove_netns]
    exact hc.registered ns name' l₀ hl₀
  · intro ns hn
    rw [remove_netns] at hn
    exact remove_loopback_kept hp (by simp) (hc.loopback ns hn)
  · intro ns id l hl hn
    obtain ⟨l₀, hl₀, hm⟩ := remove_origin hl
    exact hm (hc.unenslaved ns id l₀ hl₀ hn)

/-- After a move there is the link that moved, out of its bridge, and what was there before. -/
theorem setNetns_origin {a ns : String} (ok : h.setNetns a ns = .ok h')
    (hl : h'.links[id]? = some l) : (id = ⟨some ns, a⟩ ∧ l.master = none) ∨
      ∃ l₀, h.links[id]? = some l₀ ∧ l.master = l₀.master := by
  obtain ⟨_, _, moved, _, rfl⟩ := setNetns_eq_ok.mp ok
  rw [links_insert, redirect_links, links_erase] at hl
  split at hl
  · rename_i he
    cases hl
    exact Or.inl ⟨he, rfl⟩
  right
  split at hl
  · obtain ⟨l₀, hl₀, rfl⟩ := Option.map_eq_some_iff.mp hl
    split at hl₀
    · cases hl₀
    · exact ⟨l₀, hl₀, rfl⟩
  · split at hl
    · cases hl
    · exact ⟨l, hl, rfl⟩

theorem contained_setNetns {a ns : String} (hp : Paired h) (hc : Contained h)
    (ok : h.setNetns a ns = .ok h') : Contained h' := by
  have hnetns : h'.netns = h.netns := by
    obtain ⟨_, _, _, _, rfl⟩ := setNetns_eq_ok.mp ok
    rfl
  constructor
  · intro ns' name l hl
    rw [hnetns]
    obtain ⟨he, _⟩ | ⟨l₀, hl₀, _⟩ := setNetns_origin ok hl
    · simp only [LinkId.mk.injEq, Option.some.injEq] at he
      rw [he.1]
      exact (setNetns_eq_ok.mp ok).1
    · exact hc.registered ns' name l₀ hl₀
  · intro ns' hn
    have hlo := hc.loopback ns' (hnetns ▸ hn)
    obtain ⟨d, hd, hfree, hdev⟩ := setNetns_deviceAt hp ok
    -- the place taken was free, and the end pointed to is a veth end
    have hne : (⟨some ns', "lo"⟩ : LinkId) ≠ ⟨some ns, a⟩ := by
      intro he
      rw [he, hfree] at hlo
      cases hlo
    have hnd : d ≠ .veth ⟨some ns', "lo"⟩ := by
      rintro rfl
      cases hlo.symm.trans (hp _ _ hd).2
    rw [hdev, if_neg hne, if_neg hnd, if_neg (by simp), hlo]
  · intro ns' id l hl hn
    obtain ⟨_, hm⟩ | ⟨l₀, hl₀, hm⟩ := setNetns_origin ok hl
    · exact hm
    · rw [hm]
      exact hc.unenslaved ns' id l₀ hl₀ hn

theorem contained_addNamespace {ns : String} (hc : Contained h)
    (ok : h.addNamespace ns = .ok h') : Contained h' := by
  obtain ⟨hn, rfl⟩ := addNamespace_eq_ok.mp ok
  constructor
  · intro ns' name l
    simp only [links_insert, Std.ExtTreeSet.mem_insert, Std.LawfulEqCmp.compare_eq_iff_eq]
    split
    · rename_i he
      intro _
      simp_all
    · intro hl
      exact Or.inr (hc.registered ns' name l hl)
  · intro ns' hn'
    simp only [deviceAt, links_insert]
    by_cases he : ns' = ns
    · simp [he, Link.fresh]
    · simp only [Std.ExtTreeSet.mem_insert, Std.LawfulEqCmp.compare_eq_iff_eq] at hn'
      rw [if_neg (by simp [he])]
      exact hc.loopback ns' (hn'.resolve_left (Ne.symm he))
  · intro ns' id l
    simp only [links_insert]
    split
    · rintro hl -
      rw [← Option.some.inj hl]
      rfl
    · exact hc.unenslaved ns' id l

theorem contained_deleteNamespace {ns : String} (hp : Paired h) (hc : Contained h)
    (ok : h.deleteNamespace ns = .ok h') : Contained h' := by
  have hrow : ∀ (id : LinkId) (l : Link), h'.links[id]? = some l ↔ h.links[id]? = some l ∧
      id.netns ≠ some ns ∧ ∀ p, l.device = .veth p → p.netns ≠ some ns :=
    fun _ _ => deleteNamespace_links hp (hc.unenslaved ns) ok
  constructor
  · intro ns' name l hl
    obtain ⟨hl₀, hne, _⟩ := (hrow _ _).mp hl
    rw [deleteNamespace_netns ok]
    simp only [Std.ExtTreeSet.mem_erase, ne_eq, Std.LawfulEqCmp.compare_eq_iff_eq]
    refine ⟨?_, hc.registered ns' name l hl₀⟩
    rintro rfl
    exact hne rfl
  · intro ns' hn
    rw [deleteNamespace_netns ok] at hn
    simp only [Std.ExtTreeSet.mem_erase, ne_eq, Std.LawfulEqCmp.compare_eq_iff_eq] at hn
    obtain ⟨l, hl, hd⟩ := Option.map_eq_some_iff.mp (hc.loopback ns' hn.2)
    have hl' : h'.links[(⟨some ns', "lo"⟩ : LinkId)]? = some l := by
      refine (hrow _ _).mpr ⟨hl, ?_, ?_⟩
      · simpa using Ne.symm hn.1
      · intro p hp'
        simp [hd] at hp'
    rw [deviceAt_of_some hl', hd]
  · intro ns' id l hl hn
    exact hc.unenslaved ns' id l ((hrow id l).mp hl).1 hn

theorem contained_change (hp : Paired h) (hk : Contained h) (hc : Change h h') : Contained h' := by
  cases hc with
  | addVeth ok =>
    obtain ⟨_, _, _, rfl⟩ := addVeth_eq_ok.mp ok
    exact contained_insert (contained_insert hk _) _
  | addBridge ok =>
    obtain ⟨_, rfl⟩ := addBridge_eq_ok.mp ok
    exact contained_insert hk _
  | deleteLink ok =>
    obtain ⟨_, rfl⟩ := deleteLink_eq_ok.mp ok
    exact contained_remove hp hk
  | setAdmin ok =>
    obtain ⟨_, rfl⟩ := setAdmin_eq_ok.mp ok
    exact contained_update hk (fun _ => rfl) (Or.inr fun _ => rfl)
  | setMaster ok =>
    obtain ⟨_, _, rfl⟩ := setMaster_eq_ok.mp ok
    exact contained_update hk (fun _ => rfl) (Or.inl rfl)
  | setNetns ok => exact contained_setNetns hp hk ok
  | addAddress ok =>
    obtain ⟨_, _, _, rfl⟩ := addAddress_eq_ok.mp ok
    exact contained_update hk (fun _ => rfl) (Or.inr fun _ => rfl)
  | addNamespace ok => exact contained_addNamespace hk ok
  | deleteNamespace ok => exact contained_deleteNamespace hp hk ok

theorem bare_links (id : LinkId) : bare.links[id]? = none := by
  simp [bare]

theorem initial_links (id : LinkId) :
    initial.links[id]? = if id = ⟨none, "lo"⟩ then some (.fresh .loopback) else none := by
  simp [initial, links_insert]

theorem bare_sound : Paired bare ∧ Contained bare := by
  refine ⟨?_, ?_, ?_, ?_⟩
  · intro id p
    simp [deviceAt, bare_links]
  · intro ns name l
    simp [bare_links]
  · intro ns hn
    simp [bare] at hn
  · intro ns id l
    simp [bare_links]

theorem initial_sound : Paired initial ∧ Contained initial := by
  obtain ⟨hp, hc⟩ := bare_sound
  exact ⟨paired_insert hp (bare_links _) (by simp), contained_insert hc _⟩

theorem Reachable.sound (hr : Reachable h) : Paired h ∧ Contained h := by
  apply hr.induct initial_sound bare_sound
  rintro h h' ⟨hp, hk⟩ hc
  exact ⟨paired_change hp hk hc, contained_change hp hk hc⟩

end SandboxNet.Host
