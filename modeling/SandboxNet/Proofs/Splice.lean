import SandboxNet.Proofs.HostInvariants
import SandboxNet.Proofs.WireNames

/-! A host with the pair of one sandbox put in, at every stage of wiring it. Taking the pair out by
either end gives the host without it back. -/
namespace SandboxNet

/-- A link turned up. -/
abbrev raised (l : Link) : Link := { l with adminUp := true }

theorem deviceAt_raised (h : Host) (k id : LinkId) :
    (h.update k raised).deviceAt id = h.deviceAt id := by
  rw [Host.deviceAt_update]
  exact fun _ => rfl

/-- The host is `base` and the pair of the sandbox, whose other end is at `place`. -/
structure Spliced (base : Host) (sandbox : String) (place : LinkId) (near far : Link)
    (h : Host) : Prop where
  row : ∀ id : LinkId, h.links[id]? =
    if id = hostEnd sandbox then some near else if id = place then some far else base.links[id]?
  netns : h.netns = base.netns
  placed : place = looseEnd ∨ place = innerEnd sandbox
  nearFree : base.links[hostEnd sandbox]? = none
  looseFree : base.links[looseEnd]? = none
  farFree : base.links[place]? = none
  nearDevice : near.device = .veth place
  farDevice : far.device = .veth (hostEnd sandbox)

namespace Spliced

variable {base h h' : Host} {s : String} {place k : LinkId} {near far l : Link} {f : Link → Link}

theorem place_ne (hs : Spliced base s place near far h) : place ≠ hostEnd s := by
  rcases hs.placed with rfl | rfl <;> simp

theorem near_row (hs : Spliced base s place near far h) : h.links[hostEnd s]? = some near := by
  rw [hs.row, if_pos rfl]

theorem far_row (hs : Spliced base s place near far h) : h.links[place]? = some far := by
  rw [hs.row, if_neg hs.place_ne, if_pos rfl]

theorem other_row (hs : Spliced base s place near far h) (hn : k ≠ hostEnd s) (hp : k ≠ place) :
    h.links[k]? = base.links[k]? := by
  rw [hs.row, if_neg hn, if_neg hp]

/-- What is at a place of the base is there, unchanged. -/
theorem base_row (hs : Spliced base s place near far h) (hl : base.links[k]? = some l) :
    h.links[k]? = some l := by
  rw [hs.other_row, hl]
  · rintro rfl
    simp [hs.nearFree] at hl
  · rintro rfl
    simp [hs.farFree] at hl

theorem base_device {d : Device} (hs : Spliced base s place near far h)
    (hd : base.deviceAt k = some d) : h.deviceAt k = some d := by
  obtain ⟨l, hl, hd⟩ := Option.map_eq_some_iff.mp hd
  rw [Host.deviceAt_of_some (hs.base_row hl), hd]

theorem of_addVeth (ok : base.addVeth ("vh-" ++ s) "host0" = .ok h) :
    Spliced base s looseEnd (.fresh (.veth looseEnd)) (.fresh (.veth (hostEnd s))) h := by
  obtain ⟨hn, hf, _, rfl⟩ := Host.addVeth_eq_ok.mp ok
  refine ⟨fun id => ?_, rfl, Or.inl rfl, hn, hf, hf, rfl, rfl⟩
  simp only [Host.links_insert]
  by_cases h1 : id = hostEnd s
  · simp [h1]
  · simp [h1]

theorem update_near (hs : Spliced base s place near far h) (hf : (f near).device = near.device) :
    Spliced base s place (f near) far (h.update (hostEnd s) f) := by
  refine ⟨fun id => ?_, hs.netns, hs.placed, hs.nearFree, hs.looseFree, hs.farFree, ?_,
    hs.farDevice⟩
  · rw [Host.update_links]
    by_cases h1 : id = hostEnd s
    · simp [h1, hs.near_row]
    · simp [h1, hs.row]
  · rw [hf, hs.nearDevice]

theorem update_far (hs : Spliced base s place near far h) (hf : (f far).device = far.device) :
    Spliced base s place near (f far) (h.update place f) := by
  refine ⟨fun id => ?_, hs.netns, hs.placed, hs.nearFree, hs.looseFree, hs.farFree,
    hs.nearDevice, ?_⟩
  · rw [Host.update_links]
    by_cases h1 : id = place
    · simp [h1, hs.place_ne, hs.far_row]
    · simp [h1, hs.row]
  · rw [hf, hs.farDevice]

/-- A change of a link of the base is a change of the base. -/
theorem update_base (hs : Spliced base s place near far h) (hk : base.links[k]? = some l) :
    Spliced (base.update k f) s place near far (h.update k f) := by
  have hnone : ∀ id : LinkId, base.links[id]? = none → (base.update k f).links[id]? = none := by
    intro id hid
    rw [Host.update_links]
    split
    · rename_i he
      rw [← he, hid]
      rfl
    · exact hid
  refine ⟨fun id => ?_, hs.netns, hs.placed, hnone _ hs.nearFree, hnone _ hs.looseFree,
    hnone _ hs.farFree, hs.nearDevice, hs.farDevice⟩
  rw [Host.update_links, Host.update_links, hs.base_row hk, hk, hs.row]
  by_cases h1 : id = k
  · subst h1
    have hn : id ≠ hostEnd s := by
      rintro rfl
      simp [hs.nearFree] at hk
    have hp : id ≠ place := by
      rintro rfl
      simp [hs.farFree] at hk
    simp [hn, hp]
  · simp [h1]

/-- The move of the other end into the namespace of the sandbox. -/
theorem move (hs : Spliced base s looseEnd near far h)
    (ok : h.setNetns "host0" ("corral-" ++ s) = .ok h') :
    Spliced base s (innerEnd s) { near with device := .veth (innerEnd s) }
      { far with master := none, adminUp := false } h' := by
  obtain ⟨_, hfree, l, hl, rfl⟩ := Host.setNetns_eq_ok.mp ok
  have hlf : l = far := Option.some.inj (hl.symm.trans hs.far_row)
  subst hlf
  have hbase : base.links[innerEnd s]? = none := by
    rw [← hs.other_row (k := innerEnd s) (by simp) (by simp)]
    exact hfree
  refine ⟨fun id => ?_, hs.netns, Or.inr rfl, hs.nearFree, hs.looseFree, hbase, rfl, hs.farDevice⟩
  simp only [Host.links_insert, Host.redirect_links, Host.links_erase, hs.farDevice,
    Device.veth.injEq]
  by_cases h1 : id = hostEnd s
  · subst h1
    simp [hs.near_row]
  · by_cases h2 : id = innerEnd s
    · simp [h2]
    · by_cases h3 : id = looseEnd
      · subst h3
        simp [hs.looseFree]
      · simp [h1, h2, h3, Ne.symm h1, hs.row]

/-- The base is what is left when either end is taken away. -/
theorem remove_end (hs : Spliced base s place near far h) (hk : k = hostEnd s ∨ k = place) :
    h.remove k = base := by
  have hrow : ∀ id : LinkId, (h.remove k).links[id]? =
      if id = hostEnd s ∨ id = place then none else h.links[id]? := by
    intro id
    rcases hk with rfl | rfl
    · exact Host.remove_veth hs.near_row hs.nearDevice
    · rw [Host.remove_veth hs.far_row hs.farDevice]
      simp only [or_comm]
  apply Host.ext_rows
  · intro id
    rw [hrow]
    by_cases h1 : id = hostEnd s
    · simp [h1, hs.nearFree]
    · by_cases h2 : id = place
      · simp [h2, hs.farFree]
      · simp [h1, h2, hs.row]
  · rw [Host.remove_netns, hs.netns]

theorem deviceAt_eq (hs : Spliced base s place near far h) (k : LinkId) : h.deviceAt k =
    if k = hostEnd s then some (.veth place) else if k = place then some (.veth (hostEnd s))
    else base.deviceAt k := by
  simp only [Host.deviceAt, hs.row]
  by_cases h1 : k = hostEnd s
  · simp [h1, hs.nearDevice]
  · by_cases h2 : k = place
    · subst h2
      simp [hs.place_ne, hs.farDevice]
    · simp [h1, h2]

end Spliced

end SandboxNet
