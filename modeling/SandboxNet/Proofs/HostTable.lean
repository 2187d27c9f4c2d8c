import SandboxNet.Host.Call

/-! What each change of the host does to the table of links, one row at a time. -/
namespace SandboxNet.Host

variable {h h' : Host} {id k : LinkId} {l : Link}

theorem contains_eq_false_iff (links : LinkTable) (id : LinkId) :
    links.contains id = false ↔ links[id]? = none := by
  rw [Std.ExtTreeMap.contains_eq_isSome_getElem?, Option.isSome_eq_false_iff,
    Option.isNone_iff_eq_none]

theorem contains_iff_some (links : LinkTable) (id : LinkId) :
    links.contains id = true ↔ ∃ l, links[id]? = some l := by
  rw [Std.ExtTreeMap.contains_eq_isSome_getElem?, Option.isSome_iff_exists]

/-- A host is known by its rows and its namespaces. -/
theorem ext_rows (hrows : ∀ id : LinkId, h.links[id]? = h'.links[id]?)
    (hnetns : h.netns = h'.netns) : h = h' := by
  have hlinks : h.links = h'.links := Std.ExtTreeMap.ext_getElem? fun id => hrows id
  cases h
  cases h'
  simp_all

theorem links_insert (links : LinkTable) (k id : LinkId) (l : Link) :
    (links.insert k l)[id]? = if id = k then some l else links[id]? := by
  simp only [Std.ExtTreeMap.getElem?_insert, Std.LawfulEqCmp.compare_eq_iff_eq, @eq_comm _ k id]

theorem links_erase (links : LinkTable) (k id : LinkId) :
    (links.erase k)[id]? = if id = k then none else links[id]? := by
  simp only [Std.ExtTreeMap.getElem?_erase, Std.LawfulEqCmp.compare_eq_iff_eq, @eq_comm _ k id]

theorem links_modify (links : LinkTable) (k id : LinkId) (f : Link → Link) :
    (links.modify k f)[id]? = if id = k then links[k]?.map f else links[id]? := by
  simp only [Std.ExtTreeMap.getElem?_modify, Std.LawfulEqCmp.compare_eq_iff_eq, @eq_comm _ k id]

theorem update_links (h : Host) (k id : LinkId) (f : Link → Link) :
    (h.update k f).links[id]? = if id = k then h.links[k]?.map f else h.links[id]? :=
  links_modify h.links k id f

theorem redirect_links (links : LinkTable) (l : Link) (place id : LinkId) :
    (redirect links l place)[id]? =
      if l.device = .veth id then links[id]?.map ({ · with device := .veth place })
      else links[id]? := by
  cases hd : l.device with
  | veth peer =>
    simp only [redirect, hd, links_modify, Device.veth.injEq]
    by_cases he : id = peer
    · simp [he]
    · simp [he, Ne.symm he]
  | bridge => simp [redirect, hd]
  | loopback => simp [redirect, hd]

theorem remove_of_none (hk : h.links[k]? = none) : h.remove k = h := by
  simp only [remove, hk]

@[simp] theorem remove_netns (h : Host) (k : LinkId) : (h.remove k).netns = h.netns := by
  simp only [remove]
  split
  · rfl
  · split <;> rfl

theorem remove_veth {peer : LinkId} (hk : h.links[k]? = some l) (hd : l.device = .veth peer) :
    (h.remove k).links[id]? = if id = k ∨ id = peer then none else h.links[id]? := by
  simp only [remove, hk, hd, links_erase]
  by_cases he : id = k <;> simp [he]

theorem remove_bridge (hk : h.links[k]? = some l) (hd : l.device = .bridge) :
    (h.remove k).links[id]? = if id = k then none else h.links[id]?.map (release k id) := by
  simp only [remove, hk, hd, Std.ExtTreeMap.getElem?_map, links_erase]
  by_cases he : id = k <;> simp [he]

theorem remove_loopback (hk : h.links[k]? = some l) (hd : l.device = .loopback) :
    (h.remove k).links[id]? = if id = k then none else h.links[id]? := by
  simp only [remove, hk, hd, links_erase]

theorem mem_linksIn {netns : Option String} :
    id ∈ (h.linksIn netns).map (·.1) ↔ id.netns = netns ∧ ∃ l, h.links[id]? = some l := by
  simp only [linksIn, List.mem_map, List.mem_filter, decide_eq_true_eq, Prod.exists,
    Std.ExtTreeMap.mem_toList_iff_getElem?_eq_some]
  constructor
  · rintro ⟨k, l, ⟨hl, hn⟩, rfl⟩
    exact ⟨hn, l, hl⟩
  · rintro ⟨hn, l, hl⟩
    exact ⟨id, l, ⟨hl, hn⟩, rfl⟩

theorem addVeth_eq_ok {a b : String} : h.addVeth a b = .ok h' ↔
    h.links[(⟨none, a⟩ : LinkId)]? = none ∧ h.links[(⟨none, b⟩ : LinkId)]? = none ∧ a ≠ b ∧
      h' = ⟨(h.links.insert ⟨none, a⟩ (.fresh (.veth ⟨none, b⟩))).insert ⟨none, b⟩
        (.fresh (.veth ⟨none, a⟩)), h.netns⟩ := by
  simp only [addVeth, ← contains_eq_false_iff, Bool.or_eq_true, decide_eq_true_eq]
  cases h.links.contains ⟨none, a⟩ <;> cases h.links.contains ⟨none, b⟩ <;>
    by_cases he : a = b <;> simp [he, eq_comm]

theorem addBridge_eq_ok {b : String} : h.addBridge b = .ok h' ↔
    h.links[(⟨none, b⟩ : LinkId)]? = none ∧
      h' = ⟨h.links.insert ⟨none, b⟩ (.fresh .bridge), h.netns⟩ := by
  simp only [addBridge, ← contains_eq_false_iff]
  cases h.links.contains ⟨none, b⟩ <;> simp [eq_comm]

theorem deleteLink_eq_ok {a : String} : h.deleteLink a = .ok h' ↔
    (∃ l, h.links[(⟨none, a⟩ : LinkId)]? = some l) ∧ h' = h.remove ⟨none, a⟩ := by
  simp only [deleteLink, ← contains_iff_some]
  cases h.links.contains ⟨none, a⟩ <;> simp [eq_comm]

theorem setAdmin_eq_ok {netns : Option String} {a : String} {up : Bool} :
    h.setAdmin netns a up = .ok h' ↔
      (∃ l, h.links[(⟨netns, a⟩ : LinkId)]? = some l) ∧
        h' = h.update ⟨netns, a⟩ ({ · with adminUp := up }) := by
  simp only [setAdmin, ← contains_iff_some]
  cases h.links.contains ⟨netns, a⟩ <;> simp [eq_comm]

theorem hasBridge_iff {b : String} : h.hasBridge b = true ↔
    ∃ l, h.links[(⟨none, b⟩ : LinkId)]? = some l ∧ l.device = .bridge := by
  simp only [hasBridge, get?, Option.any_eq_true, decide_eq_true_eq]
  refine exists_congr fun l => and_congr_right fun _ => ?_
  cases hd : l.device <;> simp [Link.kind, hd]

theorem setMaster_eq_ok {a : String} {master : Option String} :
    h.setMaster a master = .ok h' ↔
      (∀ b, master = some b → h.hasBridge b = true) ∧
        (∃ l, h.links[(⟨none, a⟩ : LinkId)]? = some l) ∧
          h' = h.update ⟨none, a⟩ ({ · with master := master }) := by
  simp only [setMaster, ← contains_iff_some]
  cases master with
  | none => cases h.links.contains ⟨none, a⟩ <;> simp [@eq_comm _ h']
  | some b =>
    cases hb : h.hasBridge b <;> cases h.links.contains ⟨none, a⟩ <;>
      simp [hb, Option.filter, @eq_comm _ h']

theorem setNetns_eq_ok {a ns : String} : h.setNetns a ns = .ok h' ↔
    ns ∈ h.netns ∧ h.links[(⟨some ns, a⟩ : LinkId)]? = none ∧
      ∃ l, h.links[(⟨none, a⟩ : LinkId)]? = some l ∧
        h' = ⟨(redirect (h.links.erase ⟨none, a⟩) l ⟨some ns, a⟩).insert ⟨some ns, a⟩
          { l with master := none, adminUp := false }, h.netns⟩ := by
  simp only [setNetns, ← contains_eq_false_iff, Std.ExtTreeSet.mem_iff_contains]
  cases h.netns.contains ns <;> cases h.links.contains ⟨some ns, a⟩ <;>
    cases h.links[(⟨none, a⟩ : LinkId)]? <;> simp [eq_comm]

theorem addAddress_eq_ok {a address : String} : h.addAddress a address = .ok h' ↔
    ∃ l, h.links[(⟨none, a⟩ : LinkId)]? = some l ∧ address ∉ l.addresses ∧
      h' = h.update ⟨none, a⟩ fun l => { l with addresses := l.addresses ++ [address] } := by
  simp only [addAddress, get?]
  cases h.links[(⟨none, a⟩ : LinkId)]? with
  | none => simp
  | some l => by_cases hm : address ∈ l.addresses <;> simp [hm, eq_comm]

theorem addNamespace_eq_ok {ns : String} : h.addNamespace ns = .ok h' ↔
    ns ∉ h.netns ∧
      h' = ⟨h.links.insert ⟨some ns, "lo"⟩ (.fresh .loopback), h.netns.insert ns⟩ := by
  simp only [addNamespace, Std.ExtTreeSet.mem_iff_contains]
  cases h.netns.contains ns <;> simp [eq_comm]

theorem deleteNamespace_eq_ok {ns : String} : h.deleteNamespace ns = .ok h' ↔
    ns ∈ h.netns ∧ h' = ((h.linksIn (some ns)).map (·.1)).foldl remove
      ⟨h.links, h.netns.erase ns⟩ := by
  simp only [deleteNamespace, Std.ExtTreeSet.mem_iff_contains]
  cases h.netns.contains ns <;> simp [eq_comm]

/-- The host with a bridge of this name, which is made if it is not there, and then changed. -/
def bridged (h : Host) (bridge : String) (f : Link → Link) : Host :=
  ⟨h.links.insert ⟨none, bridge⟩
    (f (h.links[(⟨none, bridge⟩ : LinkId)]?.getD (.fresh .bridge))), h.netns⟩

section Bridged

variable {bridge : String}

theorem bridged_row (h : Host) (bridge : String) (f : Link → Link) (id : LinkId) :
    (h.bridged bridge f).links[id]? = if id = ⟨none, bridge⟩ then
      some (f (h.links[id]?.getD (.fresh .bridge))) else h.links[id]? := by
  rw [bridged, links_insert]
  by_cases he : id = ⟨none, bridge⟩
  · simp only [he]
  · simp only [he, if_false]

theorem bridged_self (h : Host) (bridge : String) (f : Link → Link) :
    (h.bridged bridge f).links[(⟨none, bridge⟩ : LinkId)]? =
      some (f (h.links[(⟨none, bridge⟩ : LinkId)]?.getD (.fresh .bridge))) := by
  rw [bridged_row, if_pos rfl]

/-- A bridge that is there is not made again. -/
theorem update_eq_bridged {f : Link → Link} (hl : h.links[(⟨none, bridge⟩ : LinkId)]? = some l) :
    h.update ⟨none, bridge⟩ f = h.bridged bridge f := by
  apply ext_rows
  · intro id
    rw [update_links, bridged_row]
    by_cases he : id = ⟨none, bridge⟩
    · simp [he, hl]
    · simp only [he, if_false]
  · rfl

theorem bridged_bridged (h : Host) (bridge : String) (f g : Link → Link) :
    (h.bridged bridge f).bridged bridge g = h.bridged bridge fun l => g (f l) := by
  apply ext_rows
  · intro id
    rw [bridged_row, bridged_row, bridged_row]
    by_cases he : id = ⟨none, bridge⟩
    · simp [he]
    · simp only [he, if_false]
  · rfl

theorem bridged_id (hl : h.links[(⟨none, bridge⟩ : LinkId)]? = some l) :
    h.bridged bridge (fun l => l) = h := by
  apply ext_rows
  · intro id
    rw [bridged_row]
    by_cases he : id = ⟨none, bridge⟩
    · simp [he, hl]
    · simp only [he, if_false]
  · rfl

theorem addBridge_eq_bridged (ok : h.addBridge bridge = .ok h') :
    h' = h.bridged bridge fun l => l := by
  obtain ⟨hfree, rfl⟩ := addBridge_eq_ok.mp ok
  rw [bridged, hfree]
  rfl

end Bridged

/-- A namespace that is registered is not registered again. -/
theorem insert_registered {netns : Std.ExtTreeSet String} {ns : String} (hn : ns ∈ netns) :
    netns.insert ns = netns := by
  apply Std.ExtTreeSet.ext_mem
  intro other
  by_cases he : other = ns
  · simp [he, hn]
  · simp [Ne.symm he]

theorem erase_insert {netns : Std.ExtTreeSet String} {ns : String} (hn : ns ∉ netns) :
    (netns.insert ns).erase ns = netns := by
  apply Std.ExtTreeSet.ext_mem
  intro other
  by_cases he : other = ns
  · simp [he, hn]
  · simp [Ne.symm he]

end SandboxNet.Host
