import SandboxNet.Proofs.VethPairs

/-! Deleting a namespace. The links inside are taken away one after the other, and each may take
another one along that is inside too. What is left is found by a look at each link alone. -/
namespace SandboxNet.Host

variable {h h' : Host} {ns : String} {id : LinkId} {l : Link} {ids ids' : List LinkId}

/-- Whether neither a link nor its other end is in a namespace. -/
def outside (ns : String) (id : LinkId) (l : Link) : Bool :=
  decide (id.netns ≠ some ns) && l.peer.all (·.netns ≠ some ns)

/-- The host without a namespace and without what is or ends in it. -/
def withoutNamespace (h : Host) (ns : String) : Host :=
  ⟨h.links.filter (outside ns), h.netns.erase ns⟩

theorem outside_iff : outside ns id l = true ↔
    id.netns ≠ some ns ∧ ∀ p, l.peer = some p → p.netns ≠ some ns := by
  simp [outside, Option.all_eq_true]

theorem withoutNamespace_row : (h.withoutNamespace ns).links[id]? = some l ↔
    h.links[id]? = some l ∧ id.netns ≠ some ns ∧ ∀ p, l.peer = some p → p.netns ≠ some ns := by
  rw [withoutNamespace, Std.ExtTreeMap.getElem?_filter', Option.filter_eq_some_iff, outside_iff]

theorem mem_withoutNamespace {other : String} :
    other ∈ (h.withoutNamespace ns).netns ↔ other ≠ ns ∧ other ∈ h.netns := by
  simp only [withoutNamespace, Std.ExtTreeSet.mem_erase, ne_eq, Std.LawfulEqCmp.compare_eq_iff_eq,
    @eq_comm _ ns]

/-- It only matters which links of the namespace are visited, not when or how often. -/
theorem foldl_remove_congr (hp : Paired h) (hm : Unenslaved h ns)
    (hin : ∀ k ∈ ids, k.netns = some ns) (hsame : ∀ k, k ∈ ids ↔ k ∈ ids') :
    ids.foldl remove h = ids'.foldl remove h := by
  have hin' : ∀ k ∈ ids', k.netns = some ns := fun k hk => hin k ((hsame k).mpr hk)
  apply ext_rows
  · intro id
    ext l
    rw [foldl_remove_inside hp hm hin, foldl_remove_inside hp hm hin']
    simp only [hsame]
  · rw [foldl_remove_netns, foldl_remove_netns]

theorem deleteNamespace_eq_without (hp : Paired h) (hm : Unenslaved h ns)
    (ok : h.deleteNamespace ns = .ok h') : h' = h.withoutNamespace ns := by
  apply ext_rows
  · intro id
    ext l
    rw [deleteNamespace_links hp hm ok, withoutNamespace_row]
    simp only [Link.peer_eq_some]
  · exact deleteNamespace_netns ok

/-- Deleting a registered namespace unregisters it and no other, and keeps just the links that
neither are in it nor have their other end in it. The order in which the links inside are visited
makes no difference, although a link may be gone with its other end before its turn. -/
theorem namespace_deleted_by_filter (hp : Paired h) (hc : Contained h) (hn : ns ∈ h.netns) :
    h.answer (.deleteNamespace ns) = (.ok (), h.withoutNamespace ns) ∧
    (∀ other, other ∈ (h.withoutNamespace ns).netns ↔ other ≠ ns ∧ other ∈ h.netns) ∧
    (∀ (id : LinkId) (l : Link), (h.withoutNamespace ns).links[id]? = some l ↔
      h.links[id]? = some l ∧ id.netns ≠ some ns ∧ ∀ p, l.peer = some p → p.netns ≠ some ns) ∧
    ∀ ids : List LinkId,
      (∀ id, id ∈ ids ↔ id.netns = some ns ∧ ∃ l, h.links[id]? = some l) →
      ids.foldl remove ⟨h.links, h.netns.erase ns⟩ = h.withoutNamespace ns := by
  obtain ⟨h', ok⟩ : ∃ h', h.deleteNamespace ns = .ok h' :=
    ⟨_, deleteNamespace_eq_ok.mpr ⟨hn, rfl⟩⟩
  have heq := deleteNamespace_eq_without hp (hc.unenslaved ns) ok
  refine ⟨?_, fun _ => mem_withoutNamespace, fun _ _ => withoutNamespace_row, fun ids hids => ?_⟩
  · rw [answer, ok, change, heq]
  · have hp' : Paired ⟨h.links, h.netns.erase ns⟩ := hp
    rw [foldl_remove_congr hp' (hc.unenslaved ns) (fun k hk => ((hids k).mp hk).1)
      fun k => (hids k).trans mem_linksIn.symm]
    exact (deleteNamespace_eq_ok.mp ok).2.symm.trans heq

/-- Of four pairs one is inside, one outside, and two have one end inside. The links inside are
visited from the last to the first. -/
theorem namespace_deleted_by_filter_backwards :
    let calls : List NetCall := [
      .addNamespace "inner", .addNamespace "other", .addBridge "br0",
      .addVeth "a" "b", .setNetns "a" "inner", .setNetns "b" "inner",
      .addVeth "c" "d", .setMaster "c" (some "br0"),
      .addVeth "e" "f", .setNetns "f" "inner",
      .addVeth "g" "h", .setNetns "g" "inner", .setNetns "h" "other"]
    let h : Host := calls.foldl (fun h c => (h.answer c).2) initial
    let ids := ((h.linksIn (some "inner")).map (·.1)).reverse
    Paired h ∧ Contained h ∧ "inner" ∈ h.netns ∧
      h.answer (.deleteNamespace "inner") = (.ok (), h.withoutNamespace "inner") ∧
      ids.foldl remove ⟨h.links, h.netns.erase "inner"⟩ = h.withoutNamespace "inner" ∧
      ids = [⟨some "inner", "lo"⟩, ⟨some "inner", "g"⟩, ⟨some "inner", "f"⟩, ⟨some "inner", "b"⟩,
        ⟨some "inner", "a"⟩] ∧
      (h.withoutNamespace "inner").links.keys = [⟨none, "br0"⟩, ⟨none, "c"⟩, ⟨none, "d"⟩,
        ⟨none, "lo"⟩, ⟨some "other", "lo"⟩] := by
  intro calls h ids
  have hr : h.Reachable := by
    repeat apply Reachable.call
    exact .initial
  obtain ⟨hp, hc⟩ := hr.sound
  have hn : "inner" ∈ h.netns := by decide +kernel
  obtain ⟨hanswer, -, -, hvisit⟩ := namespace_deleted_by_filter hp hc hn
  have hids := hvisit ids fun id => List.mem_reverse.trans mem_linksIn
  exact ⟨hp, hc, hn, hanswer, hids, by decide +kernel, by decide +kernel⟩

end SandboxNet.Host
