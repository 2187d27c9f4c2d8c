import SandboxNet.Proofs.HostInvariants
import Mathlib.Data.Set.Card
import Mathlib.Order.CompletePartialOrder

/-! The veth ends of a host as a whole: whatever was called, they fall into disjoint pairs. -/
namespace SandboxNet

theorem Link.peer_eq_some {l : Link} {p : LinkId} : l.peer = some p ↔ l.device = .veth p := by
  cases hd : l.device <;> simp [Link.peer, hd]

theorem Link.isSome_peer {l : Link} : l.peer.isSome = true ↔ l.kind = .veth := by
  cases hd : l.device <;> simp [Link.peer, Link.kind, hd]

namespace Host

variable {h : Host} {id p : LinkId} {pair : Set LinkId}

/-- The places of veth ends, in whatever namespace. -/
def vethPlaces (h : Host) : Set LinkId :=
  {id | ∃ l, h.links[id]? = some l ∧ l.kind = .veth}

/-- The place of each link that has a peer, together with the place of that peer. -/
def vethPairs (h : Host) : Set (Set LinkId) :=
  {pair | ∃ id l p, h.links[id]? = some l ∧ l.peer = some p ∧ pair = {id, p}}

theorem mem_vethPlaces : id ∈ h.vethPlaces ↔ ∃ p, h.deviceAt id = some (.veth p) := by
  constructor
  · rintro ⟨l, hl, hk⟩
    obtain ⟨p, hp⟩ := Option.isSome_iff_exists.mp (Link.isSome_peer.mpr hk)
    exact ⟨p, by rw [deviceAt_of_some hl, Link.peer_eq_some.mp hp]⟩
  · rintro ⟨p, hid⟩
    obtain ⟨l, hl, hd⟩ := Option.map_eq_some_iff.mp hid
    exact ⟨l, hl, Link.isSome_peer.mp (by rw [Link.peer_eq_some.mpr hd, Option.isSome_some])⟩

theorem mem_vethPairs :
    pair ∈ h.vethPairs ↔ ∃ id p, h.deviceAt id = some (.veth p) ∧ pair = {id, p} := by
  constructor
  · rintro ⟨id, l, p, hl, hp, rfl⟩
    exact ⟨id, p, by rw [deviceAt_of_some hl, Link.peer_eq_some.mp hp], rfl⟩
  · rintro ⟨id, p, hid, rfl⟩
    obtain ⟨l, hl, hd⟩ := Option.map_eq_some_iff.mp hid
    exact ⟨id, l, p, hl, Link.peer_eq_some.mpr hd, rfl⟩

/-- Either end of a pair tells the whole pair. -/
theorem Paired.pair_eq (hp : Paired h) (hpair : pair ∈ h.vethPairs) (hid : id ∈ pair) :
    ∃ p, h.deviceAt id = some (.veth p) ∧ pair = {id, p} := by
  obtain ⟨a, b, ha, rfl⟩ := mem_vethPairs.mp hpair
  rcases hid with rfl | rfl
  · exact ⟨b, ha, rfl⟩
  · exact ⟨a, (hp a _ ha).2, Set.pair_comm _ _⟩

theorem Paired.disjoint (hp : Paired h) : h.vethPairs.PairwiseDisjoint fun pair => pair := by
  intro x hx y hy hne
  refine Set.disjoint_left.mpr fun id hidx hidy => hne ?_
  obtain ⟨p, hid, rfl⟩ := hp.pair_eq hx hidx
  obtain ⟨q, hid', rfl⟩ := hp.pair_eq hy hidy
  cases hid.symm.trans hid'
  rfl

theorem Paired.two_ends (hp : Paired h) (hpair : pair ∈ h.vethPairs) : pair.ncard = 2 := by
  obtain ⟨id, p, hid, rfl⟩ := mem_vethPairs.mp hpair
  exact Set.ncard_pair (hp id p hid).1.symm

theorem Paired.sUnion_vethPairs (hp : Paired h) : ⋃₀ h.vethPairs = h.vethPlaces := by
  ext id
  rw [mem_vethPlaces, Set.mem_sUnion]
  constructor
  · rintro ⟨pair, hpair, hid⟩
    obtain ⟨p, hid, -⟩ := hp.pair_eq hpair hid
    exact ⟨p, hid⟩
  · rintro ⟨p, hid⟩
    exact ⟨{id, p}, mem_vethPairs.mpr ⟨id, p, hid, rfl⟩, Set.mem_insert _ _⟩

/-- The peer of a link is another veth end that is there and has the link as its own peer, and so
the veth ends of all namespaces fall into disjoint pairs. That just the veth ends have a peer is in
the type of devices. -/
theorem veth_ends_paired (hr : h.Reachable) :
    (∀ (id : LinkId) (l : Link), h.links[id]? = some l →
      (l.peer.isSome = true ↔ l.kind = .veth) ∧
      ∀ p, l.peer = some p → p ≠ id ∧
        ∃ l' : Link, h.links[p]? = some l' ∧ l'.kind = .veth ∧ l'.peer = some id) ∧
    (∀ pair ∈ h.vethPairs, pair.ncard = 2) ∧
    (h.vethPairs.PairwiseDisjoint fun pair => pair) ∧
    ⋃₀ h.vethPairs = h.vethPlaces := by
  have hp : Paired h := hr.sound.1
  refine ⟨fun id l hl => ⟨Link.isSome_peer, fun p hpeer => ?_⟩, fun _ => hp.two_ends, hp.disjoint,
    hp.sUnion_vethPairs⟩
  obtain ⟨hne, l', hl', hd'⟩ := hp.peer hl (Link.peer_eq_some.mp hpeer)
  have hpeer' : l'.peer = some id := Link.peer_eq_some.mpr hd'
  refine ⟨hne, l', hl', Link.isSome_peer.mp ?_, hpeer'⟩
  rw [hpeer', Option.isSome_some]

/-- A pair whose one end was moved into a namespace. -/
theorem veth_ends_paired_moved :
    let h := (((initial.answer (.addVeth "vh-web" "host0")).2.answer
      (.addNamespace "corral-web")).2.answer (.setNetns "host0" "corral-web")).2
    let near : LinkId := ⟨none, "vh-web"⟩
    let far : LinkId := ⟨some "corral-web", "host0"⟩
    h.Reachable ∧ ({near, far} : Set LinkId) ∈ h.vethPairs ∧ ({near, far} : Set LinkId).ncard = 2 ∧
      ∃ l, h.links[far]? = some l ∧ l.peer = some near := by
  intro h near far
  have hr : h.Reachable := .call _ (.call _ (.call _ .initial))
  have hnear : h.links[near]? = some (.fresh (.veth far)) := by decide +kernel
  obtain ⟨hlinks, htwo, -⟩ := veth_ends_paired hr
  have hpair : {near, far} ∈ h.vethPairs := ⟨near, _, far, hnear, rfl, rfl⟩
  obtain ⟨-, l, hfar, -, hback⟩ := (hlinks near _ hnear).2 far rfl
  exact ⟨hr, hpair, htwo _ hpair, l, hfar, hback⟩

end Host

end SandboxNet
