import SandboxNet.Proofs.QuietRun
import SandboxNet.Proofs.VethPairs

/-! Deleting a veth pair. The two ends point at each other, so whichever end the pair is taken out
by, the same two links go and the same host is left. -/
namespace SandboxNet

namespace Veth

variable {h : Host} {name peer : String} {p : LinkId}

theorem run_deletePair_peer (hname : ∀ p, h.deviceAt ⟨none, name⟩ ≠ some (.veth p))
    (hpeer : h.deviceAt ⟨none, peer⟩ = some (.veth p)) :
    Host.run (deletePair name peer).run h = (.ok (), h.remove ⟨none, peer⟩) := by
  rw [deletePair, Host.run_lift_bind (run_present_false hname)]
  simp only [Bool.false_eq_true, if_false]
  rw [Host.run_lift_bind (run_present_true hpeer)]
  exact run_delete hpeer

theorem run_deletePair_missing (hname : ∀ p, h.deviceAt ⟨none, name⟩ ≠ some (.veth p))
    (hpeer : ∀ p, h.deviceAt ⟨none, peer⟩ ≠ some (.veth p)) :
    Host.run (deletePair name peer).run h = (.error (.notFound .veth name), h) := by
  rw [deletePair, Host.run_lift_bind (run_present_false hname)]
  simp only [Bool.false_eq_true, if_false]
  rw [Host.run_lift_bind (run_present_false hpeer)]
  rfl

/-- One end among the two names is enough, whatever the other name stands for. -/
theorem deletePair_fails_iff :
    (∃ e, (Host.run (deletePair name peer).run h).1 = .error e) ↔
      (∀ p, h.deviceAt ⟨none, name⟩ ≠ some (.veth p)) ∧
        ∀ p, h.deviceAt ⟨none, peer⟩ ≠ some (.veth p) := by
  constructor
  · rintro ⟨e, he⟩
    have hname : ∀ p, h.deviceAt ⟨none, name⟩ ≠ some (.veth p) := by
      intro p hd
      rw [run_deletePair hd] at he
      cases he
    refine ⟨hname, fun p hd => ?_⟩
    rw [run_deletePair_peer hname hd] at he
    cases he
  · rintro ⟨hname, hpeer⟩
    rw [run_deletePair_missing hname hpeer]
    exact ⟨_, rfl⟩

end Veth

namespace Host

variable {h h' h'' : Host} {a p : LinkId}

/-- The second host is the first one without the pair of these two ends. -/
structure PairGone (h : Host) (a p : LinkId) (h' : Host) : Prop where
  apart : a ≠ p
  ends : h.deviceAt a = some (.veth p) ∧ h.deviceAt p = some (.veth a)
  netns : h'.netns = h.netns
  rows : ∀ id : LinkId, h'.links[id]? = if id = a ∨ id = p then none else h.links[id]?
  unpeered : ∀ (id : LinkId) (l : Link), h'.links[id]? = some l →
    l.peer ≠ some a ∧ l.peer ≠ some p

theorem PairGone.symm (hg : PairGone h a p h') : PairGone h p a h' where
  apart := hg.apart.symm
  ends := hg.ends.symm
  netns := hg.netns
  rows id := by simp only [hg.rows, or_comm]
  unpeered id l hl := (hg.unpeered id l hl).symm

theorem PairGone.unique (hg : PairGone h a p h') (hg' : PairGone h a p h'') : h' = h'' := by
  apply ext_rows
  · intro id
    rw [hg.rows, hg'.rows]
  · rw [hg.netns, hg'.netns]

theorem Paired.no_peer_at (hp : Paired h) (ha : h.links[a]? = none) {id : LinkId} {l : Link}
    (hl : h.links[id]? = some l) : l.peer ≠ some a := by
  intro hpeer
  have hback := (hp id a (by rw [deviceAt_of_some hl, Link.peer_eq_some.mp hpeer])).2
  exact deviceAt_ne_veth ha id hback

theorem Paired.pairGone (hp : Paired h) (ha : h.deviceAt a = some (.veth p)) :
    PairGone h a p (h.remove a) := by
  obtain ⟨hne, hback⟩ := hp a p ha
  have rows : ∀ id : LinkId,
      (h.remove a).links[id]? = if id = a ∨ id = p then none else h.links[id]? := by
    intro id
    obtain ⟨l, hl, hd⟩ := Option.map_eq_some_iff.mp ha
    exact remove_veth hl hd
  refine ⟨hne.symm, ⟨ha, hback⟩, remove_netns h a, rows, ?_⟩
  -- the rest is still paired, and neither place has an end that could point back
  intro id l hl
  have hrest := paired_remove hp a
  exact ⟨hrest.no_peer_at (by simp [rows]) hl, hrest.no_peer_at (by simp [rows]) hl⟩

theorem Paired.remove_peer (hp : Paired h) (ha : h.deviceAt a = some (.veth p)) :
    h.remove p = h.remove a :=
  (hp.pairGone (hp a p ha).2).symm.unique (hp.pairGone ha)

/-- A pair is deleted through any end of it that is in the default namespace, and just the two ends
go. If both are there, deletion by the one, by the other or by both in either order leaves the same
host. A deletion by two names fails just if neither names an end there. -/
theorem pair_deleted_by_either_end (hr : h.Reachable) :
    (∀ a p, h.deviceAt ⟨none, a⟩ = some (.veth p) → ∃ h',
      Host.run (Veth.delete a).run h = (.ok (), h') ∧ PairGone h ⟨none, a⟩ p h' ∧
      ∀ b, p = ⟨none, b⟩ →
        Host.run (Veth.delete b).run h = (.ok (), h') ∧
        Host.run (Veth.deletePair a b).run h = (.ok (), h') ∧
        Host.run (Veth.deletePair b a).run h = (.ok (), h')) ∧
    ∀ m n, (∃ e, (Host.run (Veth.deletePair m n).run h).1 = .error e) ↔
      (∀ p, h.deviceAt ⟨none, m⟩ ≠ some (.veth p)) ∧
        ∀ p, h.deviceAt ⟨none, n⟩ ≠ some (.veth p) := by
  have hp : Paired h := hr.sound.1
  refine ⟨fun a p ha => ?_, fun m n => Veth.deletePair_fails_iff⟩
  refine ⟨h.remove ⟨none, a⟩, Veth.run_delete ha, hp.pairGone ha, ?_⟩
  rintro b rfl
  have hb := (hp _ _ ha).2
  have hsame := hp.remove_peer ha
  refine ⟨?_, Veth.run_deletePair ha, ?_⟩
  · rw [Veth.run_delete hb, hsame]
  · rw [Veth.run_deletePair hb, hsame]

/-- A pair with both ends in a bridge. Its one name is also that of an end moved away before, which
belongs to another pair and stays. -/
theorem pair_deleted_by_either_end_enslaved :
    let calls : List NetCall := [
      .addVeth "x" "y", .addNamespace "inner", .setNetns "y" "inner", .addVeth "y" "z",
      .addBridge "br0", .setMaster "y" (some "br0"), .setMaster "z" (some "br0"),
      .addAddress "z" "10.0.0.1/24"]
    let h : Host := calls.foldl (fun h c => (h.answer c).2) initial
    h.Reachable ∧ ∃ h', Host.run (Veth.delete "y").run h = (.ok (), h') ∧
      Host.run (Veth.delete "z").run h = (.ok (), h') ∧
      Host.run (Veth.deletePair "z" "y").run h = (.ok (), h') ∧
      PairGone h ⟨none, "y"⟩ ⟨none, "z"⟩ h' ∧
      ∃ e, (Host.run (Veth.deletePair "br0" "inner").run h).1 = .error e := by
  intro calls h
  have hr : h.Reachable := by
    repeat apply Reachable.call
    exact .initial
  obtain ⟨hdelete, hfails⟩ := pair_deleted_by_either_end hr
  obtain ⟨h', hy, hgone, hboth⟩ := hdelete "y" ⟨none, "z"⟩ (by decide +kernel)
  obtain ⟨hz, -, hzy⟩ := hboth "z" rfl
  have hbridge : h.deviceAt ⟨none, "br0"⟩ = some .bridge := by decide +kernel
  have hnone : h.deviceAt ⟨none, "inner"⟩ = none := by decide +kernel
  refine ⟨hr, h', hy, hz, hzy, hgone, (hfails "br0" "inner").mpr ⟨?_, ?_⟩⟩
  · simp [hbridge]
  · simp [hnone]

end Host

end SandboxNet
