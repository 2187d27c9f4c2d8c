import Mathlib.Data.List.Nodup
import SandboxNet.Proofs.ByteOrder
import SandboxNet.Proofs.QuietRun

/-! The listing of veth pairs. It goes through the ends of the default namespace in order of name
and leaves out those it has seen, so a pair is listed at its first end, and once only. -/
namespace SandboxNet

/-- The names in a listed pair. -/
def VethPair.names (pair : VethPair) : List String :=
  pair.first :: pair.second.toList

namespace Veth

variable {ends rest : List VethEnd} {e other : VethEnd} {seen : List String}

/-- Ends in order of name. The peer of each, if it is named, is another one of them and names it in
turn. -/
structure Matched (ends : List VethEnd) : Prop where
  ordered : ends.Pairwise fun e next => e.name < next.name
  peer : ∀ e ∈ ends, ∀ q, e.peer = some q →
    q ≠ e.name ∧ ∃ other ∈ ends, other.name = q ∧ other.peer = some e.name

/-- An end is listed with its peer, unless that comes first. -/
def listed? (e : VethEnd) : Option VethPair :=
  if e.peer.any (· < e.name) then none else some ⟨e.name, e.peer⟩

theorem listed?_eq_some {pair : VethPair} : listed? e = some pair ↔
    pair = ⟨e.name, e.peer⟩ ∧ ∀ q, e.peer = some q → ¬ q < e.name := by
  rw [listed?, Option.ite_none_left_eq_some, Option.any_eq_true]
  constructor
  · rintro ⟨hnone, heq⟩
    exact ⟨(Option.some.inj heq).symm, fun q hpeer hlt => hnone ⟨q, hpeer, decide_eq_true hlt⟩⟩
  · rintro ⟨rfl, hfirst⟩
    exact ⟨fun ⟨q, hpeer, hlt⟩ => hfirst q hpeer (of_decide_eq_true hlt), rfl⟩

theorem listed?_eq_none {q : String} (hpeer : e.peer = some q) (hlt : q < e.name) :
    listed? e = none := by
  rw [listed?, hpeer, Option.any_some, if_pos (decide_eq_true hlt)]

namespace Matched

theorem eq_of_name (hm : Matched ends) (he : e ∈ ends) (ho : other ∈ ends)
    (hname : e.name = other.name) : e = other := by
  have hnodup : (ends.map (·.name)).Nodup := by
    refine List.pairwise_map.mpr (hm.ordered.imp ?_)
    intro e next hlt heq
    exact String.lt_irrefl _ (heq ▸ hlt)
  exact List.inj_on_of_nodup_map hnodup he ho hname

theorem back (hm : Matched ends) (he : e ∈ ends) (ho : other ∈ ends)
    (hpeer : e.peer = some other.name) : other.peer = some e.name := by
  obtain ⟨-, other', ho', hname, hback⟩ := hm.peer e he _ hpeer
  rw [hm.eq_of_name ho ho' hname.symm, hback]

theorem filter_peer (hm : Matched ends) (he : e ∈ ends) :
    e.peer.filter (ends.map (·.name)).contains = e.peer := by
  cases hpeer : e.peer with
  | none => rfl
  | some q =>
    obtain ⟨-, other, ho, rfl, -⟩ := hm.peer e he q hpeer
    exact Option.filter_some_pos (List.contains_iff_mem.mpr (List.mem_map_of_mem ho))

end Matched

/-- What is left to go through is listed as it is, if what was seen of it is what has its peer among
the ends that are done. -/
theorem pairsOf_rest (done : List VethEnd) (hm : Matched (done ++ rest))
    (hseen : ∀ e ∈ rest, e.name ∈ seen ↔ ∃ d ∈ done, e.peer = some d.name) :
    pairsOf ((done ++ rest).map (·.name)) seen rest = rest.filterMap listed? := by
  induction rest generalizing done seen with
  | nil => rfl
  | cons e rest ih =>
    have he : e ∈ done ++ e :: rest := by simp
    have hmem : ∀ other ∈ rest, other ∈ done ++ e :: rest := by simp +contextual
    obtain ⟨-, hlater, hearlier⟩ := List.pairwise_append.mp hm.ordered
    have hafter := (List.pairwise_cons.mp hlater).1
    have hbefore : ∀ d ∈ done, d.name < e.name := fun d hd => hearlier d hd e (by simp)
    have hnext : ∀ seen', (∀ other ∈ rest,
        other.name ∈ seen' ↔ other.name ∈ seen ∨ other.peer = some e.name) →
        pairsOf ((done ++ e :: rest).map (·.name)) seen' rest = rest.filterMap listed? := by
      intro seen' hseen'
      rw [List.append_cons] at hm ⊢
      refine ih _ hm fun other ho => ?_
      rw [hseen' other ho, hseen other (List.mem_cons_of_mem _ ho)]
      simp [or_and_right, exists_or]
    rw [pairsOf]
    by_cases hin : e.name ∈ seen
    · -- its peer was the first of the two
      obtain ⟨d, hd, hpeer⟩ := (hseen e List.mem_cons_self).mp hin
      have hlisted : listed? e = none := listed?_eq_none hpeer (hbefore d hd)
      rw [if_pos (List.contains_iff_mem.mpr hin), List.filterMap_cons_none hlisted]
      refine hnext seen fun other ho => ⟨Or.inl, ?_⟩
      rintro (hother | hback)
      · exact hother
      · have hname : d.name = other.name :=
          Option.some.inj (hpeer.symm.trans (hm.back (hmem other ho) he hback))
        exact absurd (hname ▸ hbefore d hd) (String.lt_asymm (hafter other ho))
    · have hfirst : ∀ q, e.peer = some q → ¬ q < e.name := by
        intro q hpeer hlt
        obtain ⟨-, d, hd, rfl, -⟩ := hm.peer e he q hpeer
        rcases List.mem_append.mp hd with hd | hd
        · exact hin ((hseen e List.mem_cons_self).mpr ⟨d, hd, hpeer⟩)
        rcases List.mem_cons.mp hd with rfl | hd
        · exact String.lt_irrefl _ hlt
        · exact String.lt_asymm (hafter d hd) hlt
      have hlisted : listed? e = some ⟨e.name, e.peer⟩ := listed?_eq_some.mpr ⟨rfl, hfirst⟩
      rw [if_neg (mt List.contains_iff_mem.mp hin), List.filterMap_cons_some hlisted]
      simp only [hm.filter_peer he]
      refine congrArg _ (hnext _ fun other ho => ?_)
      have hne : other.name ≠ e.name := fun heq => String.lt_irrefl _ (heq ▸ hafter other ho)
      have hpeer : e.peer = some other.name ↔ other.peer = some e.name :=
        ⟨hm.back he (hmem other ho), hm.back (hmem other ho) he⟩
      simp [hne, hpeer, or_comm]

/-- Each end is listed with its peer, unless that comes first. -/
theorem pairsOf_matched (hm : Matched ends) :
    pairsOf (ends.map (·.name)) [] ends = ends.filterMap listed? :=
  pairsOf_rest [] hm (by simp)

end Veth

/-- The name of a place, if it is in the default namespace. -/
def LinkId.nearby? (id : LinkId) : Option String :=
  if id.netns = none then some id.name else none

theorem LinkId.nearby?_eq_some {id : LinkId} {name : String} :
    id.nearby? = some name ↔ id = ⟨none, name⟩ := by
  cases id
  simp [nearby?]

theorem LinkId.nearby?_eq_none {id : LinkId} :
    id.nearby? = none ↔ ∃ ns name, id = ⟨some ns, name⟩ := by
  obtain ⟨netns, name⟩ := id
  cases netns <;> simp [nearby?]

namespace Host

variable {h : Host} {e : VethEnd} {pair : VethPair} {name : String} {p : LinkId}

/-- The veth ends of the default namespace, as they are listed. -/
def vethEnds (h : Host) : List VethEnd :=
  ((h.records none).filter (·.kind = .veth)).map .ofRecord

theorem linksIn_ordered (h : Host) (netns : Option String) :
    (h.linksIn netns).Pairwise fun row next => row.1.name < next.1.name := by
  refine (Std.ExtTreeMap.ordered_keys_toList.filter _).imp_of_mem ?_
  intro row next hrow hnext hlt
  have hnetns : row.1.netns = next.1.netns := by
    simp only [List.mem_filter, decide_eq_true_eq] at hrow hnext
    rw [hrow.2, hnext.2]
  have hlt : (compare row.1.netns next.1.netns).then (compare row.1.name next.1.name) = .lt := hlt
  rw [hnetns, Std.compare_self, Ordering.eq_then] at hlt
  exact compareOfLessAndEq_eq_lt.mp hlt

theorem record_peer (h : Host) (name : String) {l : Link} (hd : l.device = .veth p) :
    (h.record ⟨none, name⟩ l).peer = p.nearby? := by
  by_cases hn : p.netns = none <;> simp [record, Link.peer, LinkId.nearby?, Option.filter, hd, hn]

theorem mem_vethEnds : e ∈ h.vethEnds ↔ ∃ l p, h.links[(⟨none, e.name⟩ : LinkId)]? = some l ∧
    l.device = .veth p ∧ e = .ofRecord (h.record ⟨none, e.name⟩ l) := by
  simp only [vethEnds, records, linksIn, List.mem_map, List.mem_filter, decide_eq_true_eq]
  constructor
  · rintro ⟨_, ⟨⟨⟨⟨_, name⟩, l⟩, ⟨hl, rfl⟩, rfl⟩, hkind⟩, rfl⟩
    obtain ⟨p, hp⟩ := kind_eq_veth.mp hkind
    exact ⟨l, p, Std.ExtTreeMap.mem_toList_iff_getElem?_eq_some.mp hl, hp, rfl⟩
  · rintro ⟨l, p, hl, hp, he⟩
    refine ⟨_, ⟨⟨(⟨none, e.name⟩, l), ⟨?_, rfl⟩, rfl⟩, kind_eq_veth.mpr ⟨p, hp⟩⟩, he.symm⟩
    exact Std.ExtTreeMap.mem_toList_iff_getElem?_eq_some.mpr hl

theorem vethEnds_device (he : e ∈ h.vethEnds) :
    ∃ p, h.deviceAt ⟨none, e.name⟩ = some (.veth p) ∧ e.peer = p.nearby? := by
  obtain ⟨l, p, hl, hd, he⟩ := mem_vethEnds.mp he
  refine ⟨p, by rw [deviceAt_of_some hl, hd], ?_⟩
  rw [he]
  exact h.record_peer _ hd

theorem exists_vethEnd (hd : h.deviceAt ⟨none, name⟩ = some (.veth p)) :
    ∃ e ∈ h.vethEnds, e.name = name ∧ e.peer = p.nearby? := by
  obtain ⟨l, hl, hd⟩ := Option.map_eq_some_iff.mp hd
  exact ⟨.ofRecord (h.record ⟨none, name⟩ l), mem_vethEnds.mpr ⟨l, p, hl, hd, rfl⟩, rfl,
    h.record_peer name hd⟩

theorem vethEnds_ordered (h : Host) :
    h.vethEnds.Pairwise fun e next => e.name < next.name := by
  rw [vethEnds, List.pairwise_map]
  refine List.Pairwise.filter _ ?_
  rw [records, List.pairwise_map]
  exact h.linksIn_ordered none

theorem Paired.matched (hp : Paired h) : Veth.Matched h.vethEnds := by
  refine ⟨h.vethEnds_ordered, fun e he q hpeer => ?_⟩
  obtain ⟨p, hd, hp'⟩ := vethEnds_device he
  rw [hp', LinkId.nearby?_eq_some] at hpeer
  subst hpeer
  obtain ⟨hne, hback⟩ := hp _ _ hd
  obtain ⟨other, ho, hname, hpeer⟩ := exists_vethEnd hback
  refine ⟨fun heq => hne (by rw [heq]), other, ho, hname, ?_⟩
  rw [hpeer]
  exact LinkId.nearby?_eq_some.mpr rfl

/-- The pairs of a host, each at its first end. -/
def listedPairs (h : Host) : List VethPair :=
  h.vethEnds.filterMap Veth.listed?

theorem Paired.run_listPairs (hp : Paired h) :
    Host.run Veth.listPairs.run h = (.ok h.listedPairs, h) := by
  have hrun : Host.run Veth.listPairs.run h =
    (.ok (Veth.pairsOf (h.vethEnds.map (·.name)) [] h.vethEnds), h) := rfl
  rw [hrun, Veth.pairsOf_matched hp.matched, listedPairs]

theorem mem_listedPairs : pair ∈ h.listedPairs ↔
    ∃ p, h.deviceAt ⟨none, pair.first⟩ = some (.veth p) ∧ pair.second = p.nearby? ∧
      ∀ q, pair.second = some q → ¬ q < pair.first := by
  rw [listedPairs, List.mem_filterMap]
  constructor
  · rintro ⟨e, he, hlisted⟩
    obtain ⟨rfl, hfirst⟩ := Veth.listed?_eq_some.mp hlisted
    obtain ⟨p, hd, hpeer⟩ := vethEnds_device he
    exact ⟨p, hd, hpeer, hfirst⟩
  · rintro ⟨p, hd, hsecond, hfirst⟩
    obtain ⟨e, he, hname, hpeer⟩ := exists_vethEnd hd
    refine ⟨e, he, Veth.listed?_eq_some.mpr ?_⟩
    rw [hname, hpeer, ← hsecond]
    exact ⟨rfl, hfirst⟩

theorem listedPairs_ordered (h : Host) :
    h.listedPairs.Pairwise fun pair next => pair.first < next.first := by
  refine (List.pairwise_filterMap).mpr (h.vethEnds_ordered.imp ?_)
  intro e next hlt pair hpair pair' hpair'
  obtain ⟨rfl, -⟩ := Veth.listed?_eq_some.mp hpair
  obtain ⟨rfl, -⟩ := Veth.listed?_eq_some.mp hpair'
  exact hlt

/-- A name is in a listed pair as its first end, and then its peer does not come first, or as the
peer of its first end. -/
theorem Paired.place_in_pair (hp : Paired h) (hpair : pair ∈ h.listedPairs)
    (hname : name ∈ pair.names) : ∃ p, h.deviceAt ⟨none, name⟩ = some (.veth p) ∧
      (pair.first = name ∧ (∀ q, p.nearby? = some q → ¬ q < name) ∨
        p = ⟨none, pair.first⟩ ∧ ¬ name < pair.first) := by
  obtain ⟨p, hd, hsecond, hfirst⟩ := mem_listedPairs.mp hpair
  rcases List.mem_cons.mp hname with rfl | hname
  · exact ⟨p, hd, Or.inl ⟨rfl, hsecond ▸ hfirst⟩⟩
  · have hname : pair.second = some name := Option.mem_toList.mp hname
    rw [hsecond, LinkId.nearby?_eq_some] at hname
    subst hname
    exact ⟨_, (hp _ _ hd).2, Or.inr ⟨rfl, hfirst name hsecond⟩⟩

theorem Paired.first_eq (hp : Paired h) {other : VethPair} (hpair : pair ∈ h.listedPairs)
    (hother : other ∈ h.listedPairs) (hname : name ∈ pair.names) (hname' : name ∈ other.names) :
    pair.first = other.first := by
  obtain ⟨p, hd, hplace⟩ := hp.place_in_pair hpair hname
  obtain ⟨p', hd', hplace'⟩ := hp.place_in_pair hother hname'
  cases hd.symm.trans hd'
  rcases hplace with ⟨rfl, hfirst⟩ | ⟨rfl, hlater⟩
  · rcases hplace' with ⟨heq, -⟩ | ⟨rfl, hlater'⟩
    · exact heq.symm
    · exact String.le_antisymm (String.not_lt.mp (hfirst _ rfl)) (String.not_lt.mp hlater')
  · rcases hplace' with ⟨rfl, hfirst'⟩ | ⟨heq, -⟩
    · exact String.le_antisymm (String.not_lt.mp hlater) (String.not_lt.mp (hfirst' _ rfl))
    · exact congrArg LinkId.name heq

theorem Paired.nodup_names (hp : Paired h) : (h.listedPairs.flatMap VethPair.names).Nodup := by
  rw [List.nodup_flatMap]
  constructor
  · intro pair hpair
    obtain ⟨p, hd, hsecond, -⟩ := mem_listedPairs.mp hpair
    cases hq : pair.second with
    | none => simp [VethPair.names, hq]
    | some q =>
      rw [hq, eq_comm, LinkId.nearby?_eq_some] at hsecond
      subst hsecond
      have hne : pair.first ≠ q := fun heq => (hp _ _ hd).1 (by rw [heq])
      simp [VethPair.names, hq, hne]
  · refine h.listedPairs_ordered.imp_of_mem ?_
    intro pair other hpair hother hlt name hname hname'
    rw [hp.first_eq hpair hother hname hname'] at hlt
    exact String.lt_irrefl _ hlt

theorem Paired.mem_names (hp : Paired h) : name ∈ h.listedPairs.flatMap VethPair.names ↔
    ∃ p, h.deviceAt ⟨none, name⟩ = some (.veth p) := by
  rw [List.mem_flatMap]
  constructor
  · rintro ⟨pair, hpair, hname⟩
    obtain ⟨p, hd, -⟩ := hp.place_in_pair hpair hname
    exact ⟨p, hd⟩
  · rintro ⟨p, hd⟩
    by_cases hfirst : ∀ q, p.nearby? = some q → ¬ q < name
    · exact ⟨⟨name, p.nearby?⟩, mem_listedPairs.mpr ⟨p, hd, rfl, hfirst⟩, List.mem_cons_self⟩
    · simp only [not_forall, not_not] at hfirst
      obtain ⟨q, hq, hlt⟩ := hfirst
      rw [LinkId.nearby?_eq_some] at hq
      subst hq
      refine ⟨⟨q, some name⟩, mem_listedPairs.mpr ⟨_, (hp _ _ hd).2, rfl, ?_⟩, by
        simp [VethPair.names]⟩
      rintro _ ⟨⟩
      exact String.lt_asymm hlt

/-- Pairs are listed in the order of the bytes of their first ends, and every veth end of the
default namespace is listed once. Two ends are listed together just if they are each other's peers,
and an end is listed alone just if its peer is in a named namespace. -/
theorem pairs_listed_once (hr : h.Reachable) :
    ∃ pairs, Host.run Veth.listPairs.run h = (.ok pairs, h) ∧
      (pairs.Pairwise fun pair next => Text.bytes pair.first < Text.bytes next.first) ∧
      (pairs.flatMap VethPair.names).Nodup ∧
      (∀ name, name ∈ pairs.flatMap VethPair.names ↔
        ∃ p, h.deviceAt ⟨none, name⟩ = some (.veth p)) ∧
      (∀ e p, ⟨e, some p⟩ ∈ pairs ↔ h.deviceAt ⟨none, e⟩ = some (.veth ⟨none, p⟩) ∧
        h.deviceAt ⟨none, p⟩ = some (.veth ⟨none, e⟩) ∧ Text.bytes e < Text.bytes p) ∧
      ∀ e, ⟨e, none⟩ ∈ pairs ↔
        ∃ ns p, h.deviceAt ⟨none, e⟩ = some (.veth ⟨some ns, p⟩) := by
  have hp : Paired h := hr.sound.1
  refine ⟨h.listedPairs, hp.run_listPairs, h.listedPairs_ordered.imp Text.bytes_lt,
    hp.nodup_names, fun name => hp.mem_names, fun e p => ?_, fun e => ?_⟩
  · rw [mem_listedPairs, Text.bytes_lt_iff]
    constructor
    · rintro ⟨_, hd, hsecond, hfirst⟩
      rw [eq_comm, LinkId.nearby?_eq_some] at hsecond
      subst hsecond
      obtain ⟨hne, hback⟩ := hp _ _ hd
      have hle : e ≤ p := String.not_lt.mp (hfirst p rfl)
      exact ⟨hd, hback, Std.lt_of_le_of_ne hle fun heq => hne (by rw [heq])⟩
    · rintro ⟨hd, -, hlt⟩
      refine ⟨_, hd, rfl, ?_⟩
      rintro _ ⟨⟩
      exact String.lt_asymm hlt
  · rw [mem_listedPairs]
    constructor
    · rintro ⟨p, hd, hsecond, -⟩
      obtain ⟨ns, q, rfl⟩ := LinkId.nearby?_eq_none.mp hsecond.symm
      exact ⟨ns, q, hd⟩
    · rintro ⟨ns, p, hd⟩
      exact ⟨_, hd, rfl, nofun⟩

/-- One end is moved away, and then another pair is made that has an end of the same name. -/
theorem pairs_listed_once_renewed :
    let calls : List NetCall := [
      .addVeth "x" "y", .addNamespace "inner", .setNetns "y" "inner", .addVeth "z" "y"]
    let h : Host := calls.foldl (fun h c => (h.answer c).2) initial
    h.Reachable ∧ ∃ pairs, Host.run Veth.listPairs.run h = (.ok pairs, h) ∧
      (pairs.flatMap VethPair.names).Nodup ∧ ⟨"x", none⟩ ∈ pairs ∧ ⟨"y", some "z"⟩ ∈ pairs := by
  intro calls h
  have hr : h.Reachable := by
    repeat apply Reachable.call
    exact .initial
  obtain ⟨pairs, hrun, -, hnodup, -, hboth, halone⟩ := pairs_listed_once hr
  refine ⟨hr, pairs, hrun, hnodup, (halone "x").mpr ⟨"inner", "y", ?_⟩,
    (hboth "y" "z").mpr ⟨?_, ?_, ?_⟩⟩ <;> decide +kernel

end Host

end SandboxNet
