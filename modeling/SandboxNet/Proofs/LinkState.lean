import Mathlib.Data.Finset.Card
import Mathlib.Logic.Relation
import SandboxNet.Proofs.HostInvariants

/-! What the operational state of a link says. A bridge is up if a member is up, and a member may
be a bridge again, so the state is told by a recursion along memberships. It ends if no bridges are
in each other in a circle. Then a bridge is up exactly if bridges inside it lead to a veth end that
is turned up on both sides. -/
namespace SandboxNet.Host

open Relation

variable {h : Host} {b c id other p : LinkId} {l m far : Link}

/-- A link at `id` is in a bridge at `b`. -/
def EnslavedTo (b id : LinkId) (l : Link) : Prop :=
  id.netns = b.netns ∧ l.master = some b.name

/-- Whether a link in the bridge at `b` is up, where `told` tells the states of links. -/
def someUp (h : Host) (told : LinkId → Link → LinkState) (b : LinkId) : Bool :=
  h.links.toList.any fun (id, l) =>
    id.netns = b.netns && l.master = some b.name && told id l = .up

/-- One step of telling a state, where `told` tells the states of members. -/
def stateBy (h : Host) (told : LinkId → Link → LinkState) (id : LinkId) (l : Link) : LinkState :=
  if !l.adminUp then .down
  else match l.device with
    | .loopback => .unknown
    | .veth peer => if h.links[peer]?.any (·.adminUp) then .up else .lowerLayerDown
    | .bridge => if h.someUp told id then .up else .down

/-- To tell the state of the link at `id`, the state of the one at `other` is asked for. -/
def Asks (h : Host) (other id : LinkId) : Prop :=
  ∃ l m, h.links[id]? = some l ∧ l.adminUp = true ∧ l.device = .bridge ∧
    h.links[other]? = some m ∧ EnslavedTo id other m

/-- The inner place has a bridge that is in a bridge at the outer place. -/
def Nested (h : Host) (inner outer : LinkId) : Prop :=
  ∃ m, h.links[inner]? = some m ∧ m.device = .bridge ∧ EnslavedTo outer inner m

/-- No bridge is in itself, be it through others. -/
def LoopFree (h : Host) : Prop :=
  ∀ b, ¬ TransGen h.Nested b b

/-- The outer bridge has a bridge in it that is turned up. -/
def Passes (h : Host) (outer inner : LinkId) : Prop :=
  ∃ m, h.links[inner]? = some m ∧ m.device = .bridge ∧ m.adminUp = true ∧ EnslavedTo outer inner m

/-- A veth end in the bridge is turned up, and so is its other end. -/
def Feeds (h : Host) (b : LinkId) : Prop :=
  ∃ id l p far, h.links[id]? = some l ∧ EnslavedTo b id l ∧ l.device = .veth p ∧
    l.adminUp = true ∧ h.links[p]? = some far ∧ far.adminUp = true

/-- A chain of bridges that are turned up, each in the one before, ends in one that is fed. -/
def Carries (h : Host) (b : LinkId) : Prop :=
  ∃ last, ReflTransGen h.Passes b last ∧ h.Feeds last

theorem stateWithin_succ (depth : Nat) (id : LinkId) (l : Link) :
    h.stateWithin (depth + 1) id l = h.stateBy (h.stateWithin depth) id l := by
  rw [stateWithin, stateBy]
  rfl

/-- Nothing but a bridge has a state that depends on other links being in it. -/
theorem stateWithin_of_ne_bridge (hd : l.device ≠ .bridge) (depth depth' : Nat) :
    h.stateWithin depth id l = h.stateWithin depth' id l := by
  rw [stateWithin.eq_def, stateWithin.eq_def]
  cases hl : l.device with
  | bridge => exact absurd hl hd
  | veth p => rfl
  | loopback => rfl

section Step

variable {told told' : LinkId → Link → LinkState}

theorem someUp_iff : h.someUp told b = true ↔
    ∃ id l, h.links[id]? = some l ∧ EnslavedTo b id l ∧ told id l = .up := by
  simp only [someUp, List.any_eq_true, Prod.exists, Bool.and_eq_true, decide_eq_true_eq,
    Std.ExtTreeMap.mem_toList_iff_getElem?_eq_some, EnslavedTo]

theorem stateBy_down (hl : l.adminUp = false) : h.stateBy told id l = .down := by
  simp [stateBy, hl]

theorem stateBy_loopback (hl : l.adminUp = true) (hd : l.device = .loopback) :
    h.stateBy told id l = .unknown := by
  simp [stateBy, hl, hd]

theorem stateBy_veth (hl : l.adminUp = true) (hd : l.device = .veth p) :
    h.stateBy told id l =
      if h.links[p]?.any (·.adminUp) then .up else .lowerLayerDown := by
  simp [stateBy, hl, hd]

theorem stateBy_bridge (hl : l.adminUp = true) (hd : l.device = .bridge) :
    h.stateBy told id l = if h.someUp told id then .up else .down := by
  simp [stateBy, hl, hd]

/-- A step depends on nothing but the states that are asked for. -/
theorem stateBy_congr (hl : h.links[id]? = some l)
    (hsame : ∀ other m, h.links[other]? = some m → h.Asks other id → told other m = told' other m) :
    h.stateBy told id l = h.stateBy told' id l := by
  by_cases hup : l.adminUp = true
  · cases hd : l.device with
    | loopback => rw [stateBy_loopback hup hd, stateBy_loopback hup hd]
    | veth p => rw [stateBy_veth hup hd, stateBy_veth hup hd]
    | bridge =>
      have hsome : h.someUp told id = h.someUp told' id := by
        rw [Bool.eq_iff_iff, someUp_iff, someUp_iff]
        refine exists_congr fun other => exists_congr fun m => and_congr_right fun hm => ?_
        refine and_congr_right fun he => ?_
        rw [hsame other m hm ⟨l, m, hl, hup, hd, hm, he⟩]
      rw [stateBy_bridge hup hd, stateBy_bridge hup hd, hsome]
  · rw [Bool.not_eq_true] at hup
    rw [stateBy_down hup, stateBy_down hup]

end Step

section Nesting

theorem mem_places (hl : h.links[b]? = some l) : b ∈ h.links.keys.toFinset := by
  rw [List.mem_toFinset, Std.ExtTreeMap.mem_keys, Std.ExtTreeMap.mem_iff_isSome_getElem?, hl]
  rfl

open Classical in
/-- The places of the bridges inside a bridge, those inside them, and so on. -/
noncomputable def inside (h : Host) (b : LinkId) : Finset LinkId :=
  h.links.keys.toFinset.filter (TransGen h.Nested · b)

open Classical in
theorem mem_inside : c ∈ h.inside b ↔ TransGen h.Nested c b := by
  rw [inside, Finset.mem_filter, and_iff_right_iff_imp]
  intro hc
  obtain ⟨_, ⟨m, hm, _⟩, _⟩ := TransGen.head'_iff.mp hc
  exact mem_places hm

/-- What is inside an inner bridge is inside the outer one, and there is the inner one besides. -/
theorem card_inside_lt (hloop : h.LoopFree) (hn : h.Nested c b) :
    (h.inside c).card < (h.inside b).card := by
  have hsub : h.inside c ⊆ h.inside b := by
    intro x hx
    exact mem_inside.mpr ((mem_inside.mp hx).tail hn)
  have hnot : c ∉ h.inside c := fun hc => hloop c (mem_inside.mp hc)
  exact Finset.card_lt_card
    ((Finset.ssubset_iff_of_subset hsub).mpr ⟨c, mem_inside.mpr (.single hn), hnot⟩)

open Classical in
theorem card_inside_lt_size (hloop : h.LoopFree) (hl : h.links[b]? = some l) :
    (h.inside b).card < h.links.size := by
  have hsub : h.inside b ⊆ h.links.keys.toFinset := Finset.filter_subset _ _
  have hnot : b ∉ h.inside b := fun hb => hloop b (mem_inside.mp hb)
  calc (h.inside b).card
    _ < h.links.keys.toFinset.card := Finset.card_lt_card
        ((Finset.ssubset_iff_of_subset hsub).mpr ⟨b, mem_places hl, hnot⟩)
    _ ≤ h.links.keys.length := List.toFinset_card_le _
    _ = h.links.size := Std.ExtTreeMap.length_keys

/-- Where a rank rises from each bridge to the one it is in, none is in itself. -/
theorem LoopFree.of_rank (rank : LinkId → Nat)
    (hrank : ∀ row ∈ h.links.toList, row.2.device = .bridge →
      ∀ b ∈ row.2.master, rank row.1 < rank ⟨row.1.netns, b⟩) : h.LoopFree := by
  have hstep : ∀ c b, h.Nested c b → rank c < rank b := by
    rintro c ⟨_, _⟩ ⟨m, hm, hd, rfl, he⟩
    exact hrank (c, m) (Std.ExtTreeMap.mem_toList_iff_getElem?_eq_some.mpr hm) hd _ he
  have hchain : ∀ c b, TransGen h.Nested c b → rank c < rank b := by
    intro c b hcb
    induction hcb with
    | single hn => exact hstep _ _ hn
    | tail _ hn ih => exact ih.trans (hstep _ _ hn)
  exact fun b hb => Nat.lt_irrefl _ (hchain b b hb)

theorem Asks.nested (ha : h.Asks other id) (hm : h.links[other]? = some m)
    (hd : m.device = .bridge) : h.Nested other id := by
  obtain ⟨_, m', _, _, _, hm', he⟩ := ha
  cases hm.symm.trans hm'
  exact ⟨m, hm, hd, he⟩

/-- Nothing is asked for about a link that is no bridge, and about a bridge only what is inside. -/
theorem LoopFree.asks_wellFounded (hloop : h.LoopFree) : WellFounded h.Asks := by
  -- by the number of bridges inside: a member that is no bridge asks for nothing in turn
  have hacc : ∀ n id, (h.inside id).card < n → Acc h.Asks id := by
    intro n
    induction n with
    | zero => exact fun _ hn => absurd hn (Nat.not_lt_zero _)
    | succ n ih =>
      intro id hn
      refine ⟨_, fun other ha => ?_⟩
      have ⟨_, m, _, _, _, hm, _⟩ := ha
      by_cases hd : m.device = .bridge
      · exact ih other (Nat.lt_of_lt_of_le (card_inside_lt hloop (ha.nested hm hd))
          (Nat.le_of_lt_succ hn))
      · refine ⟨_, fun inner ha' => ?_⟩
        obtain ⟨l', _, hl', _, hb, _⟩ := ha'
        cases hm.symm.trans hl'
        exact absurd hb hd
  exact ⟨fun id => hacc _ id (Nat.lt_succ_self _)⟩

/-- Two depths that cover the bridges inside a link give the same state. -/
theorem stateWithin_enough (hloop : h.LoopFree) {depth depth' : Nat}
    (hl : h.links[id]? = some l) (hdepth : (h.inside id).card < depth)
    (hdepth' : (h.inside id).card < depth') :
    h.stateWithin depth id l = h.stateWithin depth' id l := by
  induction depth generalizing depth' id l with
  | zero => exact absurd hdepth (Nat.not_lt_zero _)
  | succ depth ih =>
    obtain ⟨depth', rfl⟩ := Nat.exists_eq_add_one_of_ne_zero (Nat.ne_zero_of_lt hdepth')
    rw [stateWithin_succ, stateWithin_succ]
    refine stateBy_congr hl fun other m hm ha => ?_
    by_cases hd : m.device = .bridge
    · have hless := card_inside_lt hloop (ha.nested hm hd)
      exact ih hm (by omega) (by omega)
    · exact stateWithin_of_ne_bridge hd depth depth'

theorem state_step (hloop : h.LoopFree) (hl : h.links[id]? = some l) :
    h.state id l = h.stateBy h.state id l := by
  have hsize := card_inside_lt_size hloop hl
  calc h.state id l
    _ = h.stateWithin (h.links.size + 1) id l :=
        stateWithin_enough hloop hl hsize (Nat.lt_succ_of_lt hsize)
    _ = h.stateBy h.state id l := stateWithin_succ _ _ _

/-- There is one way only to tell states such that every step is right. -/
theorem told_eq_state (hloop : h.LoopFree) {told : LinkId → Link → LinkState}
    (hstep : ∀ id l, h.links[id]? = some l → told id l = h.stateBy told id l)
    (hl : h.links[id]? = some l) : told id l = h.state id l := by
  induction id using hloop.asks_wellFounded.induction generalizing l with
  | _ id ih =>
    rw [hstep id l hl, state_step hloop hl]
    exact stateBy_congr hl fun other m hm ha => ih other ha hm

end Nesting

section Meaning

/-- An end is up if it and its other end are turned up. -/
theorem state_up_veth (hd : l.device = .veth p) : h.state id l = .up ↔
    l.adminUp = true ∧ ∃ far, h.links[p]? = some far ∧ far.adminUp = true := by
  rw [state, stateWithin.eq_def, ← Option.any_eq_true]
  cases l.adminUp <;> simp [hd]

theorem state_up_bridge (hloop : h.LoopFree) (hl : h.links[b]? = some l) (hd : l.device = .bridge) :
    h.state b l = .up ↔ l.adminUp = true ∧ h.someUp h.state b = true := by
  rw [state_step hloop hl]
  cases hup : l.adminUp <;> simp [stateBy, hup, hd]

theorem state_loopback_ne_up (hloop : h.LoopFree) (hl : h.links[id]? = some l)
    (hd : l.device = .loopback) : h.state id l ≠ .up := by
  rw [state_step hloop hl]
  cases hup : l.adminUp <;> simp [stateBy, hup, hd]

theorem Carries.someUp (hloop : h.LoopFree) (hc : h.Carries b) : h.someUp h.state b = true := by
  obtain ⟨last, hchain, hfed⟩ := hc
  induction hchain using ReflTransGen.head_induction_on with
  | refl =>
    obtain ⟨id, l, p, far, hl, he, hd, hup, hfar⟩ := hfed
    exact someUp_iff.mpr ⟨id, l, hl, he, (state_up_veth hd).mpr ⟨hup, far, hfar⟩⟩
  | head hpass _ ih =>
    obtain ⟨m, hm, hd, hup, he⟩ := hpass
    exact someUp_iff.mpr ⟨_, m, hm, he, (state_up_bridge hloop hm hd).mpr ⟨hup, ih⟩⟩

theorem carries_of_up (hloop : h.LoopFree) (hl : h.links[b]? = some l) (hd : l.device = .bridge)
    (hup : h.state b l = .up) : h.Carries b := by
  -- the member that is up is a veth end that feeds the bridge, or a bridge that carries itself
  induction b using hloop.asks_wellFounded.induction generalizing l with
  | _ b ih =>
    obtain ⟨hadmin, hsome⟩ := (state_up_bridge hloop hl hd).mp hup
    obtain ⟨id, m, hm, he, hmup⟩ := someUp_iff.mp hsome
    cases hdm : m.device with
    | loopback => exact absurd hmup (state_loopback_ne_up hloop hm hdm)
    | veth p =>
      obtain ⟨hadm, far, hfar⟩ := (state_up_veth hdm).mp hmup
      exact ⟨b, .refl, id, m, p, far, hm, he, hdm, hadm, hfar⟩
    | bridge =>
      obtain ⟨hadm, _⟩ := (state_up_bridge hloop hm hdm).mp hmup
      obtain ⟨last, hchain, hfed⟩ := ih id ⟨l, m, hl, hadmin, hd, hm, he⟩ hm hdm hmup
      exact ⟨last, .head ⟨m, hm, hdm, hadm, he⟩ hchain, hfed⟩

theorem someUp_iff_carries (hloop : h.LoopFree) (hl : h.links[b]? = some l)
    (hd : l.device = .bridge) (hup : l.adminUp = true) :
    h.someUp h.state b = true ↔ h.Carries b := by
  refine ⟨fun hsome => carries_of_up hloop hl hd ?_, fun hc => hc.someUp hloop⟩
  exact (state_up_bridge hloop hl hd).mpr ⟨hup, hsome⟩

end Meaning

/-- Where veth ends come in pairs and no bridge is in itself, telling a state comes to an end. A
veth end that is turned up is up just if its other end is, and a bridge that is turned up is up just
if bridges in it lead to a veth end whose both sides are. -/
theorem state_meaning (hpaired : h.Paired) (hloop : h.LoopFree) :
    WellFounded h.Asks ∧
    (∀ told : LinkId → Link → LinkState,
      (∀ id l, h.links[id]? = some l → told id l = h.stateBy told id l) ↔
        ∀ id l, h.links[id]? = some l → told id l = h.state id l) ∧
    ∀ id l, h.links[id]? = some l →
      (∀ depth, h.links.size ≤ depth → h.stateWithin depth id l = h.state id l) ∧
      (l.adminUp = false → h.state id l = .down) ∧
      (l.adminUp = true → l.device = .loopback → h.state id l = .unknown) ∧
      (∀ p, l.device = .veth p → ∃ far, h.links[p]? = some far ∧
        (h.state id l = .up ↔ h.state p far = .up) ∧
        (l.adminUp = true →
          h.state id l = if far.adminUp = true then .up else .lowerLayerDown)) ∧
      (l.adminUp = true → l.device = .bridge →
        (h.Carries id → h.state id l = .up) ∧ (¬ h.Carries id → h.state id l = .down)) := by
  refine ⟨hloop.asks_wellFounded, fun told => ⟨fun hstep id l => told_eq_state hloop hstep, ?_⟩, ?_⟩
  · intro heq id l hl
    rw [heq id l hl, state_step hloop hl]
    exact stateBy_congr hl fun other m hm _ => (heq other m hm).symm
  intro id l hl
  have hstep : h.state id l = h.stateBy h.state id l := state_step hloop hl
  refine ⟨?_, ?_, ?_, ?_, ?_⟩
  · intro depth hdepth
    have hsize := card_inside_lt_size hloop hl
    exact stateWithin_enough hloop hl (Nat.lt_of_lt_of_le hsize hdepth) hsize
  · intro hdown
    rw [hstep, stateBy_down hdown]
  · intro hup hd
    rw [hstep, stateBy_loopback hup hd]
  · intro p hd
    obtain ⟨_, far, hfar, hback⟩ := hpaired.peer hl hd
    refine ⟨far, hfar, ?_, fun hup => ?_⟩
    · rw [state_up_veth hd, state_up_veth hback]
      simp [hl, hfar, and_comm]
    · rw [hstep, stateBy_veth hup hd, hfar]
      rfl
  · intro hup hd
    have hiff := someUp_iff_carries hloop hl hd hup
    rw [hstep, stateBy_bridge hup hd]
    exact ⟨fun hc => if_pos (hiff.mpr hc), fun hc => if_neg (mt hiff.mp hc)⟩

/-- A bridge in a bridge, with a veth end in the inner one and its other end in a namespace. The
outer bridge is up once that other end is turned up. -/
theorem state_meaning_nested :
    let calls : List NetCall := [
      .addBridge "br0", .addBridge "br1", .setMaster "br1" (some "br0"), .addVeth "near" "far",
      .setMaster "near" (some "br1"), .addNamespace "inner", .setNetns "far" "inner",
      .setAdmin none "br0" true, .setAdmin none "br1" true, .setAdmin none "near" true]
    let down : Host := calls.foldl (fun h c => (h.answer c).2) initial
    let up : Host := (down.answer (.setAdmin (some "inner") "far" true)).2
    let outer : Link := ⟨.bridge, true, none, []⟩
    let near : Link := ⟨.veth ⟨some "inner", "far"⟩, true, some "br1", []⟩
    (down.Paired ∧ down.LoopFree ∧ down.state ⟨none, "near"⟩ near = .lowerLayerDown ∧
      ¬ down.Carries ⟨none, "br0"⟩) ∧
    up.Paired ∧ up.LoopFree ∧ up.Carries ⟨none, "br0"⟩ ∧ up.state ⟨none, "br0"⟩ outer = .up := by
  intro calls down up outer near
  have hdown : down.Reachable := by
    repeat apply Reachable.call
    exact .initial
  have hup : up.Reachable := .call _ hdown
  have hloop : down.LoopFree := .of_rank (if ·.name = "br0" then 1 else 0) (by decide +kernel)
  have hloop' : up.LoopFree := .of_rank (if ·.name = "br0" then 1 else 0) (by decide +kernel)
  have houter : up.links[(⟨none, "br0"⟩ : LinkId)]? = some outer := by decide +kernel
  have hinner : up.links[(⟨none, "br1"⟩ : LinkId)]? = some ⟨.bridge, true, some "br0", []⟩ := by
    decide +kernel
  have hnear : up.links[(⟨none, "near"⟩ : LinkId)]? = some near := by decide +kernel
  have hfar : up.links[(⟨some "inner", "far"⟩ : LinkId)]? =
      some ⟨.veth ⟨none, "near"⟩, true, none, []⟩ := by decide +kernel
  have hcarries : up.Carries ⟨none, "br0"⟩ :=
    ⟨⟨none, "br1"⟩, .single ⟨_, hinner, rfl, rfl, rfl, rfl⟩,
      _, near, _, _, hnear, ⟨rfl, rfl⟩, rfl, rfl, hfar, rfl⟩
  obtain ⟨-, -, hmeans⟩ := state_meaning hdown.sound.1 hloop
  obtain ⟨-, -, hmeans'⟩ := state_meaning hup.sound.1 hloop'
  have hlost : ¬ down.Carries ⟨none, "br0"⟩ := by
    intro hc
    have hstate := ((hmeans ⟨none, "br0"⟩ outer (by decide +kernel)).2.2.2.2 rfl rfl).1 hc
    exact absurd hstate (by decide +kernel)
  obtain ⟨far, hfar, -, hstate⟩ :=
    (hmeans ⟨none, "near"⟩ near (by decide +kernel)).2.2.2.1 _ rfl
  have hoff : down.links[(⟨some "inner", "far"⟩ : LinkId)]?.map (·.adminUp) = some false := by
    decide +kernel
  rw [hfar] at hoff
  have hnear' : down.state ⟨none, "near"⟩ near = .lowerLayerDown := by
    have hoff : far.adminUp = false := Option.some.inj hoff
    rw [hstate rfl, hoff]
    rfl
  exact ⟨⟨hdown.sound.1, hloop, hnear', hlost⟩, hup.sound.1, hloop', hcarries,
    ((hmeans' _ outer houter).2.2.2.2 rfl rfl).1 hcarries⟩

end SandboxNet.Host
