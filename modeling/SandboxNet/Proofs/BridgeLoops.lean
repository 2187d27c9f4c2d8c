import SandboxNet.Attachment
import SandboxNet.Proofs.HostRows
import SandboxNet.Proofs.LinkState
import SandboxNet.Proofs.Trace
import SandboxNet.Simulation.Network

/-! Bridges in a circle. To tell the state of a link by asking member after member may have no end
there. Whenever it has one, the host tells the same state. To take links away makes no circle. -/
namespace SandboxNet

namespace Host

open Relation

variable {h h' : Host} {id : LinkId} {l : Link} {s : LinkState} {depth n : Nat}

section Telling

variable {told told' : LinkId → Link → Option LinkState}

/-- One step of telling a state, where `told` tells the states of members as far as it can. Members
are asked in turn, up to the first one that is up. -/
def tellBy (h : Host) (told : LinkId → Link → Option LinkState) (id : LinkId) (l : Link) :
    Option LinkState :=
  if l.adminUp = true ∧ l.device = .bridge then
    (h.links.toList.anyM fun row =>
      if row.1.netns = id.netns ∧ row.2.master = some id.name then
        (told row.1 row.2).map fun state => decide (state = .up)
      else some false).map fun up => if up then .up else .down
  else some (h.stateWithin 0 id l)

/-- The state that is told by asking members of members, if that has come to an end within `depth`
steps. -/
def stateAfter? (h : Host) : Nat → LinkId → Link → Option LinkState
  | 0, _, _ => none
  | depth + 1, id, l => h.tellBy (h.stateAfter? depth) id l

theorem anyM_mono {α : Type} {f g : α → Option Bool} {as : List α} {r : Bool}
    (hfg : ∀ a ∈ as, ∀ r, f a = some r → g a = some r) (hr : as.anyM f = some r) :
    as.anyM g = some r := by
  induction as with
  | nil => exact hr
  | cons a as ih =>
    rw [List.anyM_cons] at hr ⊢
    obtain ⟨first, hfirst, hrest⟩ := Option.bind_eq_some_iff.mp hr
    rw [hfg a (List.mem_cons_self ..) first hfirst]
    cases first with
    | true => exact hrest
    | false => exact ih (fun a ha => hfg a (List.mem_cons_of_mem _ ha)) hrest

theorem anyM_isSome {α : Type} {f : α → Option Bool} {as : List α}
    (hf : ∀ a ∈ as, ∃ r, f a = some r) : ∃ r, as.anyM f = some r := by
  induction as with
  | nil => exact ⟨false, rfl⟩
  | cons a as ih =>
    obtain ⟨first, hfirst⟩ := hf a (List.mem_cons_self ..)
    rw [List.anyM_cons, hfirst]
    cases first with
    | true => exact ⟨true, rfl⟩
    | false => exact ih fun a ha => hf a (List.mem_cons_of_mem _ ha)

theorem mem_rows {row : LinkId × Link} (hrow : row ∈ h.links.toList) :
    h.links[row.1]? = some row.2 :=
  Std.ExtTreeMap.mem_toList_iff_getElem?_eq_some.mp hrow

theorem tellBy_mono
    (hle : ∀ other m s, h.links[other]? = some m → told other m = some s → told' other m = some s)
    (hs : h.tellBy told id l = some s) : h.tellBy told' id l = some s := by
  rw [tellBy] at hs ⊢
  split at hs
  · rename_i hbridge
    obtain ⟨up, hup, rfl⟩ := Option.map_eq_some_iff.mp hs
    rw [if_pos hbridge]
    refine Option.map_eq_some_iff.mpr ⟨up, anyM_mono (fun row hrow r hr => ?_) hup, rfl⟩
    split at hr
    · rename_i hmember
      obtain ⟨state, hstate, rfl⟩ := Option.map_eq_some_iff.mp hr
      rw [if_pos hmember, hle row.1 row.2 state (mem_rows hrow) hstate]
      rfl
    · rename_i hmember
      rw [if_neg hmember, hr]
  · rename_i hother
    rw [if_neg hother, hs]

theorem stateAfter?_succ (hs : h.stateAfter? n id l = some s) :
    h.stateAfter? (n + 1) id l = some s := by
  induction n generalizing id l s with
  | zero => cases hs
  | succ n ih => exact tellBy_mono (fun _ _ _ _ => ih) hs

theorem stateAfter?_mono (hle : n ≤ depth) (hs : h.stateAfter? n id l = some s) :
    h.stateAfter? depth id l = some s := by
  induction hle with
  | refl => exact hs
  | step _ ih => exact stateAfter?_succ ih

/-- What is told within some steps is what the host tells by going that deep. -/
theorem stateWithin_of_told (hs : h.stateAfter? n id l = some s) : h.stateWithin n id l = s := by
  induction n generalizing id l s with
  | zero => cases hs
  | succ n ih =>
    rw [stateAfter?, tellBy] at hs
    split at hs
    · rename_i hbridge
      obtain ⟨up, hup, rfl⟩ := Option.map_eq_some_iff.mp hs
      have hany := anyM_mono (g := fun row => pure (decide (row.1.netns = id.netns) &&
        decide (row.2.master = some id.name) && decide (h.stateWithin n row.1 row.2 = .up)))
        (fun row _ r hr => ?_) hup
      · rw [List.anyM_pure] at hany
        rw [stateWithin_succ, stateBy_bridge hbridge.1 hbridge.2, someUp, Option.some.inj hany]
      · split at hr
        · rename_i hmember
          obtain ⟨state, hstate, rfl⟩ := Option.map_eq_some_iff.mp hr
          simp [hmember, ih hstate]
        · rename_i hmember
          cases hr
          simp only [Option.pure_def, Option.some.injEq, Bool.and_eq_false_imp, Bool.and_eq_true,
            decide_eq_true_eq]
          exact fun hm => absurd hm hmember
    · rename_i hother
      cases hs
      by_cases hd : l.device = .bridge
      · have hdown : l.adminUp = false := Bool.eq_false_iff.mpr fun hup => hother ⟨hup, hd⟩
        rw [stateWithin_succ, stateBy_down hdown, stateWithin, hdown]
        rfl
      · exact stateWithin_of_ne_bridge hd _ _

/-- One step more tells nothing new. -/
def Settled (h : Host) (n : Nat) : Prop :=
  ∀ id l s, h.links[id]? = some l → h.stateAfter? (n + 1) id l = some s →
    h.stateAfter? n id l = some s

theorem Settled.succ (hn : h.Settled n) : h.Settled (n + 1) :=
  fun _ _ _ _ hs => tellBy_mono hn hs

theorem Settled.of_le (hn : h.Settled n) (hle : n ≤ depth) (hl : h.links[id]? = some l)
    (hs : h.stateAfter? depth id l = some s) : h.stateAfter? n id l = some s := by
  have hsettled : ∀ k, h.Settled (n + k) := by
    intro k
    induction k with
    | zero => exact hn
    | succ k ih => exact ih.succ
  obtain ⟨k, rfl⟩ := Nat.exists_eq_add_of_le hle
  induction k with
  | zero => exact hs
  | succ k ih => exact ih (Nat.le_add_right _ _) (hsettled k id l s hl hs)

open Classical in
/-- The places whose states are told within some steps. -/
noncomputable def toldPlaces (h : Host) (n : Nat) : Finset LinkId :=
  h.links.keys.toFinset.filter fun id =>
    ∃ l s, h.links[id]? = some l ∧ h.stateAfter? n id l = some s

open Classical in
theorem card_toldPlaces_lt (hn : ¬ h.Settled n) :
    (h.toldPlaces n).card < (h.toldPlaces (n + 1)).card := by
  have hmono : h.toldPlaces n ⊆ h.toldPlaces (n + 1) := by
    refine Finset.monotone_filter_right _ ?_
    rintro id _ ⟨l, s, hl, hs⟩
    exact ⟨l, s, hl, stateAfter?_succ hs⟩
  simp only [Settled, not_forall] at hn
  obtain ⟨id, l, s, hl, hs, hnew⟩ := hn
  refine Finset.card_lt_card ((Finset.ssubset_iff_of_subset hmono).mpr ⟨id, ?_, ?_⟩)
  · exact Finset.mem_filter.mpr ⟨mem_places hl, l, s, hl, hs⟩
  · intro hid
    obtain ⟨-, l', s', hl', hs'⟩ := Finset.mem_filter.mp hid
    cases hl.symm.trans hl'
    cases hs.symm.trans (stateAfter?_succ hs')
    exact hnew hs'

open Classical in
/-- There is something new to tell no more often than there are links. -/
theorem settled_size (h : Host) : ∃ n ≤ h.links.size, h.Settled n := by
  by_contra hnone
  simp only [not_exists, not_and] at hnone
  have hgrows : ∀ n, n ≤ h.links.size + 1 → n ≤ (h.toldPlaces n).card := by
    intro n
    induction n with
    | zero => exact fun _ => Nat.zero_le _
    | succ n ih =>
      intro hle
      have hlt := card_toldPlaces_lt (hnone n (Nat.le_of_succ_le_succ hle))
      have hn := ih (Nat.le_of_succ_le hle)
      omega
  have hfew : (h.toldPlaces (h.links.size + 1)).card ≤ h.links.size := calc
    _ ≤ h.links.keys.toFinset.card := Finset.card_le_card (Finset.filter_subset _ _)
    _ ≤ h.links.keys.length := List.toFinset_card_le _
    _ = h.links.size := Std.ExtTreeMap.length_keys
  exact absurd (hgrows _ (Nat.le_refl _)) (by omega)

/-- Whenever asking members of members comes to an end, the state it tells is the one of the host,
whether or not bridges are in a circle. -/
theorem state_of_told (hl : h.links[id]? = some l) (hs : h.stateAfter? depth id l = some s) :
    h.state id l = s := by
  obtain ⟨n, hn, hsettled⟩ := h.settled_size
  refine stateWithin_of_told ?_
  rcases Nat.le_total n depth with hle | hle
  · exact stateAfter?_mono hn (hsettled.of_le hle hl hs)
  · exact stateAfter?_mono (Nat.le_trans hle hn) hs

theorem stateAfter?_of_ne_bridge (hd : l.device ≠ .bridge) (n : Nat) (id : LinkId) :
    h.stateAfter? (n + 1) id l = some (h.stateWithin 0 id l) := by
  rw [stateAfter?, tellBy, if_neg fun hbridge => hd hbridge.2]

/-- Where there is no circle it does come to an end. -/
theorem told_of_loopFree (hloop : h.LoopFree) (hl : h.links[id]? = some l) :
    ∃ depth, h.stateAfter? depth id l = some (h.state id l) := by
  suffices hends : ∀ n id l, h.links[id]? = some l → (h.inside id).card < n →
      ∃ s, h.stateAfter? (n + 1) id l = some s by
    obtain ⟨s, hs⟩ := hends _ id l hl (Nat.lt_succ_self _)
    exact ⟨_, (state_of_told hl hs).symm ▸ hs⟩
  intro n
  induction n with
  | zero => exact fun _ _ _ hn => absurd hn (Nat.not_lt_zero _)
  | succ n ih =>
    intro id l hl hn
    rw [stateAfter?, tellBy]
    split
    · have hmembers : ∀ row ∈ h.links.toList, ∃ r,
          (if row.1.netns = id.netns ∧ row.2.master = some id.name then
            (h.stateAfter? (n + 1) row.1 row.2).map fun state => decide (state = .up)
          else some false) = some r := by
        intro row hrow
        split
        · rename_i hmember
          have hm := mem_rows hrow
          by_cases hd : row.2.device = .bridge
          · have hless := card_inside_lt hloop ⟨row.2, hm, hd, hmember⟩
            obtain ⟨s, hs⟩ := ih row.1 row.2 hm (Nat.lt_of_lt_of_le hless (Nat.le_of_lt_succ hn))
            exact ⟨_, by rw [hs, Option.map_some]⟩
          · exact ⟨_, by rw [stateAfter?_of_ne_bridge hd, Option.map_some]⟩
        · exact ⟨_, rfl⟩
      obtain ⟨up, hup⟩ := anyM_isSome hmembers
      exact ⟨_, by rw [hup, Option.map_some]⟩
    · exact ⟨_, rfl⟩

end Telling

theorem LoopFree.narrow (hloop : h.LoopFree)
    (hrows : h'.Rows fun id l => ∀ b, l.device = .bridge → EnslavedTo b id l → h.Nested id b) :
    h'.LoopFree := by
  have hnested : ∀ inner outer, h'.Nested inner outer → h.Nested inner outer := by
    rintro inner outer ⟨m, hm, hd, he⟩
    exact hrows inner m hm outer hd he
  exact fun b hb => hloop b (TransGen.mono hnested b b hb)

end Host

/-- Whether a call asks a question or takes something away. -/
def NetCall.clears : NetCall → Bool
  | .deleteLink _ | .deleteNamespace _ => true
  | c => !c.mutates

open Host in
theorem Host.LoopFree.answer {h : Host} (hloop : h.LoopFree) {c : NetCall}
    (hc : c.clears = true) : (h.answer c).2.LoopFree := by
  have hrows : h.Rows fun id l => ∀ b, l.device = .bridge → EnslavedTo b id l → h.Nested id b :=
    fun id l hl b hd he => ⟨l, hl, hd, he⟩
  have hfreed : ∀ (id : LinkId) (l : Link),
      (∀ b, l.device = .bridge → EnslavedTo b id l → h.Nested id b) →
      ∀ b, l.device = .bridge → EnslavedTo b id { l with master := none } → h.Nested id b :=
    fun _ _ _ _ _ he => nomatch he.2
  have hchange : ∀ r : Except NetError Host, (∀ h', r = .ok h' → h'.LoopFree) →
      (h.change r).2.LoopFree := by
    intro r hr
    obtain ⟨_, ok⟩ | ⟨_, _, hsame⟩ := change_cases (h := h) r
    · exact hr _ ok
    · rw [hsame]
      exact hloop
  cases c with
  | link | links | addresses | namespaces => exact hloop
  | deleteLink a =>
    refine hchange _ fun h' ok => ?_
    obtain ⟨_, rfl⟩ := deleteLink_eq_ok.mp ok
    exact hloop.narrow (hrows.remove hfreed _)
  | deleteNamespace ns =>
    exact hchange _ fun h' ok => hloop.narrow (hrows.deleteNamespace hfreed ok)
  | addVeth | addBridge | setAdmin | setMaster | setNetns | addAddress | addNamespace => cases hc

/-- Whatever is replied, the program asks questions and takes things away, and does nothing else. -/
def Clears {α : Type} (p : NetProgram α) : Prop :=
  p.Only fun c : NetCall => c.clears = true

section Clears

open Program

theorem clears_ask {c : NetCall} (hc : c.clears = true) : Clears (Net.ask c).run :=
  ⟨hc, fun _ => trivial⟩

theorem clears_present (ns : String) : Clears (Namespace.present ns) := by
  refine (clears_ask rfl).bind fun r => ?_
  cases r <;> trivial

theorem clears_find? (name : String) : Clears (Net.find? name) := by
  refine (clears_ask rfl).bind fun r => ?_
  cases r <;> trivial

theorem Veth.clears_find? (name : String) : Clears (find? name) :=
  (SandboxNet.clears_find? name).bind fun _ => trivial

theorem Veth.clears_present (name : String) : Clears (present name) :=
  (clears_find? name).bind fun _ => trivial

theorem Veth.clears_delete (name : String) : Clears (delete name).run := by
  have hget : Clears (get name).run := by
    refine (clears_find? name).lift_bind fun found => ?_
    cases found <;> trivial
  exact hget.except_bind fun _ => clears_ask rfl

theorem Bridge.clears_present (name : String) : Clears (present name) := by
  have hfind : Clears (find? name) := (clears_find? name).bind fun _ => trivial
  exact hfind.bind fun _ => trivial

namespace Attachment

theorem clears_detach (bridge sandbox : String) : Clears (detach bridge sandbox).run := by
  refine Only.except_bind trivial fun names => ?_
  refine (Bridge.clears_present bridge).lift_bind fun there => ?_
  cases there with
  | false => trivial
  | true =>
    refine (Veth.clears_present names.hostVeth).lift_bind fun paired => ?_
    cases paired with
    | false => trivial
    | true => exact Veth.clears_delete names.hostVeth

theorem clears_dropNamespace (ns : String) : Clears (dropNamespace ns) := by
  refine (clears_present ns).bind fun there => ?_
  cases there with
  | false => trivial
  | true =>
    have hdelete : Clears (Namespace.delete ns).run := by
      refine (clears_present ns).lift_bind fun there => ?_
      cases there with
      | false => trivial
      | true => exact clears_ask rfl
    exact hdelete.bind fun _ => trivial

/-- Taking the network of a sandbox away does nothing but that. -/
theorem clears_cleanup (sandbox bridge : String) : Clears (cleanup sandbox bridge) := by
  rw [cleanup]
  cases WireNames.forSandbox sandbox with
  | error e => trivial
  | ok names =>
    refine Only.bind ((clears_detach bridge sandbox).bind fun _ => trivial) fun _ => ?_
    refine (clears_dropNamespace names.netns).bind fun _ => ?_
    refine (Veth.clears_present names.hostVeth).bind fun _ => ?_
    exact (clears_present names.netns).bind fun _ => trivial

end Attachment

end Clears

end SandboxNet
