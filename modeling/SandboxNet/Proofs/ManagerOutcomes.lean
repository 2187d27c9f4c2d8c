import SandboxNet.Proofs.Outcomes
import SandboxNet.Proofs.WireNames

/-! What each operation on namespaces, pairs and bridges can end in under faults. A query that fails
counts as "not there", so only a positive answer says something about the host. -/
namespace SandboxNet

variable {h h' : Host} {name peer bridge ns : String} {r : Except NetError Unit}

theorem kind_eq_veth {l : Link} : l.kind = .veth ↔ ∃ p, l.device = .veth p := by
  cases hd : l.device <;> simp [Link.kind, hd]

theorem kind_eq_bridge {l : Link} : l.kind = .bridge ↔ l.device = .bridge := by
  cases hd : l.device <;> simp [Link.kind, hd]

theorem find?_outcome {x : Option LinkRecord} (hy : Yields (Net.find? name) h x h') :
    h' = h ∧ ∀ l, x = some l →
      ∃ lk, h.links[(⟨none, name⟩ : LinkId)]? = some lk ∧ l = h.record ⟨none, name⟩ lk := by
  simp only [Net.find?, yields_bind] at hy
  obtain ⟨reply, h₁, hl, hy⟩ := hy
  have hc : h₁ = h ∧ ((∃ e, reply = .error e) ∨
      reply = .ok (h.links[(⟨none, name⟩ : LinkId)]?.map (h.record ⟨none, name⟩))) := by
    obtain ⟨e, rfl, rfl⟩ | ha := yields_ask.mp hl
    · exact ⟨rfl, Or.inl ⟨e, rfl⟩⟩
    · obtain ⟨rfl, rfl⟩ := Prod.mk.inj ha
      exact ⟨rfl, Or.inr rfl⟩
  obtain ⟨rfl, ⟨e, rfl⟩ | rfl⟩ := hc
  · obtain ⟨rfl, rfl⟩ := hy
    simp
  · obtain ⟨rfl, rfl⟩ := hy
    refine ⟨rfl, fun l hl => ?_⟩
    obtain ⟨lk, hlk, rfl⟩ := Option.map_eq_some_iff.mp hl
    exact ⟨lk, hlk, rfl⟩

namespace Namespace

theorem present_outcome {x : Bool} (hy : Yields (present ns) h x h') :
    h' = h ∧ (x = true → ns ∈ h.netns) := by
  simp only [present, yields_bind] at hy
  obtain ⟨reply, h₁, hl, hy⟩ := hy
  obtain ⟨e, rfl, rfl⟩ | ha := yields_ask.mp hl
  · obtain ⟨rfl, rfl⟩ := hy
    simp
  · obtain ⟨rfl, rfl⟩ := Prod.mk.inj ha
    obtain ⟨rfl, rfl⟩ := hy
    refine ⟨rfl, fun hc => ?_⟩
    simpa using hc

theorem create_outcome (hy : Yields (create ns).run h r h') :
    (∃ e, r = .error e ∧ h' = h) ∨ (r = .ok () ∧ h.addNamespace ns = .ok h') := by
  obtain ⟨e, _, rfl, rfl⟩ | ⟨_, _, hy⟩ := yields_check_bind.mp hy
  · exact Or.inl ⟨e, rfl, rfl⟩
  obtain ⟨x, h₁, hp, hy⟩ := yields_lift_bind.mp hy
  obtain ⟨rfl, _⟩ := present_outcome hp
  cases x with
  | true =>
    obtain ⟨rfl, rfl⟩ := yields_throw_bind.mp hy
    exact Or.inl ⟨_, rfl, rfl⟩
  | false => exact settled (yields_ask.mp hy)

theorem ensure_outcome {x : Except NetError Bool} (hy : Yields (ensure ns).run h x h') :
    (∃ e, x = .error e ∧ h' = h) ∨
      (∃ made, x = .ok made ∧ ((h' = h ∧ ns ∈ h.netns) ∨ h.addNamespace ns = .ok h')) := by
  obtain ⟨there, h₁, hp, hy⟩ := yields_lift_bind.mp hy
  obtain ⟨rfl, hin⟩ := present_outcome hp
  cases there with
  | true =>
    obtain ⟨rfl, rfl⟩ := hy
    exact Or.inr ⟨false, rfl, Or.inl ⟨rfl, hin rfl⟩⟩
  | false =>
    obtain ⟨e, rfl, hc⟩ | ⟨_, h₂, hc, rfl, rfl⟩ := yields_net_bind.mp hy
    · obtain ⟨e', _, rfl⟩ | ⟨he, _⟩ := create_outcome hc
      · exact Or.inl ⟨e, rfl, rfl⟩
      · cases he
    · obtain ⟨e, he, _⟩ | ⟨_, ok⟩ := create_outcome hc
      · cases he
      · exact Or.inr ⟨true, rfl, Or.inr ok⟩

theorem delete_outcome (hy : Yields (delete ns).run h r h') :
    (∃ e, r = .error e ∧ h' = h) ∨ (r = .ok () ∧ h.deleteNamespace ns = .ok h') := by
  obtain ⟨there, h₁, hp, hy⟩ := yields_lift_bind.mp hy
  obtain ⟨rfl, _⟩ := present_outcome hp
  cases there with
  | false =>
    obtain ⟨rfl, rfl⟩ := yields_throw_bind.mp hy
    exact Or.inl ⟨_, rfl, rfl⟩
  | true => exact settled (yields_ask.mp hy)

end Namespace

theorem Target.classify_outcome {x : Except NetError Target}
    (out : Yields (classify name).run h x h') : h' = h := by
  obtain ⟨found, h₁, hfind, after⟩ := yields_lift_bind.mp out
  obtain ⟨rfl, _⟩ := find?_outcome hfind
  split at after
  · exact after.2
  obtain ⟨there, h₂, hpresent, last⟩ := yields_lift_bind.mp after
  obtain ⟨rfl, _⟩ := Namespace.present_outcome hpresent
  cases there with
  | true => exact last.2
  | false => exact last.2

namespace Veth

theorem find?_outcome {x : Option LinkRecord} (hy : Yields (find? name) h x h') :
    h' = h ∧ (x.isSome = true → ∃ p, h.deviceAt ⟨none, name⟩ = some (.veth p)) := by
  obtain ⟨found, h₁, hf, rfl, rfl⟩ := yields_bind.mp hy
  obtain ⟨rfl, hlk⟩ := SandboxNet.find?_outcome hf
  refine ⟨rfl, fun hx => ?_⟩
  obtain ⟨l, hl⟩ := Option.isSome_iff_exists.mp hx
  obtain ⟨hl, hk⟩ := Option.filter_eq_some_iff.mp hl
  obtain ⟨lk, hlk, rfl⟩ := hlk l hl
  obtain ⟨p, hp⟩ := kind_eq_veth.mp (of_decide_eq_true hk)
  exact ⟨p, by rw [Host.deviceAt_of_some hlk, hp]⟩

theorem present_outcome {x : Bool} (hy : Yields (present name) h x h') :
    h' = h ∧ (x = true → ∃ p, h.deviceAt ⟨none, name⟩ = some (.veth p)) := by
  obtain ⟨found, h₁, hf, rfl, rfl⟩ := yields_bind.mp hy
  exact find?_outcome hf

theorem get_outcome {x : Except NetError LinkRecord} (hy : Yields (get name).run h x h') :
    h' = h ∧ (∀ l, x = .ok l → ∃ p, h.deviceAt ⟨none, name⟩ = some (.veth p)) := by
  obtain ⟨found, h₁, hf, hy⟩ := yields_lift_bind.mp hy
  obtain ⟨rfl, hv⟩ := find?_outcome hf
  cases found with
  | none =>
    obtain ⟨rfl, rfl⟩ := hy
    simp
  | some l =>
    obtain ⟨rfl, rfl⟩ := hy
    exact ⟨rfl, fun _ _ => hv rfl⟩

theorem requireFree_outcome (hy : Yields (requireFree name).run h r h') : h' = h := by
  obtain ⟨found, h₁, hf, hy⟩ := yields_lift_bind.mp hy
  obtain ⟨rfl, _⟩ := SandboxNet.find?_outcome hf
  cases found with
  | none => exact hy.2
  | some l => exact hy.2

/-- Both ends are made, where no link was, or nothing is. -/
theorem create_outcome (hy : Yields (create name peer).run h r h') :
    (∃ e, r = .error e ∧ h' = h) ∨ (r = .ok () ∧ h.addVeth name peer = .ok h') := by
  obtain ⟨e, _, rfl, rfl⟩ | ⟨_, _, hy⟩ := yields_check_bind.mp hy
  · exact Or.inl ⟨e, rfl, rfl⟩
  obtain ⟨e, _, rfl, rfl⟩ | ⟨_, _, hy⟩ := yields_check_bind.mp hy
  · exact Or.inl ⟨e, rfl, rfl⟩
  split at hy
  · obtain ⟨rfl, rfl⟩ := yields_throw_bind.mp hy
    exact Or.inl ⟨_, rfl, rfl⟩
  · obtain ⟨e, rfl, hq⟩ | ⟨_, h₁, hq, hy⟩ := yields_net_bind.mp hy
    · exact Or.inl ⟨e, rfl, requireFree_outcome hq⟩
    rw [requireFree_outcome hq] at hy
    obtain ⟨e, rfl, hq⟩ | ⟨_, h₁, hq, hy⟩ := yields_net_bind.mp hy
    · exact Or.inl ⟨e, rfl, requireFree_outcome hq⟩
    rw [requireFree_outcome hq] at hy
    exact settled (yields_ask.mp hy)

theorem delete_outcome (out : Yields (delete name).run h r h') :
    (∃ e, r = .error e ∧ h' = h) ∨
      (r = .ok () ∧ (∃ p, h.deviceAt ⟨none, name⟩ = some (.veth p)) ∧
        h' = h.remove ⟨none, name⟩) := by
  obtain ⟨e, rfl, hg⟩ | ⟨l, h₁, hg, hy⟩ := yields_net_bind.mp out
  · exact Or.inl ⟨e, rfl, (get_outcome hg).1⟩
  obtain ⟨rfl, hv⟩ := get_outcome hg
  obtain ⟨e, rfl, rfl⟩ | ⟨rfl, ok⟩ := settled (yields_ask.mp hy)
  · exact Or.inl ⟨e, rfl, rfl⟩
  · exact Or.inr ⟨rfl, hv l rfl, (Host.deleteLink_eq_ok.mp ok).2⟩

theorem deletePair_outcome (hy : Yields (deletePair name peer).run h r h') :
    (∃ e, r = .error e ∧ h' = h) ∨
      (r = .ok () ∧ ∃ n, (n = name ∨ n = peer) ∧
        (∃ p, h.deviceAt ⟨none, n⟩ = some (.veth p)) ∧ h' = h.remove ⟨none, n⟩) := by
  obtain ⟨there, h₁, hp, hy⟩ := yields_lift_bind.mp hy
  obtain ⟨rfl, _⟩ := present_outcome hp
  cases there with
  | true =>
    obtain ⟨e, rfl, rfl⟩ | ⟨rfl, hv, rfl⟩ := delete_outcome hy
    · exact Or.inl ⟨e, rfl, rfl⟩
    · exact Or.inr ⟨rfl, name, Or.inl rfl, hv, rfl⟩
  | false =>
    obtain ⟨there, h₁, hp, hy⟩ := yields_lift_bind.mp hy
    obtain ⟨rfl, _⟩ := present_outcome hp
    cases there with
    | true =>
      obtain ⟨e, rfl, rfl⟩ | ⟨rfl, hv, rfl⟩ := delete_outcome hy
      · exact Or.inl ⟨e, rfl, rfl⟩
      · exact Or.inr ⟨rfl, peer, Or.inr rfl, hv, rfl⟩
    | false =>
      obtain ⟨rfl, rfl⟩ := hy
      exact Or.inl ⟨_, rfl, rfl⟩

theorem attachTo_bridge_outcome (out : Yields (attachTo name (.bridge bridge)).run h r h') :
    (∃ e, r = .error e ∧ (h' = h ∨ h.setMaster name (some bridge) = .ok h')) ∨
      (r = .ok () ∧ ∃ h₁, h.setMaster name (some bridge) = .ok h₁ ∧
        h₁.setAdmin none name true = .ok h') := by
  obtain ⟨e, rfl, hg⟩ | ⟨l, h₁, hg, after⟩ := yields_net_bind.mp out
  · exact Or.inl ⟨e, rfl, Or.inl (get_outcome hg).1⟩
  obtain ⟨rfl, _⟩ := get_outcome hg
  obtain ⟨e, rfl, rfl⟩ | ⟨h₂, okm, last⟩ := settled_bind yields_ask.mp after
  · exact Or.inl ⟨e, rfl, Or.inl rfl⟩
  obtain ⟨e, rfl, rfl⟩ | ⟨rfl, oka⟩ := settled (yields_ask.mp last)
  · exact Or.inl ⟨e, rfl, Or.inr okm⟩
  · exact Or.inr ⟨rfl, h₂, okm, oka⟩

theorem attachTo_netns_outcome (out : Yields (attachTo name (.netns ns)).run h r h') :
    (∃ e, r = .error e ∧ (h' = h ∨ h.setNetns name ns = .ok h')) ∨
      (r = .ok () ∧ ∃ h₁ h₂, h.setNetns name ns = .ok h₁ ∧
        h₁.setAdmin (some ns) name true = .ok h₂ ∧
          (h' = h₂ ∨ h₂.setAdmin (some ns) "lo" true = .ok h')) := by
  obtain ⟨e, rfl, hg⟩ | ⟨l, h₁, hg, after⟩ := yields_net_bind.mp out
  · exact Or.inl ⟨e, rfl, Or.inl (get_outcome hg).1⟩
  obtain ⟨rfl, _⟩ := get_outcome hg
  obtain ⟨e, rfl, rfl⟩ | ⟨h₂, okm, moved⟩ := settled_bind yields_ask.mp after
  · exact Or.inl ⟨e, rfl, Or.inl rfl⟩
  obtain ⟨e, rfl, rfl⟩ | ⟨h₃, oka, last⟩ := settled_bind yields_ask.mp moved
  · exact Or.inl ⟨e, rfl, Or.inr okm⟩
  -- the loopback of the namespace comes up or not; the reply is the same
  obtain ⟨_, rfl, hlo⟩ := yields_lift.mp last
  obtain ⟨x, hlo⟩ := yields_discard.mp hlo
  obtain ⟨_, _, rfl⟩ | ⟨_, okl⟩ := settled (yields_ask.mp hlo)
  · exact Or.inr ⟨rfl, h₂, h', okm, oka, Or.inl rfl⟩
  · exact Or.inr ⟨rfl, h₂, h₃, okm, oka, Or.inr okl⟩

end Veth

namespace Bridge

theorem find?_outcome {x : Option LinkRecord} (hy : Yields (find? bridge) h x h') :
    h' = h ∧ (x.isSome = true → h.deviceAt ⟨none, bridge⟩ = some .bridge) := by
  obtain ⟨found, h₁, hf, rfl, rfl⟩ := yields_bind.mp hy
  obtain ⟨rfl, hlk⟩ := SandboxNet.find?_outcome hf
  refine ⟨rfl, fun hx => ?_⟩
  obtain ⟨l, hl⟩ := Option.isSome_iff_exists.mp hx
  obtain ⟨hl, hk⟩ := Option.filter_eq_some_iff.mp hl
  obtain ⟨lk, hlk, rfl⟩ := hlk l hl
  rw [Host.deviceAt_of_some hlk, kind_eq_bridge.mp (of_decide_eq_true hk)]

theorem present_outcome {x : Bool} (hy : Yields (present bridge) h x h') :
    h' = h ∧ (x = true → h.deviceAt ⟨none, bridge⟩ = some .bridge) := by
  obtain ⟨found, h₁, hf, rfl, rfl⟩ := yields_bind.mp hy
  exact find?_outcome hf

theorem get_outcome {x : Except NetError LinkRecord} (hy : Yields (get bridge).run h x h') :
    h' = h ∧ (∀ l, x = .ok l → h.deviceAt ⟨none, bridge⟩ = some .bridge) := by
  obtain ⟨found, h₁, hf, hy⟩ := yields_lift_bind.mp hy
  obtain ⟨rfl, hv⟩ := find?_outcome hf
  cases found with
  | none =>
    obtain ⟨rfl, rfl⟩ := hy
    simp
  | some l =>
    obtain ⟨rfl, rfl⟩ := hy
    exact ⟨rfl, fun _ _ => hv rfl⟩

theorem ensure_outcome (out : Yields (ensure bridge).run h r h') :
    (∃ e, r = .error e ∧ h' = h) ∨
      (r = .ok () ∧ ((h' = h ∧ h.deviceAt ⟨none, bridge⟩ = some .bridge) ∨
        h.addBridge bridge = .ok h')) := by
  obtain ⟨there, h₁, hp, after⟩ := yields_lift_bind.mp out
  obtain ⟨rfl, hb⟩ := present_outcome hp
  cases there with
  | true =>
    obtain ⟨rfl, rfl⟩ := after
    exact Or.inr ⟨rfl, Or.inl ⟨rfl, hb rfl⟩⟩
  | false =>
    obtain ⟨found, h₂, hf, last⟩ := yields_lift_bind.mp after
    obtain ⟨rfl, _⟩ := SandboxNet.find?_outcome hf
    cases found with
    | some l =>
      obtain ⟨rfl, rfl⟩ := yields_throw_bind.mp last
      exact Or.inl ⟨_, rfl, rfl⟩
    | none =>
      obtain ⟨e, rfl, rfl⟩ | ⟨rfl, ok⟩ := settled (yields_ask.mp last)
      · exact Or.inl ⟨e, rfl, rfl⟩
      · exact Or.inr ⟨rfl, Or.inr ok⟩

theorem ensure_ok (out : Yields (ensure bridge).run h (.ok ()) h') :
    h'.deviceAt ⟨none, bridge⟩ = some .bridge := by
  obtain ⟨_, he, _⟩ | ⟨_, ⟨rfl, hb⟩ | ok⟩ := ensure_outcome out
  · cases he
  · exact hb
  · obtain ⟨_, rfl⟩ := Host.addBridge_eq_ok.mp ok
    simp [Host.deviceAt, Link.fresh]

/-- Without an address, the bridge is there, or is made, or nothing changes. -/
theorem create_outcome (out : Yields (create bridge none).run h r h') :
    (∃ e, r = .error e ∧ h' = h) ∨
      (r = .ok () ∧ ((h' = h ∧ h.deviceAt ⟨none, bridge⟩ = some .bridge) ∨
        h.addBridge bridge = .ok h')) := by
  obtain ⟨e, _, rfl, rfl⟩ | ⟨_, _, hy⟩ := yields_check_bind.mp out
  · exact Or.inl ⟨e, rfl, rfl⟩
  obtain ⟨e, _, rfl, rfl⟩ | ⟨_, _, hy⟩ := yields_check_bind.mp hy
  · exact Or.inl ⟨e, rfl, rfl⟩
  obtain ⟨e, rfl, hn⟩ | ⟨_, h₁, hn, rfl, rfl⟩ := yields_net_bind.mp hy
  · obtain ⟨_, _, rfl⟩ | ⟨he, _⟩ := ensure_outcome hn
    · exact Or.inl ⟨e, rfl, rfl⟩
    · cases he
  · obtain ⟨_, he, _⟩ | ⟨_, ok⟩ := ensure_outcome hn
    · cases he
    · exact Or.inr ⟨rfl, ok⟩

/-- A link said to have an address had it, or has been given it. -/
theorem ensureAddress_done {address : String} {l : Link}
    (out : Yields (ensureAddress bridge address).run h (.ok ()) h')
    (hl : h.links[(⟨none, bridge⟩ : LinkId)]? = some l) :
    (address ∈ l.addresses ∧ h' = h) ∨ (address ∉ l.addresses ∧
      h' = h.update ⟨none, bridge⟩ fun l => { l with addresses := l.addresses ++ [address] }) := by
  obtain ⟨current, h₁, hc, after⟩ := yields_net_ok out
  have hcur : h₁ = h ∧ current = l.addresses := by
    obtain ⟨_, he, _⟩ | ha := yields_ask.mp hc
    · cases he
    · simp only [Host.answer, Host.addresses, Host.get?, hl, Prod.mk.injEq, Except.ok.injEq] at ha
      exact ⟨ha.2.symm, ha.1.symm⟩
  obtain ⟨rfl, rfl⟩ := hcur
  split at after
  · rename_i hnew
    obtain ⟨_, he, _⟩ | ⟨_, ok⟩ := settled (yields_ask.mp after)
    · cases he
    · obtain ⟨_, _, _, rfl⟩ := Host.addAddress_eq_ok.mp ok
      exact Or.inr ⟨by simpa using hnew, rfl⟩
  · rename_i hin
    obtain ⟨_, rfl⟩ := after
    exact Or.inl ⟨by simpa using hin, rfl⟩

theorem ensureAddress_ok {address : String}
    (out : Yields (ensureAddress bridge address).run h (.ok ()) h')
    (hb : h.deviceAt ⟨none, bridge⟩ = some .bridge) :
    ∃ l, h'.links[(⟨none, bridge⟩ : LinkId)]? = some l ∧ l.device = .bridge ∧
      address ∈ l.addresses := by
  obtain ⟨l, hl, hd⟩ := Option.map_eq_some_iff.mp hb
  obtain ⟨hin, rfl⟩ | ⟨_, rfl⟩ := ensureAddress_done out hl
  · exact ⟨l, hl, hd, hin⟩
  · refine ⟨{ l with addresses := l.addresses ++ [address] }, ?_, hd, by simp⟩
    simp [Host.update_links, hl]

theorem ensureAddress_outcome {address : String}
    (out : Yields (ensureAddress bridge address).run h r h') :
    h' = h ∨ h.addAddress bridge address = .ok h' := by
  have hread : ∀ {x h₁}, Yields (Net.addresses bridge).run h x h₁ → h₁ = h := by
    intro x h₁ hc
    obtain ⟨_, _, rfl⟩ | ha := yields_ask.mp hc
    · rfl
    · exact (congrArg Prod.snd ha).symm
  obtain ⟨_, _, hc⟩ | ⟨current, h₁, hc, after⟩ := yields_net_bind.mp out
  · exact Or.inl (hread hc)
  obtain rfl := hread hc
  split at after
  · obtain ⟨_, _, rfl⟩ | ⟨_, ok⟩ := settled (yields_ask.mp after)
    · exact Or.inl rfl
    · exact Or.inr ok
  · exact Or.inl after.2

/-- A bridge said to be made with an address is there and has it. -/
theorem create_ok {address : Option String}
    (out : Yields (create bridge address).run h (.ok ()) h') :
    ∃ l, h'.links[(⟨none, bridge⟩ : LinkId)]? = some l ∧ l.device = .bridge ∧
      ∀ a, address = some a → a ∈ l.addresses := by
  obtain ⟨e, _, he, _⟩ | ⟨_, _, hy⟩ := yields_check_bind.mp out
  · cases he
  obtain ⟨e, _, he, _⟩ | ⟨_, _, hy⟩ := yields_check_bind.mp hy
  · cases he
  obtain ⟨_, h₁, hn, after⟩ := yields_net_ok hy
  have hb := ensure_ok hn
  cases address with
  | none =>
    obtain ⟨_, rfl⟩ := after
    obtain ⟨l, hl, hd⟩ := Option.map_eq_some_iff.mp hb
    exact ⟨l, hl, hd, by simp⟩
  | some a =>
    obtain ⟨l, hl, hd, ha⟩ := ensureAddress_ok after hb
    refine ⟨l, hl, hd, ?_⟩
    intro a' ha'
    cases ha'
    exact ha

/-- The bridge may have been made, and an address been given to the bridge that is there. -/
theorem create_steps {address : Option String} (out : Yields (create bridge address).run h r h') :
    ∃ h₁, (h₁ = h ∨ h.addBridge bridge = .ok h₁) ∧ (h' = h₁ ∨
      (h₁.deviceAt ⟨none, bridge⟩ = some .bridge ∧ ∃ a, h₁.addAddress bridge a = .ok h')) := by
  obtain ⟨e, _, rfl, rfl⟩ | ⟨_, _, hy⟩ := yields_check_bind.mp out
  · exact ⟨h', Or.inl rfl, Or.inl rfl⟩
  obtain ⟨e, _, rfl, rfl⟩ | ⟨_, _, hy⟩ := yields_check_bind.mp hy
  · exact ⟨h', Or.inl rfl, Or.inl rfl⟩
  obtain ⟨e, rfl, hn⟩ | ⟨_, h₁, hn, after⟩ := yields_net_bind.mp hy
  · obtain ⟨_, _, rfl⟩ | ⟨he, _⟩ := ensure_outcome hn
    · exact ⟨h', Or.inl rfl, Or.inl rfl⟩
    · cases he
  have hmade : h₁ = h ∨ h.addBridge bridge = .ok h₁ := by
    obtain ⟨_, he, _⟩ | ⟨_, ⟨rfl, _⟩ | ok⟩ := ensure_outcome hn
    · cases he
    · exact Or.inl rfl
    · exact Or.inr ok
  refine ⟨h₁, hmade, ?_⟩
  cases address with
  | none => exact Or.inl after.2
  | some a =>
    obtain rfl | ok := ensureAddress_outcome after
    · exact Or.inl rfl
    · exact Or.inr ⟨ensure_ok hn, a, ok⟩

/-- Making a bridge, with an address or without, changes nothing or ends with the bridge there. -/
theorem create_leaves {address : Option String} (out : Yields (create bridge address).run h r h') :
    h' = h ∨ h'.deviceAt ⟨none, bridge⟩ = some .bridge := by
  obtain ⟨h₁, hmade, rfl | ⟨hb, _, ok⟩⟩ := create_steps out
  · rcases hmade with rfl | ok
    · exact Or.inl rfl
    · obtain ⟨_, rfl⟩ := Host.addBridge_eq_ok.mp ok
      simp [Host.deviceAt, Link.fresh]
  · obtain ⟨_, _, _, rfl⟩ := Host.addAddress_eq_ok.mp ok
    right
    rw [Host.deviceAt_update]
    · exact hb
    · exact fun _ => rfl

theorem setUp_outcome {up : Bool} (out : Yields (setUp bridge up).run h r h') :
    (∃ e, r = .error e ∧ h' = h) ∨
      (r = .ok () ∧ h.deviceAt ⟨none, bridge⟩ = some .bridge ∧
        h' = h.update ⟨none, bridge⟩ ({ · with adminUp := up })) := by
  obtain ⟨e, rfl, hg⟩ | ⟨l, h₁, hg, after⟩ := yields_net_bind.mp out
  · exact Or.inl ⟨e, rfl, (get_outcome hg).1⟩
  obtain ⟨rfl, hb⟩ := get_outcome hg
  obtain ⟨e, rfl, rfl⟩ | ⟨rfl, ok⟩ := settled (yields_ask.mp after)
  · exact Or.inl ⟨e, rfl, rfl⟩
  · exact Or.inr ⟨rfl, hb l rfl, (Host.setAdmin_eq_ok.mp ok).2⟩

end Bridge

end SandboxNet
