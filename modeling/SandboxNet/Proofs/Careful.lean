import Mathlib.Logic.Relation
import SandboxNet.Proofs.AttachmentOutcomes

/-! The changes that the managers make to a host. The host itself takes any name and moves links of
any kind; a manager checks the name first, or looks up what the link is. A look-up that fails finds
nothing, so it never lets a change through. -/
namespace SandboxNet

variable {α β : Type} {h h' : Host} {name peer bridge address ns : String}

namespace Host

/-- One change made with the care of a manager. -/
inductive GuardedChange (h h' : Host) : Prop where
  | addVeth {a b : String} (ha : NameRule.veth.check a = .ok ())
      (hb : NameRule.veth.check b = .ok ()) (ok : h.addVeth a b = .ok h')
  | addBridge {b : String} (hb : NameRule.bridge.check b = .ok ()) (ok : h.addBridge b = .ok h')
  | deleteVeth {a : String} {p : LinkId} (hd : h.deviceAt ⟨none, a⟩ = some (.veth p))
      (ok : h.deleteLink a = .ok h')
  | deleteBridge {b : String} (hd : h.deviceAt ⟨none, b⟩ = some .bridge)
      (ok : h.deleteLink b = .ok h')
  | setAdmin {netns : Option String} {a : String} {up : Bool} (ok : h.setAdmin netns a up = .ok h')
  | setMaster {a : String} {p : LinkId} {master : Option String}
      (hd : h.deviceAt ⟨none, a⟩ = some (.veth p)) (ok : h.setMaster a master = .ok h')
  | setNetns {a ns : String} {p : LinkId} (hd : h.deviceAt ⟨none, a⟩ = some (.veth p))
      (ok : h.setNetns a ns = .ok h')
  | addAddress {a address : String} (ha : Address.check address = .ok ())
      (ok : h.addAddress a address = .ok h')
  | addNamespace {ns : String} (hn : NameRule.netns.check ns = .ok ())
      (ok : h.addNamespace ns = .ok h')
  | deleteNamespace {ns : String} (ok : h.deleteNamespace ns = .ok h')

theorem GuardedChange.change (hc : GuardedChange h h') : Change h h' := by
  cases hc with
  | addVeth _ _ ok => exact .addVeth ok
  | addBridge _ ok => exact .addBridge ok
  | deleteVeth _ ok => exact .deleteLink ok
  | deleteBridge _ ok => exact .deleteLink ok
  | setAdmin ok => exact .setAdmin ok
  | setMaster _ ok => exact .setMaster ok
  | setNetns _ ok => exact .setNetns ok
  | addAddress _ ok => exact .addAddress ok
  | addNamespace _ ok => exact .addNamespace ok
  | deleteNamespace ok => exact .deleteNamespace ok

/-- Changes made with the care of a manager, one after another. -/
abbrev Guarded : Host → Host → Prop :=
  Relation.ReflTransGen GuardedChange

end Host

/-- Whatever fails, the program makes no change on this host but with care. -/
def Careful (h : Host) (p : NetProgram α) : Prop :=
  ∀ (a : α) (h' : Host), Yields p h a h' → h.Guarded h'

section Rules

theorem careful_done (a : α) : Careful h (.done a : NetProgram α) := by
  intro _ _ hy
  rw [hy.2]

/-- A program that changes nothing. -/
theorem careful_of_asks {p : NetProgram α} (hp : ∀ {a h'}, Yields p h a h' → h' = h) :
    Careful h p := by
  intro _ _ hy
  rw [hp hy]

theorem careful_query {c : NetCall} (hc : c.mutates = false) : Careful h (Net.ask c).run := by
  apply careful_of_asks
  intro r h' hy
  obtain ⟨_, _, rfl⟩ | ha := yields_ask.mp hy
  · rfl
  · cases c with
    | link | links | addresses | namespaces => exact (congrArg Prod.snd ha).symm
    | _ => cases hc

theorem careful_change {p : Net Unit} {x : Except NetError Host}
    (hp : ∀ {r h'}, Yields p.run h r h' → (∃ e, r = .error e ∧ h' = h) ∨ h.change x = (r, h'))
    (hx : ∀ h', x = .ok h' → h.GuardedChange h') : Careful h p.run := by
  intro r h' hy
  obtain ⟨_, _, rfl⟩ | ⟨_, ok⟩ := settled (hp hy)
  · exact .refl
  · exact .single (hx h' ok)

theorem Careful.bind {p : NetProgram α} {f : α → NetProgram β} (hp : Careful h p)
    (hf : ∀ a h₁, Yields p h a h₁ → Careful h₁ (f a)) : Careful h (p >>= f) := by
  intro b h' hy
  obtain ⟨a, h₁, first, rest⟩ := yields_bind.mp hy
  exact (hp a h₁ first).trans (hf a h₁ first b h' rest)

theorem Careful.map {p : NetProgram α} {f : α → β} (hp : Careful h p) : Careful h (f <$> p) := by
  intro b h' hy
  obtain ⟨a, _, hy⟩ := yields_map.mp hy
  exact hp a h' hy

theorem Careful.net_bind {p : Net α} {f : α → Net β} (hp : Careful h p.run)
    (hf : ∀ a h₁, Yields p.run h (.ok a) h₁ → Careful h₁ (f a).run) :
    Careful h (p >>= f).run := by
  intro r h' hy
  obtain ⟨_, _, first⟩ | ⟨a, h₁, first, rest⟩ := yields_net_bind.mp hy
  · exact hp _ h' first
  · exact (hp _ h₁ first).trans (hf a h₁ first r h' rest)

theorem Careful.lift_bind {p : NetProgram α} {f : α → Net β} (hp : Careful h p)
    (hf : ∀ a h₁, Yields p h a h₁ → Careful h₁ (f a).run) :
    Careful h (liftM p >>= f : Net β).run := by
  intro r h' hy
  obtain ⟨a, h₁, first, rest⟩ := yields_lift_bind.mp hy
  exact (hp a h₁ first).trans (hf a h₁ first r h' rest)

theorem careful_check_bind {x : Except NetError α} {f : α → Net β}
    (hf : ∀ a, x = .ok a → Careful h (f a).run) : Careful h (Net.ofExcept x >>= f).run := by
  intro r h' hy
  obtain ⟨_, _, _, rfl⟩ | ⟨a, ha, rest⟩ := yields_check_bind.mp hy
  · exact .refl
  · exact hf a ha r h' rest

theorem careful_throw_bind {e : NetError} {f : α → Net β} :
    Careful h (throw e >>= f : Net β).run :=
  careful_of_asks fun hy => (yields_throw_bind.mp hy).2

theorem Careful.discard {p : Net α} (hp : Careful h p.run) : Careful h (Net.discard p) := by
  intro _ h' hy
  obtain ⟨r, hy⟩ := yields_discard.mp hy
  exact hp r h' hy

end Rules

namespace Namespace

theorem careful_present : Careful h (present ns) :=
  careful_of_asks fun hy => (present_outcome hy).1

theorem careful_create : Careful h (create ns).run := by
  refine careful_check_bind fun _ hn => ?_
  refine careful_present.lift_bind fun there h₁ _ => ?_
  cases there with
  | true => exact careful_throw_bind
  | false => exact careful_change yields_ask.mp fun _ ok => .addNamespace hn ok

theorem careful_ensure : Careful h (ensure ns).run := by
  refine careful_present.lift_bind fun there h₁ _ => ?_
  cases there with
  | true => exact careful_done _
  | false => exact careful_create.net_bind fun _ _ _ => careful_done _

theorem careful_delete : Careful h (delete ns).run := by
  refine careful_present.lift_bind fun there h₁ _ => ?_
  cases there with
  | false => exact careful_throw_bind
  | true => exact careful_change yields_ask.mp fun _ ok => .deleteNamespace ok

end Namespace

namespace Veth

theorem careful_find? : Careful h (find? name) :=
  careful_of_asks fun hy => (find?_outcome hy).1

theorem careful_present : Careful h (present name) :=
  careful_of_asks fun hy => (present_outcome hy).1

/-- What is done to an end that was looked up is done to an end that is there. -/
theorem careful_get_bind {f : LinkRecord → Net β}
    (hf : ∀ l p, h.deviceAt ⟨none, name⟩ = some (.veth p) → Careful h (f l).run) :
    Careful h (get name >>= f).run := by
  refine Careful.net_bind (careful_of_asks fun hy => (get_outcome hy).1) fun l h₁ hy => ?_
  obtain ⟨rfl, hv⟩ := get_outcome hy
  obtain ⟨p, hd⟩ := hv l rfl
  exact hf l p hd

theorem careful_create : Careful h (create name peer).run := by
  refine careful_check_bind fun _ ha => ?_
  refine careful_check_bind fun _ hb => ?_
  split
  · exact careful_throw_bind
  · refine Careful.net_bind (careful_of_asks requireFree_outcome) fun _ _ _ => ?_
    refine Careful.net_bind (careful_of_asks requireFree_outcome) fun _ _ _ => ?_
    exact careful_change yields_ask.mp fun _ ok => .addVeth ha hb ok

theorem careful_delete : Careful h (delete name).run :=
  careful_get_bind fun _ _ hd => careful_change yields_ask.mp fun _ ok => .deleteVeth hd ok

theorem careful_deletePair : Careful h (deletePair name peer).run := by
  refine careful_present.lift_bind fun there _ _ => ?_
  cases there with
  | true => exact careful_delete
  | false =>
    refine careful_present.lift_bind fun there _ _ => ?_
    cases there with
    | true => exact careful_delete
    | false => exact careful_of_asks And.right

theorem careful_setAdmin {netns : Option String} {up : Bool} :
    Careful h (Net.setAdmin netns name up).run :=
  careful_change yields_ask.mp fun _ ok => .setAdmin ok

theorem careful_attachTo (target : Target) : Careful h (attachTo name target).run := by
  refine careful_get_bind fun _ p hd => ?_
  cases target with
  | bridge bridge =>
    refine Careful.net_bind ?_ fun _ _ _ => careful_setAdmin
    exact careful_change yields_ask.mp fun _ ok => .setMaster hd ok
  | netns ns =>
    refine Careful.net_bind ?_ fun _ _ _ => ?_
    · exact careful_change yields_ask.mp fun _ ok => .setNetns hd ok
    · exact careful_setAdmin.net_bind fun _ _ _ => careful_setAdmin.discard.map

theorem careful_attach {target : String} : Careful h (attach name target).run :=
  Careful.net_bind (careful_of_asks Target.classify_outcome) fun target _ _ =>
    careful_attachTo target

theorem careful_detach : Careful h (detach name).run := by
  refine careful_get_bind fun l p hd => ?_
  split
  · exact careful_change yields_ask.mp fun _ ok => .setMaster hd ok
  · exact careful_done _

theorem careful_setUp {up : Bool} : Careful h (setUp name up).run :=
  careful_get_bind fun _ _ _ => careful_setAdmin

theorem careful_state : Careful h (state name) := by
  refine careful_find?.bind fun found _ _ => ?_
  cases found with
  | some l => exact careful_done _
  | none => exact careful_done _

theorem careful_status : Careful h (status name).run := by
  refine careful_state.lift_bind fun s _ _ => ?_
  split
  · exact careful_throw_bind
  · exact careful_done _

theorem careful_list : Careful h list.run :=
  Careful.net_bind (careful_query rfl) fun _ _ _ => careful_done _

theorem careful_listPairs : Careful h listPairs.run :=
  careful_list.net_bind fun _ _ _ => careful_done _

theorem careful_info : Careful h (info name).run :=
  careful_get_bind fun _ _ _ => Careful.net_bind (careful_query rfl) fun _ _ _ => careful_done _

end Veth

namespace Bridge

theorem careful_find? : Careful h (find? name) :=
  careful_of_asks fun hy => (find?_outcome hy).1

theorem careful_get : Careful h (get name).run :=
  careful_of_asks fun hy => (get_outcome hy).1

theorem careful_present : Careful h (present name) :=
  careful_of_asks fun hy => (present_outcome hy).1

theorem careful_ensure (hb : NameRule.bridge.check name = .ok ()) :
    Careful h (ensure name).run := by
  refine careful_present.lift_bind fun there _ _ => ?_
  cases there with
  | true => exact careful_done _
  | false =>
    refine Careful.lift_bind (careful_of_asks fun hy => (SandboxNet.find?_outcome hy).1)
      fun found _ _ => ?_
    cases found with
    | some l => exact careful_throw_bind
    | none => exact careful_change yields_ask.mp fun _ ok => .addBridge hb ok

theorem careful_ensureAddress (ha : Address.check address = .ok ()) :
    Careful h (ensureAddress name address).run := by
  refine Careful.net_bind (careful_query rfl) fun current _ _ => ?_
  split
  · exact careful_change yields_ask.mp fun _ ok => .addAddress ha ok
  · exact careful_done _

theorem careful_create {address : Option String} : Careful h (create name address).run := by
  refine careful_check_bind fun _ hb => ?_
  refine careful_check_bind fun _ ha => ?_
  refine (careful_ensure hb).net_bind fun _ _ _ => ?_
  cases address with
  | none => exact careful_done _
  | some a => exact careful_ensureAddress ha

/-- The bridge that was looked up is still one after it was brought down. -/
theorem careful_delete : Careful h (delete name).run := by
  refine careful_get.net_bind fun l h₁ hy => ?_
  obtain ⟨rfl, hb⟩ := get_outcome hy
  refine Veth.careful_setAdmin.discard.lift_bind fun _ h₂ hdown => ?_
  have hd : h₂.deviceAt ⟨none, name⟩ = some .bridge := by
    obtain ⟨_, hdown⟩ := yields_discard.mp hdown
    obtain ⟨_, _, rfl⟩ | ⟨_, ok⟩ := settled (yields_ask.mp hdown)
    · exact hb l rfl
    · obtain ⟨_, rfl⟩ := Host.setAdmin_eq_ok.mp ok
      rw [Host.deviceAt_update]
      · exact hb l rfl
      · exact fun _ => rfl
  exact careful_change yields_ask.mp fun _ ok => .deleteBridge hd ok

theorem careful_setUp {up : Bool} : Careful h (setUp name up).run :=
  careful_get.net_bind fun _ _ _ => Veth.careful_setAdmin

theorem careful_state : Careful h (state name) := by
  refine careful_find?.bind fun found _ _ => ?_
  cases found with
  | some l => exact careful_done _
  | none => exact careful_done _

theorem careful_status : Careful h (status name).run :=
  careful_get.net_bind fun _ _ _ => careful_done _

theorem careful_list : Careful h list.run :=
  Careful.net_bind (careful_query rfl) fun _ _ _ => careful_done _

theorem careful_members : Careful h (members name).run :=
  careful_get.net_bind fun _ _ _ =>
    Careful.net_bind (careful_query rfl) fun _ _ _ => careful_done _

theorem careful_addresses : Careful h (addresses name).run :=
  careful_get.net_bind fun _ _ _ => careful_query rfl

theorem careful_attachEnd {veth : String} : Careful h (attachEnd name veth).run :=
  careful_get.net_bind fun _ _ _ => Veth.careful_attachTo _

end Bridge

namespace Attachment

variable {sandbox : String} {names : WireNames}

theorem careful_connect : Careful h (connect bridge names).run := by
  refine (Veth.careful_attachTo _).net_bind fun _ _ _ => ?_
  exact Bridge.careful_setUp.net_bind fun _ _ _ => Veth.careful_attachTo _

theorem careful_attach : Careful h (attach bridge sandbox).run := by
  refine careful_check_bind fun names _ => ?_
  refine Bridge.careful_create.net_bind fun _ _ _ => ?_
  refine Namespace.careful_ensure.net_bind fun _ _ _ => ?_
  refine Veth.careful_create.net_bind fun _ _ _ => ?_
  refine Careful.net_bind careful_connect.map fun outcome _ _ => ?_
  cases outcome with
  | ok _ => exact careful_done _
  | error e => exact Veth.careful_deletePair.discard.lift_bind fun _ _ _ => careful_done _

theorem careful_detach : Careful h (detach bridge sandbox).run := by
  refine careful_check_bind fun names _ => ?_
  refine Bridge.careful_present.lift_bind fun there _ _ => ?_
  cases there with
  | false => exact careful_throw_bind
  | true =>
    refine Veth.careful_present.lift_bind fun there _ _ => ?_
    cases there with
    | false => exact careful_done _
    | true => exact Veth.careful_delete

theorem careful_dropNamespace : Careful h (dropNamespace ns) := by
  refine Namespace.careful_present.bind fun there _ _ => ?_
  cases there with
  | false => exact careful_done _
  | true => exact Namespace.careful_delete.discard

theorem careful_cleanup : Careful h (cleanup sandbox bridge) := by
  rw [cleanup]
  split
  · exact careful_done _
  · refine careful_detach.discard.bind fun _ _ _ => ?_
    refine careful_dropNamespace.bind fun _ _ _ => ?_
    refine Veth.careful_present.bind fun _ _ _ => ?_
    exact Namespace.careful_present.bind fun _ _ _ => careful_done _

end Attachment

inductive NamespaceRequest where
  | present (name : String)
  | list
  | create (name : String)
  | ensure (name : String)
  | delete (name : String)

/-- What a request does; the answer to it is left out. -/
def NamespaceRequest.program : NamespaceRequest → NetProgram Unit
  | present name => do let _ ← Namespace.present name
  | list => Net.discard Namespace.list
  | create name => Net.discard (Namespace.create name)
  | ensure name => Net.discard (Namespace.ensure name)
  | delete name => Net.discard (Namespace.delete name)

theorem NamespaceRequest.careful (r : NamespaceRequest) : Careful h r.program := by
  cases r with
  | present name => exact Namespace.careful_present.bind fun _ _ _ => careful_done _
  | list => exact Careful.discard (careful_query rfl)
  | create name => exact Namespace.careful_create.discard
  | ensure name => exact Namespace.careful_ensure.discard
  | delete name => exact Namespace.careful_delete.discard

inductive VethRequest where
  | present (name : String)
  | state (name : String)
  | status (name : String)
  | info (name : String)
  | list
  | listPairs
  | create (name peer : String)
  | delete (name : String)
  | deletePair (name peer : String)
  | attach (name target : String)
  | attachTo (name : String) (target : Target)
  | detach (name : String)
  | setUp (name : String) (up : Bool)

def VethRequest.program : VethRequest → NetProgram Unit
  | present name => do let _ ← Veth.present name
  | state name => do let _ ← Veth.state name
  | status name => Net.discard (Veth.status name)
  | info name => Net.discard (Veth.info name)
  | list => Net.discard Veth.list
  | listPairs => Net.discard Veth.listPairs
  | create name peer => Net.discard (Veth.create name peer)
  | delete name => Net.discard (Veth.delete name)
  | deletePair name peer => Net.discard (Veth.deletePair name peer)
  | attach name target => Net.discard (Veth.attach name target)
  | attachTo name target => Net.discard (Veth.attachTo name target)
  | detach name => Net.discard (Veth.detach name)
  | setUp name up => Net.discard (Veth.setUp name up)

theorem VethRequest.careful (r : VethRequest) : Careful h r.program := by
  cases r with
  | present name => exact Veth.careful_present.bind fun _ _ _ => careful_done _
  | state name => exact Veth.careful_state.bind fun _ _ _ => careful_done _
  | status name => exact Veth.careful_status.discard
  | info name => exact Veth.careful_info.discard
  | list => exact Veth.careful_list.discard
  | listPairs => exact Veth.careful_listPairs.discard
  | create name peer => exact Veth.careful_create.discard
  | delete name => exact Veth.careful_delete.discard
  | deletePair name peer => exact Veth.careful_deletePair.discard
  | attach name target => exact Veth.careful_attach.discard
  | attachTo name target => exact (Veth.careful_attachTo target).discard
  | detach name => exact Veth.careful_detach.discard
  | setUp name up => exact Veth.careful_setUp.discard

inductive BridgeRequest where
  | present (name : String)
  | state (name : String)
  | status (name : String)
  | list
  | members (name : String)
  | addresses (name : String)
  | create (name : String) (address : Option String)
  | delete (name : String)
  | setUp (name : String) (up : Bool)
  | attachEnd (name veth : String)
  | detachEnd (name veth : String)

def BridgeRequest.program : BridgeRequest → NetProgram Unit
  | present name => do let _ ← Bridge.present name
  | state name => do let _ ← Bridge.state name
  | status name => Net.discard (Bridge.status name)
  | list => Net.discard Bridge.list
  | members name => Net.discard (Bridge.members name)
  | addresses name => Net.discard (Bridge.addresses name)
  | create name address => Net.discard (Bridge.create name address)
  | delete name => Net.discard (Bridge.delete name)
  | setUp name up => Net.discard (Bridge.setUp name up)
  | attachEnd name veth => Net.discard (Bridge.attachEnd name veth)
  | detachEnd name veth => Net.discard (Bridge.detachEnd name veth)

theorem BridgeRequest.careful (r : BridgeRequest) : Careful h r.program := by
  cases r with
  | present name => exact Bridge.careful_present.bind fun _ _ _ => careful_done _
  | state name => exact Bridge.careful_state.bind fun _ _ _ => careful_done _
  | status name => exact Bridge.careful_status.discard
  | list => exact Bridge.careful_list.discard
  | members name => exact Bridge.careful_members.discard
  | addresses name => exact Bridge.careful_addresses.discard
  | create name address => exact Bridge.careful_create.discard
  | delete name => exact Bridge.careful_delete.discard
  | setUp name up => exact Bridge.careful_setUp.discard
  | attachEnd name veth => exact Bridge.careful_attachEnd.discard
  | detachEnd name veth => exact Veth.careful_detach.discard

theorem WireRequest.careful (r : WireRequest) : Careful h r.program := by
  cases r with
  | attach bridge sandbox => exact Attachment.careful_attach.map
  | detach bridge sandbox => exact Attachment.careful_detach.map
  | cleanup sandbox bridge => exact Attachment.careful_cleanup.map

end SandboxNet
