import SandboxNet.Proofs.QuietRun

/-! Operations that fail on a host whose calls do not fail of themselves. None takes a change back,
and several make more than one, so after its first change an operation must not fail any more. -/
namespace SandboxNet

variable {α β : Type} {h h' h₀ : Host} {ns name peer bridge sandbox : String}

/-- If the program fails on `h`, the host is then `h₀`. -/
def FailsAs (h₀ h : Host) (p : Net α) : Prop :=
  ∀ e h', Host.run p.run h = (.error e, h') → h' = h₀

section Rules

variable {p : Net α} {f : α → Net β}

theorem failsAs_ok {a : α} {h₁ : Host} (hp : Host.run p.run h = (.ok a, h₁)) :
    FailsAs h₀ h p := by
  intro e h' hrun
  cases hp.symm.trans hrun

/-- A program that changes nothing. -/
theorem failsAs_of_asks (hp : ∀ {r h'}, Yields p.run h r h' → h' = h) : FailsAs h h p :=
  fun _ _ hrun => hp (Host.run_yields hrun)

theorem failsAs_throw_bind {e : NetError} : FailsAs h h (throw e >>= f : Net β) :=
  failsAs_of_asks fun hy => (yields_throw_bind.mp hy).2

/-- A call that fails does nothing. -/
theorem failsAs_change {p : Net Unit} {x : Except NetError Host}
    (hp : Host.run p.run h = h.change x) : FailsAs h h p := by
  intro e h' hrun
  obtain ⟨_, _, rfl⟩ | ⟨he, _⟩ := settled (Or.inr (hp.symm.trans hrun))
  · rfl
  · cases he

theorem FailsAs.bind (hp : FailsAs h₀ h p)
    (hf : ∀ a h₁, Host.run p.run h = (.ok a, h₁) → FailsAs h₀ h₁ (f a)) :
    FailsAs h₀ h (p >>= f) := by
  intro e h' hrun
  cases hfirst : Host.run p.run h with
  | mk r h₁ =>
    cases r with
    | ok a => exact hf a h₁ hfirst e h' ((Host.run_net_ok hfirst).symm.trans hrun)
    | error e₁ =>
      obtain ⟨_, rfl⟩ := Prod.mk.inj ((Host.run_net_error hfirst).symm.trans hrun)
      exact hp e₁ h₁ hfirst

/-- After the one change that may fail comes what cannot fail. -/
theorem failsAs_change_bind {p : Net Unit} {f : Unit → Net β} {x : Except NetError Host}
    (hp : Host.run p.run h = h.change x)
    (hf : ∀ h₁, x = .ok h₁ → ∃ b h', Host.run (f ()).run h₁ = (.ok b, h')) :
    FailsAs h h (p >>= f) := by
  refine (failsAs_change hp).bind fun _ h₁ hrun => ?_
  obtain ⟨_, he, _⟩ | ⟨_, ok⟩ := settled (Or.inr (hp.symm.trans hrun))
  · cases he
  obtain ⟨b, h', hlast⟩ := hf h₁ ok
  exact failsAs_ok hlast

theorem failsAs_check_bind {x : Except NetError α} (hf : ∀ a, x = .ok a → FailsAs h h (f a)) :
    FailsAs h h (Net.ofExcept x >>= f) := by
  refine FailsAs.bind (failsAs_of_asks fun hy => ?_) fun a h₁ hrun => ?_
  · exact (yields_ofExcept.mp hy).2
  · obtain ⟨ha, rfl⟩ := yields_ofExcept.mp (Host.run_yields hrun)
    exact hf a ha.symm

/-- A look at the host changes nothing, so it may come before. -/
theorem failsAs_look_bind {p : NetProgram α} (hp : ∀ {a h'}, Yields p h a h' → h' = h)
    (hf : ∀ a, FailsAs h h (f a)) : FailsAs h h (liftM p >>= f : Net β) := by
  intro e h' hrun
  cases hfirst : Host.run p h with
  | mk a h₁ =>
    obtain rfl := hp (Host.run_yields hfirst)
    exact hf a e h' ((Host.run_lift_bind hfirst).symm.trans hrun)

end Rules

namespace Namespace

theorem failsAs_create : FailsAs h h (create ns) := by
  refine failsAs_check_bind fun _ _ => ?_
  refine failsAs_look_bind (fun hy => (present_outcome hy).1) fun there => ?_
  cases there with
  | true => exact failsAs_throw_bind
  | false => exact failsAs_change rfl

theorem failsAs_ensure : FailsAs h h (ensure ns) := by
  refine failsAs_look_bind (fun hy => (present_outcome hy).1) fun there => ?_
  cases there with
  | true => exact failsAs_ok rfl
  | false => exact failsAs_create.bind fun _ _ _ => failsAs_ok rfl

theorem failsAs_delete : FailsAs h h (delete ns) := by
  refine failsAs_look_bind (fun hy => (present_outcome hy).1) fun there => ?_
  cases there with
  | true => exact failsAs_change rfl
  | false => exact failsAs_throw_bind

end Namespace

namespace Veth

theorem failsAs_get_bind {f : LinkRecord → Net β}
    (hf : ∀ l p, h.deviceAt ⟨none, name⟩ = some (.veth p) → FailsAs h h (f l)) :
    FailsAs h h (get name >>= f) := by
  refine FailsAs.bind (failsAs_of_asks fun hy => (get_outcome hy).1) fun l h₁ hrun => ?_
  obtain ⟨rfl, hveth⟩ := get_outcome (Host.run_yields hrun)
  obtain ⟨p, hd⟩ := hveth l rfl
  exact hf l p hd

theorem failsAs_requireFree_bind {f : Unit → Net β} (hf : FailsAs h h (f ())) :
    FailsAs h h (requireFree name >>= f) := by
  refine FailsAs.bind (failsAs_of_asks requireFree_outcome) fun _ h₁ hrun => ?_
  obtain rfl := requireFree_outcome (Host.run_yields hrun)
  exact hf

theorem failsAs_create : FailsAs h h (create name peer) := by
  refine failsAs_check_bind fun _ _ => failsAs_check_bind fun _ _ => ?_
  split
  · exact failsAs_throw_bind
  · exact failsAs_requireFree_bind (failsAs_requireFree_bind (failsAs_change rfl))

theorem failsAs_delete : FailsAs h h (delete name) :=
  failsAs_get_bind fun _ _ _ => failsAs_change rfl

theorem failsAs_deletePair : FailsAs h h (deletePair name peer) := by
  refine failsAs_look_bind (fun hy => (present_outcome hy).1) fun there => ?_
  cases there with
  | true => exact failsAs_delete
  | false =>
    refine failsAs_look_bind (fun hy => (present_outcome hy).1) fun there => ?_
    cases there with
    | true => exact failsAs_delete
    | false => exact failsAs_of_asks And.right

/-- An end that was put into a bridge or moved is where it was put, so it can be turned up. -/
theorem failsAs_attachTo (target : Target) : FailsAs h h (attachTo name target) := by
  refine failsAs_get_bind fun _ _ _ => ?_
  cases target with
  | bridge bridge =>
    refine failsAs_change_bind rfl fun h₁ ok => ?_
    obtain ⟨_, ⟨l, hl⟩, he⟩ := Host.setMaster_eq_ok.mp ok
    have hrow : h₁.links[(⟨none, name⟩ : LinkId)]? = some { l with master := some bridge } := by
      rw [he, Host.update_links, if_pos rfl, hl]
      rfl
    exact ⟨(), _, run_setAdmin hrow⟩
  | netns ns =>
    refine failsAs_change_bind rfl fun h₁ ok => ?_
    obtain ⟨_, _, l, _, he⟩ := Host.setNetns_eq_ok.mp ok
    have hrow : h₁.links[(⟨some ns, name⟩ : LinkId)]? =
        some { l with master := none, adminUp := false } := by
      rw [he]
      exact Std.ExtTreeMap.getElem?_insert_self
    exact ⟨(), _, Host.run_net_ok (run_setAdmin hrow)⟩

theorem failsAs_attach {target : String} : FailsAs h h (attach name target) := by
  refine FailsAs.bind (failsAs_of_asks Target.classify_outcome) fun target h₁ hrun => ?_
  obtain rfl := Target.classify_outcome (Host.run_yields hrun)
  exact failsAs_attachTo target

theorem failsAs_detach : FailsAs h h (detach name) := by
  refine failsAs_get_bind fun l _ _ => ?_
  split
  · exact failsAs_change rfl
  · exact failsAs_ok rfl

theorem failsAs_setUp {up : Bool} : FailsAs h h (setUp name up) :=
  failsAs_get_bind fun _ _ _ => failsAs_change rfl

end Veth

namespace Bridge

theorem failsAs_get_bind {f : LinkRecord → Net β}
    (hf : ∀ l, h.deviceAt ⟨none, bridge⟩ = some .bridge → FailsAs h h (f l)) :
    FailsAs h h (get bridge >>= f) := by
  refine FailsAs.bind (failsAs_of_asks fun hy => (get_outcome hy).1) fun l h₁ hrun => ?_
  obtain ⟨rfl, hb⟩ := get_outcome (Host.run_yields hrun)
  exact hf l (hb l rfl)

theorem failsAs_ensure : FailsAs h h (ensure bridge) := by
  refine failsAs_look_bind (fun hy => (present_outcome hy).1) fun there => ?_
  cases there with
  | true => exact failsAs_ok rfl
  | false =>
    refine failsAs_look_bind (fun hy => (SandboxNet.find?_outcome hy).1) fun found => ?_
    cases found with
    | some l => exact failsAs_throw_bind
    | none => exact failsAs_change rfl

/-- Once the bridge is there it has the address or can be given it. -/
theorem failsAs_create {address : Option String} : FailsAs h h (create bridge address) := by
  refine failsAs_check_bind fun _ _ => failsAs_check_bind fun _ _ => ?_
  refine failsAs_ensure.bind fun _ h₁ hrun => ?_
  obtain ⟨l, hl, _⟩ := Option.map_eq_some_iff.mp (ensure_ok (Host.run_yields hrun))
  cases address with
  | none => exact failsAs_ok rfl
  | some a =>
    obtain ⟨h', hlast⟩ := run_ensureAddress hl a
    exact failsAs_ok hlast

/-- A bridge that was turned down is still there to be deleted. -/
theorem failsAs_delete : FailsAs h h (delete bridge) := by
  refine failsAs_get_bind fun _ hb => ?_
  obtain ⟨l, hl, _⟩ := Option.map_eq_some_iff.mp hb
  let lowered : Host := h.update ⟨none, bridge⟩ ({ · with adminUp := false })
  have hrow : lowered.links[(⟨none, bridge⟩ : LinkId)]? = some { l with adminUp := false } := by
    rw [Host.update_links, if_pos rfl, hl]
    rfl
  have hdelete : Host.run (Net.deleteLink bridge).run lowered =
      (.ok (), lowered.remove ⟨none, bridge⟩) :=
    Host.run_change rfl (Host.deleteLink_eq_ok.mpr ⟨⟨_, hrow⟩, rfl⟩)
  exact failsAs_ok
    ((Host.run_lift_bind (Host.run_discard (run_setAdmin hl))).trans hdelete)

theorem failsAs_setUp {up : Bool} : FailsAs h h (setUp bridge up) :=
  failsAs_get_bind fun _ _ => failsAs_change rfl

theorem failsAs_attachEnd : FailsAs h h (attachEnd bridge name) :=
  failsAs_get_bind fun _ _ => Veth.failsAs_attachTo _

end Bridge

theorem Attachment.failsAs_detach : FailsAs h h (detach bridge sandbox) := by
  refine failsAs_check_bind fun names _ => ?_
  refine failsAs_look_bind (fun hy => (Bridge.present_outcome hy).1) fun there => ?_
  cases there with
  | false => exact failsAs_throw_bind
  | true =>
    refine failsAs_look_bind (fun hy => (Veth.present_outcome hy).1) fun there => ?_
    cases there with
    | true => exact Veth.failsAs_delete
    | false => exact failsAs_ok rfl

/-- An operation of a manager that may change the host. -/
inductive Edit where
  | createNamespace (ns : String)
  | ensureNamespace (ns : String)
  | deleteNamespace (ns : String)
  | createVeth (name peer : String)
  | deleteVeth (name : String)
  | deletePair (name peer : String)
  | attach (name target : String)
  | attachTo (name : String) (target : Target)
  | detach (name : String)
  | setVeth (name : String) (up : Bool)
  | createBridge (bridge : String) (address : Option String)
  | deleteBridge (bridge : String)
  | setBridge (bridge : String) (up : Bool)
  | attachEnd (bridge name : String)
  | detachEnd (bridge name : String)
  | unwire (bridge sandbox : String)

namespace Edit

def program : Edit → Net Unit
  | createNamespace ns => Namespace.create ns
  | ensureNamespace ns => do let _ ← Namespace.ensure ns
  | deleteNamespace ns => Namespace.delete ns
  | createVeth name peer => Veth.create name peer
  | deleteVeth name => Veth.delete name
  | deletePair name peer => Veth.deletePair name peer
  | attach name target => Veth.attach name target
  | attachTo name target => Veth.attachTo name target
  | detach name => Veth.detach name
  | setVeth name up => Veth.setUp name up
  | createBridge bridge address => Bridge.create bridge address
  | deleteBridge bridge => Bridge.delete bridge
  | setBridge bridge up => Bridge.setUp bridge up
  | attachEnd bridge name => Bridge.attachEnd bridge name
  | detachEnd bridge name => Bridge.detachEnd bridge name
  | unwire bridge sandbox => Attachment.detach bridge sandbox

/-- On a host whose calls do not fail of themselves, an operation that fails has changed no link of
any namespace, and registered or dropped none. -/
theorem failed_edit_changes_nothing (o : Edit) {e : NetError}
    (hrun : Host.run o.program.run h = (.error e, h')) : h' = h := by
  have hfails : FailsAs h h o.program := by
    cases o with
    | createNamespace ns => exact Namespace.failsAs_create
    | ensureNamespace ns => exact Namespace.failsAs_ensure.bind fun _ _ _ => failsAs_ok rfl
    | deleteNamespace ns => exact Namespace.failsAs_delete
    | createVeth name peer => exact Veth.failsAs_create
    | deleteVeth name => exact Veth.failsAs_delete
    | deletePair name peer => exact Veth.failsAs_deletePair
    | attach name target => exact Veth.failsAs_attach
    | attachTo name target => exact Veth.failsAs_attachTo target
    | detach name => exact Veth.failsAs_detach
    | setVeth name up => exact Veth.failsAs_setUp
    | createBridge bridge address => exact Bridge.failsAs_create
    | deleteBridge bridge => exact Bridge.failsAs_delete
    | setBridge bridge up => exact Bridge.failsAs_setUp
    | attachEnd bridge name => exact Bridge.failsAs_attachEnd
    | detachEnd bridge name => exact Veth.failsAs_detach
    | unwire bridge sandbox => exact Attachment.failsAs_detach
  exact hfails e h' hrun

/-- An end cannot follow one of its name into a namespace, and is left as it was; it can once that
one is gone. -/
theorem failed_edit_changes_nothing_crowded :
    let calls : List NetCall := [
      .addNamespace "inner", .addVeth "near" "far", .setNetns "far" "inner", .addVeth "far" "other"]
    let h : Host := calls.foldl (fun h c => (h.answer c).2) .initial
    let free : Host := (h.answer (.deleteLink "near")).2
    let move := Edit.attach "far" "inner"
    h.Reachable ∧ Host.run move.program.run h = (.error (.alreadyExists .link "far"), h) ∧
      (Host.run move.program.run free).1 = .ok () := by
  intro calls h free move
  have hr : h.Reachable := by
    repeat apply Host.Reachable.call
    exact .initial
  have hfails : (Host.run move.program.run h).1 = .error (.alreadyExists .link "far") := rfl
  have hrun : Host.run move.program.run h =
      (.error (.alreadyExists .link "far"), (Host.run move.program.run h).2) :=
    Prod.ext hfails rfl
  refine ⟨hr, ?_, rfl⟩
  rw [hrun, failed_edit_changes_nothing move hrun]

end Edit

end SandboxNet
