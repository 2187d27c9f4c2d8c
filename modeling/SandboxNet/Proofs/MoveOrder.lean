import SandboxNet.Proofs.AttachmentOutcomes

/-! An attachment moves a link at most once: the other end of the pair it has made, into the
namespace of the sandbox, after the host end is in the bridge and the bridge is up. Whatever calls
fail, no move is tried before. -/
namespace SandboxNet

variable {α β φ : Type} {source : FaultSource φ}

/-- The moves that a program tries, each with the world in which it does, the name of the link and
the namespace it is to go to. -/
def moves (source : FaultSource φ) (p : NetProgram α) (w : NetWorld φ) :
    List (NetWorld φ × String × String) :=
  (p.trace (NetWorld.answer source) w).filterMap fun made =>
    match made.2 with
    | .setNetns name ns => some (made.1, name, ns)
    | _ => none

theorem moves_map (f : α → β) (p : NetProgram α) (w : NetWorld φ) :
    moves source (f <$> p) w = moves source p w := by
  simp only [moves, Program.trace_map]

theorem moves_net_bind (p : Net α) (f : α → Net β) (w : NetWorld φ) :
    moves source (p >>= f).run w = moves source p.run w ++
      match NetWorld.run source p.run w with
      | (.ok a, w') => moves source (f a).run w'
      | (.error _, _) => [] := by
  rw [moves, Program.trace_except_bind, List.filterMap_append, NetWorld.run]
  generalize p.run.run (NetWorld.answer source) w = x
  obtain ⟨r, w'⟩ := x
  cases r <;> rfl

section Stays

/-- Whatever is replied, the program moves no link. -/
def Stays (p : NetProgram α) : Prop :=
  p.Only fun c : NetCall => ∀ name ns, c ≠ .setNetns name ns

theorem Stays.moves_eq {p : NetProgram α} (hp : Stays p) (w : NetWorld φ) :
    moves source p w = [] := by
  rw [moves, List.filterMap_eq_nil_iff]
  intro made hm
  have hc := Program.Within.called hp w made hm
  split
  · rename_i name ns he
    exact absurd he (hc name ns)
  · rfl

/-- What comes after the last move adds none. -/
theorem moves_then_stays (p : Net α) {f : α → Net β} (hf : ∀ a, Stays (f a).run)
    (w : NetWorld φ) : moves source (p >>= f).run w = moves source p.run w := by
  rw [moves_net_bind]
  split
  · rw [(hf _).moves_eq, List.append_nil]
  · rw [List.append_nil]

/-- What comes before the first move only says where it is made. -/
theorem Stays.moves_after {p : Net α} (hp : Stays p.run) (f : α → Net β) (w : NetWorld φ) :
    moves source (p >>= f).run w =
      match NetWorld.run source p.run w with
      | (.ok a, w') => moves source (f a).run w'
      | (.error _, _) => [] := by
  rw [moves_net_bind, hp.moves_eq, List.nil_append]

theorem stays_ask {c : NetCall} (hc : ∀ name ns, c ≠ .setNetns name ns) :
    Stays (Net.ask c).run :=
  ⟨hc, fun _ => trivial⟩

theorem Stays.discard {p : Net α} (hp : Stays p.run) : Stays (Net.discard p) :=
  hp.bind fun _ => trivial

theorem stays_find? (name : String) : Stays (Net.find? name) := by
  refine Program.Only.bind (stays_ask nofun) fun r => ?_
  cases r <;> exact trivial

theorem stays_setAdmin (netns : Option String) (name : String) (up : Bool) :
    Stays (Net.setAdmin netns name up).run :=
  stays_ask nofun

end Stays

namespace Namespace

theorem stays_present (ns : String) : Stays (present ns) := by
  refine Program.Only.bind (stays_ask nofun) fun r => ?_
  cases r <;> exact trivial

theorem stays_ensure (ns : String) : Stays (ensure ns).run := by
  have hcreate : Stays (create ns).run := by
    refine Program.Only.except_bind trivial fun _ => (stays_present ns).lift_bind fun there => ?_
    cases there with
    | true => exact trivial
    | false => exact stays_ask nofun
  refine (stays_present ns).lift_bind fun there => ?_
  cases there with
  | true => exact trivial
  | false => exact hcreate.except_bind fun _ => trivial

end Namespace

namespace Veth

theorem stays_find? (name : String) : Stays (find? name) :=
  (SandboxNet.stays_find? name).bind fun _ => trivial

theorem stays_get (name : String) : Stays (get name).run := by
  refine (stays_find? name).lift_bind fun found => ?_
  cases found <;> exact trivial

theorem stays_requireFree (name : String) : Stays (requireFree name).run := by
  refine (SandboxNet.stays_find? name).lift_bind fun found => ?_
  cases found <;> exact trivial

theorem stays_create (name peer : String) : Stays (create name peer).run := by
  refine Program.Only.except_bind trivial fun _ => Program.Only.except_bind trivial fun _ => ?_
  split
  · exact trivial
  · refine (stays_requireFree name).except_bind fun _ => ?_
    exact (stays_requireFree peer).except_bind fun _ => stays_ask nofun

theorem stays_deletePair (name peer : String) : Stays (deletePair name peer).run := by
  have hdelete : ∀ name, Stays (delete name).run := fun name =>
    (stays_get name).except_bind fun _ => stays_ask nofun
  have hpresent : ∀ name, Stays (present name) := fun name =>
    (stays_find? name).bind fun _ => trivial
  refine (hpresent name).lift_bind fun there => ?_
  cases there with
  | true => exact hdelete name
  | false =>
    refine (hpresent peer).lift_bind fun there => ?_
    cases there with
    | true => exact hdelete peer
    | false => exact trivial

theorem stays_attachTo_bridge (name bridge : String) :
    Stays (attachTo name (.bridge bridge)).run := by
  have hmaster : Stays (Net.setMaster name (some bridge)).run := stays_ask nofun
  refine (stays_get name).except_bind fun _ => ?_
  exact hmaster.except_bind fun _ => stays_setAdmin _ _ _

end Veth

namespace Bridge

theorem stays_find? (name : String) : Stays (find? name) :=
  (SandboxNet.stays_find? name).bind fun _ => trivial

theorem stays_create (name : String) : Stays (create name none).run := by
  have hpresent : Stays (present name) := (stays_find? name).bind fun _ => trivial
  have hensure : Stays (ensure name).run := by
    refine hpresent.lift_bind fun there => ?_
    cases there with
    | true => exact trivial
    | false =>
      refine (SandboxNet.stays_find? name).lift_bind fun found => ?_
      cases found with
      | some l => exact trivial
      | none => exact stays_ask nofun
  refine Program.Only.except_bind trivial fun _ => Program.Only.except_bind trivial fun _ => ?_
  exact hensure.except_bind fun _ => trivial

theorem stays_setUp (name : String) (up : Bool) : Stays (setUp name up).run := by
  have hget : Stays (get name).run := by
    refine (stays_find? name).lift_bind fun found => ?_
    cases found <;> exact trivial
  exact hget.except_bind fun _ => stays_setAdmin _ _ _

end Bridge

namespace Attachment

variable {h h' : Host} {bridge sandbox : String}

/-- The part of wiring a pair that comes before the move. -/
def joinBridge (bridge : String) (names : WireNames) : Net WireNames := do
  Veth.attachTo names.hostVeth (.bridge bridge)
  Bridge.setUp bridge true
  let _ ← Veth.get names.sandboxVeth
  return names

/-- The move, and what comes after it. -/
def moveInside (names : WireNames) : Net Unit := do
  Net.setNetns names.sandboxVeth names.netns
  Net.setAdmin (some names.netns) names.sandboxVeth true
  Net.discard (Net.setAdmin (some names.netns) "lo" true)

/-- All of an attachment that comes before the move. -/
def approach (bridge sandbox : String) : Net WireNames := do
  joinBridge bridge (← prepare bridge sandbox)

theorem connect_eq (bridge : String) (names : WireNames) :
    connect bridge names = joinBridge bridge names >>= moveInside := by
  simp only [connect, joinBridge, Veth.attachTo, moveInside, bind_assoc, pure_bind]

theorem stays_prepare (bridge sandbox : String) : Stays (prepare bridge sandbox).run := by
  refine Program.Only.except_bind trivial fun names => ?_
  refine (Bridge.stays_create bridge).except_bind fun _ => ?_
  refine (Namespace.stays_ensure names.netns).except_bind fun _ => ?_
  exact (Veth.stays_create names.hostVeth names.sandboxVeth).except_bind fun _ => trivial

theorem stays_joinBridge (bridge : String) (names : WireNames) :
    Stays (joinBridge bridge names).run := by
  refine (Veth.stays_attachTo_bridge names.hostVeth bridge).except_bind fun _ => ?_
  refine (Bridge.stays_setUp bridge true).except_bind fun _ => ?_
  exact (Veth.stays_get names.sandboxVeth).except_bind fun _ => trivial

theorem moves_moveInside (names : WireNames) (w : NetWorld φ) :
    moves source (moveInside names).run w = [(w, names.sandboxVeth, names.netns)] := by
  rw [moveInside, moves_then_stays]
  · rfl
  · intro _
    refine (stays_setAdmin _ _ _).except_bind fun _ => ?_
    exact Program.Within.map (stays_setAdmin _ _ _).discard fun _ _ => trivial

theorem moves_connectOrRollback (bridge : String) (names : WireNames) (w : NetWorld φ) :
    moves source (connectOrRollback bridge names).run w =
      moves source (connect bridge names).run w := by
  have hback : Stays (rollback names) :=
    (Veth.stays_deletePair names.hostVeth names.sandboxVeth).discard
  rw [connectOrRollback, moves_then_stays]
  · exact moves_map _ _ _
  · intro r
    cases r with
    | ok u => exact trivial
    | error e => exact hback.lift_bind fun _ => trivial

/-- There is no move if a step before it fails; and else just the one. -/
theorem moves_attach (bridge sandbox : String) (w : NetWorld φ) :
    moves source (attach bridge sandbox).run w =
      match NetWorld.run source (approach bridge sandbox).run w with
      | (.ok names, w') => [(w', names.sandboxVeth, names.netns)]
      | (.error _, _) => [] := by
  have hmoves : moves source (attach bridge sandbox).run w =
      moves source (approach bridge sandbox >>= moveInside).run w := by
    rw [attach_eq, approach, bind_assoc, (stays_prepare bridge sandbox).moves_after,
      (stays_prepare bridge sandbox).moves_after]
    simp only [moves_connectOrRollback, connect_eq]
  have hstays : Stays (approach bridge sandbox).run :=
    (stays_prepare bridge sandbox).except_bind fun names => stays_joinBridge bridge names
  rw [hmoves, hstays.moves_after]
  generalize NetWorld.run source (approach bridge sandbox).run w = approached
  obtain ⟨r, w'⟩ := approached
  cases r with
  | ok names => exact moves_moveInside names w'
  | error e => rfl

/-- The host end is in a bridge that is up, and the namespace is there to take the other end. -/
structure ReadyToMove (bridge sandbox : String) (h : Host) : Prop where
  netns : "corral-" ++ sandbox ∈ h.netns
  loose : ∃ l, h.links[looseEnd]? = some l ∧ l.device = .veth (hostEnd sandbox)
  near : ∃ l, h.links[hostEnd sandbox]? = some l ∧ l.device = .veth looseEnd ∧
    l.adminUp = true ∧ l.master = some bridge
  bridge : ∃ l, h.links[(⟨none, bridge⟩ : LinkId)]? = some l ∧ l.device = .bridge ∧
    l.adminUp = true

theorem approach_ready {names : WireNames}
    (out : Yields (approach bridge sandbox).run h (.ok names) h') :
    names = .of sandbox ∧ ReadyToMove bridge sandbox h' := by
  obtain ⟨_, h₁, hprepare, afterPair⟩ := yields_net_ok out
  obtain ⟨_, he, _⟩ | ⟨hn, base, _, hns, okv⟩ := prepare_outcome hprepare
  · cases he
  cases hn
  have hs := Spliced.of_addVeth okv
  obtain ⟨_, h₂, hmaster, afterMaster⟩ := yields_net_ok afterPair
  obtain ⟨_, he, _⟩ | ⟨_, hs₂⟩ := enslave_outcome hs hmaster
  · cases he
  obtain ⟨_, h₃, hup, afterUp⟩ := yields_net_ok afterMaster
  obtain ⟨_, he, _⟩ | ⟨_, hb, rfl⟩ := Bridge.setUp_outcome hup
  · cases he
  obtain ⟨_, h₄, hget, last⟩ := yields_net_ok afterUp
  obtain ⟨rfl, _⟩ := Veth.get_outcome hget
  obtain ⟨hn, rfl⟩ := last
  cases hn
  obtain ⟨lb, hlb, hbd⟩ := Option.map_eq_some_iff.mp (spliced_bridge hs₂ hb)
  have hs₃ := hs₂.update_base (f := raised) hlb
  have hraised : (base.update ⟨none, bridge⟩ raised).links[(⟨none, bridge⟩ : LinkId)]? =
      some (raised lb) := by
    rw [Host.update_links, if_pos rfl, hlb]
    rfl
  refine ⟨rfl, ?_, ⟨_, hs₃.far_row, rfl⟩, ⟨_, hs₃.near_row, rfl, rfl, rfl⟩,
    ⟨_, hs₃.base_row hraised, hbd, rfl⟩⟩
  rw [hs₃.netns]
  exact hns

/-- Whatever calls fail, an attachment tries at most one move, that of the free end of its own pair
into the namespace of the sandbox, and at that moment the namespace is there, the host end is up and
in the bridge, and the bridge is up. There is no move exactly if a step before it fails. -/
theorem moved_only_when_bridged (source : FaultSource φ) (bridge sandbox : String)
    (w : NetWorld φ) :
    (moves source (attach bridge sandbox).run w).length ≤ 1 ∧
    (∀ w' name ns, (w', name, ns) ∈ moves source (attach bridge sandbox).run w →
      name = "host0" ∧ ns = "corral-" ++ sandbox ∧ ReadyToMove bridge sandbox w'.host) ∧
    (moves source (attach bridge sandbox).run w = [] ↔
      ∃ e, (NetWorld.run source (approach bridge sandbox).run w).1 = .error e) := by
  have hready := yields_run source (approach bridge sandbox).run w
  rw [moves_attach]
  generalize NetWorld.run source (approach bridge sandbox).run w = approached at hready
  obtain ⟨r, w₁⟩ := approached
  cases r with
  | error e => simp
  | ok names =>
    obtain ⟨rfl, hready⟩ := approach_ready hready
    refine ⟨Nat.le_refl 1, ?_, by simp⟩
    intro w' name ns hm
    cases List.mem_singleton.mp hm
    exact ⟨rfl, rfl, hready⟩

/-- The move is tried with all in place even where it is made to fail; it is not tried where turning
up the bridge fails. -/
theorem moved_only_when_bridged_struck :
    let struck : NetWorld (List Fault) := ⟨.initial, [⟨"set_netns", 0, none⟩], []⟩
    let halted : NetWorld (List Fault) := ⟨.initial, [⟨"set_admin", 1, none⟩], []⟩
    (∃ w', moves Fault.script (attach "br0" "web").run struck = [(w', "host0", "corral-web")] ∧
      ReadyToMove "br0" "web" w'.host) ∧
    moves Fault.script (attach "br0" "web").run halted = [] := by
  intro struck halted
  obtain ⟨-, hready, -⟩ := moved_only_when_bridged Fault.script "br0" "web" struck
  have hone : (moves Fault.script (attach "br0" "web").run struck).length = 1 := by
    decide +kernel
  obtain ⟨⟨w', name, ns⟩, hmade⟩ := List.length_eq_one_iff.mp hone
  obtain ⟨rfl, rfl, hw'⟩ := hready w' name ns (hmade ▸ List.mem_singleton_self _)
  refine ⟨⟨w', hmade, hw'⟩, ?_⟩
  exact (moved_only_when_bridged Fault.script "br0" "web" halted).2.2.mpr ⟨_, rfl⟩

end Attachment

end SandboxNet
