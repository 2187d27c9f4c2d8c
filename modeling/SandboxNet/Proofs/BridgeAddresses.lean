import SandboxNet.Proofs.Containment
import SandboxNet.Proofs.Recovery

/-! Creating one bridge again and again, with all sorts of addresses, on a host whose calls do not
fail of themselves. The bridge is made once and collects the addresses that pass the check, each
text once and in the order in which they came. -/
namespace SandboxNet

variable {α β : Type} {bridge : String} {address : Option String} {requests : List (Option String)}
  {h h' : Host} {l : Link}

namespace Host

/-- The calls that a program makes on the simulated host itself. -/
def calls (p : NetProgram α) (h : Host) : List NetCall :=
  (p.trace Host.answer h).map (·.2)

theorem calls_net_ok {p : Net α} {f : α → Net β} {a : α} (hp : Host.run p.run h = (.ok a, h')) :
    calls (p >>= f).run h = calls p.run h ++ calls (f a).run h' := by
  simp only [Host.run] at hp
  rw [calls, Program.trace_except_bind, hp, List.map_append]
  rfl

theorem calls_lift_bind {p : NetProgram α} {f : α → Net β} {a : α}
    (hp : Host.run p h = (a, h')) :
    calls (liftM p >>= f : Net β).run h = calls p h ++ calls (f a).run h' := by
  rw [calls_net_ok (run_lift hp)]
  exact congrArg (List.map _ · ++ _) (Program.trace_map Except.ok p h)

/-- The addresses of a link of the default namespace; one that is not there has none. -/
def addressesOf (h : Host) (name : String) : List String :=
  ((h.get? name).map (·.addresses)).getD []

/-- A name stands for one link of a namespace. -/
theorem named_once (hl : h.get? bridge = some l) :
    (h.linksIn none).filter (·.1.name = bridge) = [(⟨none, bridge⟩, l)] := by
  have hmem : ∀ row, row ∈ (h.linksIn none).filter (·.1.name = bridge) ↔
      row = (⟨none, bridge⟩, l) := by
    rintro ⟨⟨netns, name⟩, l'⟩
    simp only [linksIn, List.mem_filter, Std.ExtTreeMap.mem_toList_iff_getElem?_eq_some,
      decide_eq_true_eq, Prod.mk.injEq, LinkId.mk.injEq]
    constructor
    · rintro ⟨⟨hl', rfl⟩, rfl⟩
      exact ⟨⟨rfl, rfl⟩, Option.some.inj (hl'.symm.trans hl)⟩
    · rintro ⟨⟨rfl, rfl⟩, rfl⟩
      exact ⟨⟨hl, rfl⟩, rfl⟩
  have hnodup : ((h.linksIn none).filter (·.1.name = bridge)).Nodup := by
    refine ((Std.ExtTreeMap.distinct_keys_toList.filter _).filter _).imp ?_
    rintro row _ hne rfl
    exact hne Std.ReflCmp.compare_self
  exact List.perm_singleton.mp ((List.perm_ext_iff_of_nodup hnodup (List.nodup_singleton _)).mpr
    fun row => (hmem row).trans List.mem_singleton.symm)

end Host

/-- A link with addresses, each added unless it is there by then. -/
def Link.gathering (l : Link) (more : List String) : Link :=
  more.foldl (fun l a => l.addressed (some a)) l

theorem Link.gathering_eq (l : Link) (more : List String) : l.gathering more =
    { l with addresses := l.addresses ++ (more.filter (· ∉ l.addresses)).eraseDups } := by
  induction more generalizing l with
  | nil => simp [gathering]
  | cons a rest ih =>
    rw [gathering, List.foldl_cons, ← gathering, ih]
    by_cases ha : a ∈ l.addresses
    · rw [addressed_present ha, List.filter_cons_of_neg (by simpa using ha)]
    · -- both sides leave out of the rest what was added first
      have hrest : rest.filter (· ∉ l.addresses ++ [a]) =
          (rest.filter (· ∉ l.addresses)).filter fun b => !b == a := by
        rw [List.filter_filter]
        refine List.filter_congr fun b _ => ?_
        simp [and_comm, beq_eq_decide]
      rw [addressed_new ha, hrest, List.filter_cons_of_pos (by simpa using ha),
        List.eraseDups_cons, List.append_assoc]
      rfl

theorem Link.mem_gathering {a : String} {more : List String} :
    a ∈ (l.gathering more).addresses ↔ a ∈ l.addresses ∨ a ∈ more := by
  rw [gathering_eq, List.mem_append, List.mem_eraseDups, List.mem_filter, decide_eq_true_eq]
  by_cases ha : a ∈ l.addresses <;> simp [ha]

/-- A link that is not there yet is made down, in no bridge and without addresses. -/
theorem Link.getD_fresh (row : Option Link) {device : Device} :
    (row.getD (.fresh device)).adminUp = row.any (·.adminUp) ∧
      (row.getD (.fresh device)).master = row.bind (·.master) ∧
      (row.getD (.fresh device)).addresses = (row.map (·.addresses)).getD [] := by
  cases row <;> simp [fresh]

namespace Bridge

/-- The addresses among the requested that pass the check. -/
def accepted (requests : List (Option String)) : List String :=
  (requests.filterMap id).filter fun a => (Address.check a).isOk

/-- Creates one bridge for request after request, whatever becomes of each. -/
def createEach (bridge : String) :
    List (Option String) → NetProgram (List (Except NetError Unit))
  | [] => return []
  | address :: rest => do
    let reply ← (create bridge address).run
    let later ← createEach bridge rest
    return reply :: later

/-- What a request is told, for all that concerns its address. -/
def verdict (address : Option String) : Except NetError Unit :=
  address.elim (.ok ()) Address.check

theorem run_createEach_cons {reply : Except NetError Unit}
    (hrun : Host.run (create bridge address).run h = (reply, h')) :
    Host.run (createEach bridge (address :: requests)) h =
      (reply :: (Host.run (createEach bridge requests) h').1,
        (Host.run (createEach bridge requests) h').2) := by
  rw [createEach, Host.run_bind hrun]
  exact Host.run_bind rfl

theorem run_create_refused {e : NetError} (hv : NameRule.bridge.check bridge = .ok ())
    (ha : verdict address = .error e) : Host.run (create bridge address).run h = (.error e, h) := by
  rw [verdict] at ha
  rw [create, hv, ha, Host.run_net_ok rfl]
  exact Host.run_net_error rfl

theorem accepted_cons (address : Option String) (requests : List (Option String)) :
    accepted (address :: requests) =
      (if (verdict address).isOk then address.toList else []) ++ accepted requests := by
  cases address with
  | none => simp [accepted]
  | some a =>
    cases hc : Address.check a <;> simp [accepted, verdict, hc, Except.isOk, Except.toBool]

theorem mem_accepted {a : String} :
    a ∈ accepted requests ↔ some a ∈ requests ∧ verdict (some a) = .ok () := by
  rw [accepted, List.mem_filter, List.mem_filterMap, verdict, Option.elim_some]
  cases Address.check a <;> simp [Except.isOk, Except.toBool]

/-- Nothing has happened as long as no request has passed. -/
theorem run_createEach_refused (hv : NameRule.bridge.check bridge = .ok ())
    (hnone : ∀ a ∈ requests, verdict a ≠ .ok ()) :
    Host.run (createEach bridge requests) h = (requests.map verdict, h) := by
  induction requests with
  | nil => rfl
  | cons a rest ih =>
    obtain ⟨ha, hrest⟩ := List.forall_mem_cons.mp hnone
    cases hverdict : verdict a with
    | ok u => exact absurd hverdict ha
    | error e =>
      rw [run_createEach_cons (run_create_refused hv hverdict), ih hrest, List.map_cons, hverdict]

/-- Once a bridge is there, or is made by one of the requests, it gathers the accepted addresses. -/
theorem run_createEach (hv : NameRule.bridge.check bridge = .ok ())
    (ht : h.takesBridge bridge = true)
    (hsome : h.deviceAt ⟨none, bridge⟩ = some .bridge ∨ ∃ a ∈ requests, verdict a = .ok ()) :
    Host.run (createEach bridge requests) h =
      (requests.map verdict, h.bridged bridge (·.gathering (accepted requests))) := by
  induction requests generalizing h with
  | nil =>
    obtain ⟨l, hl, _⟩ : ∃ l, h.links[(⟨none, bridge⟩ : LinkId)]? = some l ∧ l.device = .bridge := by
      simpa [Host.deviceAt] using hsome
    rw [show h.bridged bridge (·.gathering (accepted [])) = h from Host.bridged_id hl]
    rfl
  | cons a rest ih =>
    cases hverdict : verdict a with
    | error e =>
      have hlater : h.deviceAt ⟨none, bridge⟩ = some .bridge ∨ ∃ a ∈ rest, verdict a = .ok () := by
        rcases hsome with hpresent | ⟨b, hb, hok⟩
        · exact Or.inl hpresent
        · rcases List.mem_cons.mp hb with rfl | hb
          · rw [hverdict] at hok
            cases hok
          · exact Or.inr ⟨b, hb, hok⟩
      rw [run_createEach_cons (run_create_refused hv hverdict), ih ht hlater, accepted_cons,
        List.map_cons, hverdict]
      rfl
    | ok u =>
      have hmade := present_bridged (f := (·.addressed a)) ht fun _ => rfl
      rw [run_createEach_cons (run_create_made hv hverdict ht),
        ih (takesBridge_of_present hmade) (Or.inl hmade), Host.bridged_bridged, accepted_cons,
        List.map_cons, hverdict]
      cases a with
      | none => simp [Link.addressed_none]
      | some a => rfl

theorem calls_ensureAddress (hl : h.links[(⟨none, bridge⟩ : LinkId)]? = some l) (a : String) :
    Host.calls (ensureAddress bridge a).run h =
      .addresses bridge :: if a ∈ l.addresses then [] else [.addAddress bridge a] := by
  rw [ensureAddress, Host.calls_net_ok (run_addresses hl)]
  by_cases ha : a ∈ l.addresses
  · rw [if_neg (by simp [ha]), if_pos ha]
    rfl
  · rw [if_pos (by simp [ha]), if_neg ha]
    rfl

/-- On a bridge that is there, creation only looks for it and for the address, and adds that if its
text is not found. -/
theorem calls_create (hv : NameRule.bridge.check bridge = .ok ()) (ha : verdict address = .ok ())
    (hl : h.links[(⟨none, bridge⟩ : LinkId)]? = some l) (hd : l.device = .bridge) :
    Host.calls (create bridge address).run h = .link none bridge :: address.toList.flatMap fun a =>
      .addresses bridge :: if a ∈ l.addresses then [] else [.addAddress bridge a] := by
  have hb : h.deviceAt ⟨none, bridge⟩ = some .bridge := by
    rw [Host.deviceAt_of_some hl, hd]
  have hensure : Host.calls (ensure bridge).run h = [.link none bridge] := by
    rw [ensure, Host.calls_lift_bind (run_present_true hb)]
    rfl
  rw [verdict] at ha
  rw [create, hv, ha, Host.calls_net_ok rfl, Host.calls_net_ok rfl,
    Host.calls_net_ok (run_ensure_present hb), hensure]
  cases address with
  | none => rfl
  | some a =>
    refine congrArg (_ :: ·) ((calls_ensureAddress hl a).trans ?_)
    simp

/-- A bridge that is there with its address is only looked at. -/
theorem run_create_again (hv : NameRule.bridge.check bridge = .ok ())
    (ha : verdict address = .ok ()) (hl : h.links[(⟨none, bridge⟩ : LinkId)]? = some l)
    (hd : l.device = .bridge) (hin : ∀ a ∈ address, a ∈ l.addresses) :
    Host.run (create bridge address).run h = (.ok (), h) ∧
      ∀ c ∈ Host.calls (create bridge address).run h, c.mutates = false := by
  have hb : h.deviceAt ⟨none, bridge⟩ = some .bridge := by
    rw [Host.deviceAt_of_some hl, hd]
  have hsame : l.addressed address = l := by
    cases address with
    | none => exact l.addressed_none
    | some a => exact Link.addressed_present (hin a rfl)
  have hhost : h.bridged bridge (·.addressed address) = h.bridged bridge fun l => l := by
    rw [Host.bridged, Host.bridged, hl, Option.getD_some, hsame]
  constructor
  · rw [run_create_made hv ha (takesBridge_of_present hb), hhost, Host.bridged_id hl]
  · rw [calls_create hv ha hl hd]
    cases address with
    | none => simp [NetCall.mutates]
    | some a => simp [NetCall.mutates, hin a rfl]

/-- The second host has one bridge of this name, with further addresses at the end of its list; all
else is as on the first. A bridge that was not there before is down and in no other bridge. -/
structure Gathered (bridge : String) (more : List String) (h h' : Host) : Prop where
  link : ∃ l, (h'.linksIn none).filter (·.1.name = bridge) = [(⟨none, bridge⟩, l)] ∧
    l.device = .bridge ∧ l.adminUp = (h.get? bridge).any (·.adminUp) ∧
    l.master = (h.get? bridge).bind (·.master) ∧
    l.addresses =
      h.addressesOf bridge ++ (more.filter (· ∉ h.addressesOf bridge)).eraseDups ∧
    l.addresses.Nodup
  others : ∀ id : LinkId, id ≠ ⟨none, bridge⟩ → h'.links[id]? = h.links[id]?
  netns : h'.netns = h.netns

theorem gathered_bridged (ht : h.takesBridge bridge = true) (more : List String)
    (hr : (h.bridged bridge (·.gathering more)).Reachable) :
    Gathered bridge more h (h.bridged bridge (·.gathering more)) := by
  have hrow := h.bridged_self bridge (·.gathering more)
  have hdistinct := hr.distinct _ _ hrow
  have hdevice := device_of_takesBridge ht
  obtain ⟨hadmin, hmaster, haddresses⟩ := Link.getD_fresh (h.get? bridge)
  rw [Link.gathering_eq] at hrow hdistinct
  refine ⟨⟨_, Host.named_once hrow, hdevice, hadmin, hmaster, ?_, hdistinct⟩, fun id hid => ?_, rfl⟩
  · rw [Host.addressesOf, ← haddresses]
    rfl
  · rw [Host.bridged_row, if_neg hid]

/-- Each creation of a bridge is told what the check of its address says. The addresses that pass
come after those that the bridge had, each text once and in the order of first mention. Nothing else
on the host changes, and a request that has passed changes nothing when it is repeated. -/
theorem creations_gather (hr : h.Reachable) (hv : NameRule.bridge.check bridge = .ok ())
    (ht : h.takesBridge bridge = true) (requests : List (Option String)) :
    let created := Host.run (createEach bridge requests) h
    created.1 = requests.map verdict ∧
      (.ok () ∈ created.1 → Gathered bridge (accepted requests) h created.2) ∧
      (.ok () ∉ created.1 → created.2 = h) ∧
      ∀ a ∈ requests, verdict a = .ok () →
        Host.run (create bridge a).run created.2 = (.ok (), created.2) ∧
        ∀ c ∈ Host.calls (create bridge a).run created.2, c.mutates = false := by
  intro created
  by_cases hsome : ∃ a ∈ requests, verdict a = .ok ()
  · have hcreated : created = _ := run_createEach hv ht (Or.inr hsome)
    have hreach : created.2.Reachable := Host.run_reachable _ hr
    have hok : .ok () ∈ requests.map verdict := List.mem_map.mpr hsome
    rw [hcreated] at hreach ⊢
    refine ⟨rfl, fun _ => gathered_bridged ht _ hreach, fun hnone => absurd hok hnone, ?_⟩
    intro a ha hverdict
    refine run_create_again hv hverdict (h.bridged_self bridge _) ?_ fun text htext => ?_
    · rw [Link.gathering_eq]
      exact device_of_takesBridge ht
    · rw [Link.mem_gathering]
      exact Or.inr (mem_accepted.mpr ⟨htext ▸ ha, htext ▸ hverdict⟩)
  · have hnone : ∀ a ∈ requests, verdict a ≠ .ok () := fun a ha hok => hsome ⟨a, ha, hok⟩
    have hcreated : created = _ := run_createEach_refused hv hnone
    have hok : .ok () ∉ requests.map verdict := fun hmem => hsome (List.mem_map.mp hmem)
    rw [hcreated]
    exact ⟨rfl, fun hmem => absurd hmem hok, fun _ => rfl,
      fun a ha hverdict => absurd hverdict (hnone a ha)⟩

/-- A bridge that is up, inside another one and already has an address is created seven times, with
addresses old, new, repeated and bad. -/
theorem creations_gather_mixed :
    let calls : List NetCall := [
      .addBridge "outer", .addBridge "br0", .setMaster "br0" (some "outer"),
      .setAdmin none "br0" true, .addAddress "br0" "10.0.0.1/24"]
    let h : Host := calls.foldl (fun h c => (h.answer c).2) .initial
    let requests := [some "nope/24", some "fd00::1/64", none, some "10.0.0.1/24",
      some "10.0.0.2/33", some "fd00::1/64", some "10.0.1.1/24"]
    let created := Host.run (createEach "br0" requests) h
    h.Reachable ∧ created.1.map (·.isOk) = [false, true, true, true, false, true, true] ∧
      Gathered "br0" (accepted requests) h created.2 ∧
      created.2.addressesOf "br0" = ["10.0.0.1/24", "fd00::1/64", "10.0.1.1/24"] ∧
      ∀ c ∈ Host.calls (create "br0" (some "fd00::1/64")).run created.2, c.mutates = false := by
  intro calls h requests created
  have hr : h.Reachable := by
    repeat apply Host.Reachable.call
    exact .initial
  have hv : NameRule.bridge.check "br0" = .ok () := rfl
  obtain ⟨-, hgathered, -, hagain⟩ := creations_gather hr hv (by decide +kernel) requests
  exact ⟨hr, by decide +kernel, hgathered (by decide +kernel), by decide +kernel,
    (hagain (some "fd00::1/64") (by simp [requests]) rfl).2⟩

end Bridge

end SandboxNet
