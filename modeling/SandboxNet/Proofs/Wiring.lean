import SandboxNet.Proofs.QuietRun

/-! Which sandbox is wired to which bridge, without links and namespaces. As long as no call fails
of itself, a host answers every request as this view of it says, and the view determines the
host. -/
namespace SandboxNet

/-- A bridge name that is neither that of the loopback nor of an end of a pair. -/
def Usable (bridge : String) : Prop :=
  bridge ≠ "lo" ∧ bridge ≠ "host0" ∧ ¬ EndLike bridge

instance (bridge : String) : Decidable (Usable bridge) :=
  inferInstanceAs (Decidable (_ ∧ _ ∧ _))

theorem Usable.ne_hostVeth {bridge : String} (hu : Usable bridge) (s : String) :
    bridge ≠ "vh-" ++ s := by
  rintro rfl
  exact hu.2.2 (endLike_hostVeth s)

/-- The bridge of each wired sandbox, the sandboxes that have a namespace, and for each bridge
whether it is up. -/
structure Wiring where
  wires : Std.ExtTreeMap String String
  namespaces : Std.ExtTreeSet String
  bridges : Std.ExtTreeMap String Bool

namespace Wiring

def empty : Wiring :=
  ⟨∅, ∅, ∅⟩

/-- The bridge and the namespace are there; a new bridge is down. -/
def ready (w : Wiring) (bridge sandbox : String) : Wiring :=
  { w with
    namespaces := w.namespaces.insert sandbox
    bridges := w.bridges.insertIfNew bridge false }

def wire (w : Wiring) (bridge sandbox : String) : Wiring :=
  { w with
    wires := w.wires.insert sandbox bridge
    bridges := w.bridges.insert bridge true }

def attach (w : Wiring) (bridge sandbox : String) : Except NetError Unit × Wiring :=
  match NameRule.sandbox.check sandbox, NameRule.bridge.check bridge with
  | .error e, _ => (.error e, w)
  | .ok (), .error e => (.error e, w)
  | .ok (), .ok () =>
    if sandbox ∈ w.wires then
      (.error (.alreadyExists .veth ("vh-" ++ sandbox)), w.ready bridge sandbox)
    else (.ok (), (w.ready bridge sandbox).wire bridge sandbox)

/-- Any bridge that is there will do, whichever one the sandbox is wired to. -/
def detach (w : Wiring) (bridge sandbox : String) : Except NetError Unit × Wiring :=
  match NameRule.sandbox.check sandbox with
  | .error e => (.error e, w)
  | .ok () =>
    if bridge ∈ w.bridges then (.ok (), { w with wires := w.wires.erase sandbox })
    else (.error (.notFound .bridge bridge), w)

def cleanup (w : Wiring) (sandbox : String) : Bool × Wiring :=
  match NameRule.sandbox.check sandbox with
  | .error _ => (false, w)
  | .ok () =>
    (true, { w with
      wires := w.wires.erase sandbox
      namespaces := w.namespaces.erase sandbox })

def step (r : WireRequest) (w : Wiring) : WireReply × Wiring :=
  match r with
  | .attach bridge sandbox => (w.attach bridge sandbox).map .outcome id
  | .detach bridge sandbox => (w.detach bridge sandbox).map .outcome id
  | .cleanup sandbox _ => (w.cleanup sandbox).map .clean id

def serve : List WireRequest → Wiring → List WireReply × Wiring
  | [], w => ([], w)
  | r :: rest, w =>
    let (reply, w) := w.step r
    let (replies, w) := w.serve rest
    (reply :: replies, w)

/-- The links of a host that is wired like this. -/
inductive Shows (w : Wiring) : LinkId → Link → Prop where
  | loopback : Shows w ⟨none, "lo"⟩ (.fresh .loopback)
  | bridge {b : String} {up : Bool} (hb : w.bridges[b]? = some up) :
    Shows w ⟨none, b⟩ ⟨.bridge, up, none, []⟩
  | near {s b : String} (hs : w.wires[s]? = some b) :
    Shows w (hostEnd s) ⟨.veth (innerEnd s), true, some b, []⟩
  | far {s b : String} (hs : w.wires[s]? = some b) :
    Shows w (innerEnd s) ⟨.veth (hostEnd s), true, none, []⟩
  | inner {s : String} (hs : s ∈ w.namespaces) :
    Shows w (innerLoopback s) ⟨.loopback, true, none, []⟩

/-- The host has these links and no others, and the namespaces of these sandboxes. -/
structure Depicts (w : Wiring) (h : Host) : Prop where
  row : ∀ (id : LinkId) (l : Link), h.links[id]? = some l ↔ w.Shows id l
  netns : ∀ ns, ns ∈ h.netns ↔ ∃ s ∈ w.namespaces, ns = "corral-" ++ s

/-- A wired sandbox has its namespace, and no bridge stands where an end of a pair may be. -/
structure Sound (w : Wiring) : Prop where
  wired : ∀ s ∈ w.wires, s ∈ w.namespaces
  usable : ∀ b ∈ w.bridges, Usable b

variable {w w' : Wiring} {h h' h₁ base : Host} {bridge sandbox : String} {id : LinkId} {l : Link}

theorem Depicts.unique (hd : w.Depicts h) (hd' : w.Depicts h') : h' = h := by
  have hlinks : h'.links = h.links := by
    apply Std.ExtTreeMap.ext_getElem?
    intro id
    apply Option.ext
    intro l
    rw [hd.row, hd'.row]
  have hnetns : h'.netns = h.netns := by
    apply Std.ExtTreeSet.ext_mem
    intro ns
    rw [hd.netns, hd'.netns]
  calc h' = ⟨h'.links, h'.netns⟩ := rfl
    _ = h := by rw [hlinks, hnetns]

theorem empty_depicts : empty.Depicts .initial := by
  constructor
  · intro id l
    rw [Host.initial_links]
    constructor
    · intro hl
      split at hl
      · rename_i hid
        cases hid
        cases hl
        exact .loopback
      · cases hl
    · intro hs
      cases hs with
      | loopback => rfl
      | bridge hb => simp [empty] at hb
      | near hs => simp [empty] at hs
      | far hs => simp [empty] at hs
      | inner hs => simp [empty] at hs
  · intro ns
    simp [empty, Host.initial]

theorem empty_sound : empty.Sound := by
  constructor
  · intro s hs
    simp [empty] at hs
  · intro b hb
    simp [empty] at hb

theorem mem_iff_some {α : Type} {t : Std.ExtTreeMap String α} {k : String} :
    k ∈ t ↔ ∃ a, t[k]? = some a := by
  rw [Std.ExtTreeMap.mem_iff_isSome_getElem?, Option.isSome_iff_exists]

theorem erase_eq_some {α : Type} {t : Std.ExtTreeMap String α} {k k' : String} {a : α} :
    (t.erase k)[k']? = some a ↔ k ≠ k' ∧ t[k']? = some a := by
  by_cases he : k = k' <;> simp [Std.ExtTreeMap.getElem?_erase, he]

theorem erase_eq_self {α : Type} {t : Std.ExtTreeMap String α} {k : String} (hk : k ∉ t) :
    t.erase k = t := by
  apply Std.ExtTreeMap.ext_getElem?
  intro k'
  by_cases he : k = k'
  · subst he
    simp [hk]
  · simp [Std.ExtTreeMap.getElem?_erase, he]

/-! What is at each kind of place. -/

theorem shows_bridge (hu : Usable bridge) : w.Shows ⟨none, bridge⟩ l ↔
    ∃ up, w.bridges[bridge]? = some up ∧ l = ⟨.bridge, up, none, []⟩ := by
  constructor
  · intro hs
    generalize hid : (⟨none, bridge⟩ : LinkId) = id at hs
    cases hs with
    | loopback => exact absurd (congrArg LinkId.name hid) hu.1
    | bridge hb =>
      cases hid
      exact ⟨_, hb, rfl⟩
    | near hb => exact absurd (congrArg LinkId.name hid) (hu.ne_hostVeth _)
    | far hb => simp at hid
    | inner hb => simp at hid
  · rintro ⟨up, hb, rfl⟩
    exact .bridge hb

theorem shows_hostEnd (hu : ∀ b ∈ w.bridges, Usable b) : w.Shows (hostEnd sandbox) l ↔
    ∃ b, w.wires[sandbox]? = some b ∧ l = ⟨.veth (innerEnd sandbox), true, some b, []⟩ := by
  constructor
  · intro hs
    generalize hid : hostEnd sandbox = id at hs
    cases hs with
    | loopback => simp at hid
    | bridge hb =>
      exact absurd (congrArg LinkId.name hid).symm ((hu _ (mem_iff_some.mpr ⟨_, hb⟩)).ne_hostVeth _)
    | near hb =>
      obtain rfl := hostEnd_inj.mp hid
      exact ⟨_, hb, rfl⟩
    | far hb => simp at hid
    | inner hb => simp at hid
  · rintro ⟨b, hb, rfl⟩
    exact .near hb

theorem shows_innerEnd : w.Shows (innerEnd sandbox) l ↔
    ∃ b, w.wires[sandbox]? = some b ∧ l = ⟨.veth (hostEnd sandbox), true, none, []⟩ := by
  constructor
  · intro hs
    generalize hid : innerEnd sandbox = id at hs
    cases hs with
    | loopback => simp at hid
    | bridge hb => simp at hid
    | near hb => simp at hid
    | far hb =>
      obtain rfl := innerEnd_inj.mp hid
      exact ⟨_, hb, rfl⟩
    | inner hb => simp at hid
  · rintro ⟨b, hb, rfl⟩
    exact .far hb

theorem shows_innerLoopback : w.Shows (innerLoopback sandbox) l ↔
    sandbox ∈ w.namespaces ∧ l = ⟨.loopback, true, none, []⟩ := by
  constructor
  · intro hs
    generalize hid : innerLoopback sandbox = id at hs
    cases hs with
    | loopback => simp at hid
    | bridge hb => simp at hid
    | near hb => simp at hid
    | far hb => simp at hid
    | inner hb =>
      obtain rfl := innerLoopback_inj.mp hid
      exact ⟨hb, rfl⟩
  · rintro ⟨hs, rfl⟩
    exact .inner hs

theorem not_shows_looseEnd (hu : ∀ b ∈ w.bridges, Usable b) : ¬ w.Shows looseEnd l := by
  intro hs
  generalize hid : looseEnd = id at hs
  cases hs with
  | loopback => simp at hid
  | bridge hb => exact (hu _ (mem_iff_some.mpr ⟨_, hb⟩)).2.1 (congrArg LinkId.name hid).symm
  | near hb => simp at hid
  | far hb => simp at hid
  | inner hb => simp at hid

/-- What is seen at a place depends only on what the view says of that place. -/
theorem shows_congr (hb : ∀ b, id = ⟨none, b⟩ → w'.bridges[b]? = w.bridges[b]?)
    (hwire : ∀ s, id = hostEnd s ∨ id = innerEnd s → w'.wires[s]? = w.wires[s]?)
    (hns : ∀ s, id = innerLoopback s → (s ∈ w'.namespaces ↔ s ∈ w.namespaces)) :
    w.Shows id l ↔ w'.Shows id l := by
  constructor
  · intro hs
    cases hs with
    | loopback => exact .loopback
    | bridge h => exact .bridge ((hb _ rfl).trans h)
    | near h => exact .near ((hwire _ (Or.inl rfl)).trans h)
    | far h => exact .far ((hwire _ (Or.inr rfl)).trans h)
    | inner h => exact .inner ((hns _ rfl).mpr h)
  · intro hs
    cases hs with
    | loopback => exact .loopback
    | bridge h => exact .bridge ((hb _ rfl).symm.trans h)
    | near h => exact .near ((hwire _ (Or.inl rfl)).symm.trans h)
    | far h => exact .far ((hwire _ (Or.inr rfl)).symm.trans h)
    | inner h => exact .inner ((hns _ rfl).mp h)

namespace Depicts

theorem free (hd : w.Depicts h) (hn : ∀ l, ¬ w.Shows id l) : h.links[id]? = none := by
  cases hl : h.links[id]? with
  | none => rfl
  | some l => exact absurd ((hd.row id l).mp hl) (hn l)

theorem bridge_free (hd : w.Depicts h) (hu : Usable bridge) (hb : bridge ∉ w.bridges) :
    h.links[(⟨none, bridge⟩ : LinkId)]? = none := by
  apply hd.free
  intro l hs
  obtain ⟨up, hup, _⟩ := (shows_bridge hu).mp hs
  exact hb (mem_iff_some.mpr ⟨_, hup⟩)

theorem hostEnd_free (hd : w.Depicts h) (hu : ∀ b ∈ w.bridges, Usable b)
    (hs : sandbox ∉ w.wires) : h.links[hostEnd sandbox]? = none := by
  apply hd.free
  intro l hl
  obtain ⟨b, hb, _⟩ := (shows_hostEnd hu).mp hl
  exact hs (mem_iff_some.mpr ⟨_, hb⟩)

theorem innerEnd_free (hd : w.Depicts h) (hs : sandbox ∉ w.wires) :
    h.links[innerEnd sandbox]? = none := by
  apply hd.free
  intro l hl
  obtain ⟨b, hb, _⟩ := shows_innerEnd.mp hl
  exact hs (mem_iff_some.mpr ⟨_, hb⟩)

theorem looseEnd_free (hd : w.Depicts h) (hu : ∀ b ∈ w.bridges, Usable b) :
    h.links[looseEnd]? = none :=
  hd.free fun _ => not_shows_looseEnd hu

theorem bridge_iff (hd : w.Depicts h) (hu : Usable bridge) :
    h.deviceAt ⟨none, bridge⟩ = some .bridge ↔ bridge ∈ w.bridges := by
  constructor
  · intro hb
    by_cases hn : bridge ∈ w.bridges
    · exact hn
    · simp [Host.deviceAt, hd.bridge_free hu hn] at hb
  · intro hb
    obtain ⟨up, hup⟩ := mem_iff_some.mp hb
    exact Host.deviceAt_of_some ((hd.row _ _).mpr (.bridge hup))

theorem netns_iff (hd : w.Depicts h) :
    "corral-" ++ sandbox ∈ h.netns ↔ sandbox ∈ w.namespaces := by
  rw [hd.netns]
  simp

/-! The view follows the host where one row changes, or the two of a pair. -/

theorem put_bridge {up : Bool} (hd : w.Depicts h) (hu : Usable bridge)
    (hrow : ∀ id : LinkId, h'.links[id]? =
      if id = ⟨none, bridge⟩ then some ⟨.bridge, up, none, []⟩ else h.links[id]?)
    (hn : h'.netns = h.netns) : Depicts { w with bridges := w.bridges.insert bridge up } h' := by
  refine ⟨fun id l => ?_, fun ns => hn ▸ hd.netns ns⟩
  rw [hrow]
  by_cases hid : id = ⟨none, bridge⟩
  · subst hid
    rw [if_pos rfl, shows_bridge hu]
    simp [eq_comm]
  · rw [if_neg hid, hd.row]
    apply shows_congr
    · rintro b rfl
      have hne : bridge ≠ b := fun he => hid (congrArg _ he.symm)
      simp [Std.ExtTreeMap.getElem?_insert, hne]
    · exact fun _ _ => rfl
    · exact fun _ _ => Iff.rfl

theorem put_namespace (hd : w.Depicts h)
    (hrow : ∀ id : LinkId, h'.links[id]? =
      if id = innerLoopback sandbox then some ⟨.loopback, true, none, []⟩ else h.links[id]?)
    (hn : ∀ ns, ns ∈ h'.netns ↔ ns = "corral-" ++ sandbox ∨ ns ∈ h.netns) :
    Depicts { w with namespaces := w.namespaces.insert sandbox } h' := by
  constructor
  · intro id l
    rw [hrow]
    by_cases hid : id = innerLoopback sandbox
    · subst hid
      rw [if_pos rfl, shows_innerLoopback]
      simp [eq_comm]
    · rw [if_neg hid, hd.row]
      apply shows_congr
      · exact fun _ _ => rfl
      · exact fun _ _ => rfl
      · rintro s rfl
        have hne : sandbox ≠ s := fun he => hid (congrArg _ he.symm)
        simp [hne]
  · intro ns
    simp [hn, hd.netns]

theorem put_wire (hd : w.Depicts base) (hu : ∀ b ∈ w.bridges, Usable b)
    (hs : Spliced base sandbox (innerEnd sandbox)
      ⟨.veth (innerEnd sandbox), true, some bridge, []⟩
      ⟨.veth (hostEnd sandbox), true, none, []⟩ h) :
    Depicts { w with wires := w.wires.insert sandbox bridge } h := by
  refine ⟨fun id l => ?_, fun ns => hs.netns ▸ hd.netns ns⟩
  rw [hs.row]
  by_cases hnear : id = hostEnd sandbox
  · subst hnear
    rw [if_pos rfl, shows_hostEnd]
    · simp [eq_comm]
    · exact hu
  by_cases hfar : id = innerEnd sandbox
  · subst hfar
    rw [if_neg hnear, if_pos rfl, shows_innerEnd]
    simp [eq_comm]
  rw [if_neg hnear, if_neg hfar, hd.row]
  apply shows_congr
  · exact fun _ _ => rfl
  · intro s hid
    have hne : sandbox ≠ s := by
      rintro rfl
      exact hid.elim hnear hfar
    simp [Std.ExtTreeMap.getElem?_insert, hne]
  · exact fun _ _ => Iff.rfl

theorem cut_wire (hd : w.Depicts h) (hu : ∀ b ∈ w.bridges, Usable b)
    (hrow : ∀ id : LinkId, h'.links[id]? =
      if id = hostEnd sandbox ∨ id = innerEnd sandbox then none else h.links[id]?)
    (hn : h'.netns = h.netns) : Depicts { w with wires := w.wires.erase sandbox } h' := by
  refine ⟨fun id l => ?_, fun ns => hn ▸ hd.netns ns⟩
  rw [hrow]
  by_cases hid : id = hostEnd sandbox ∨ id = innerEnd sandbox
  · rw [if_pos hid]
    rcases hid with rfl | rfl
    · rw [shows_hostEnd]
      · simp
      · exact hu
    · rw [shows_innerEnd]
      simp
  · rw [if_neg hid, hd.row]
    apply shows_congr
    · exact fun _ _ => rfl
    · intro s hid'
      have hne : sandbox ≠ s := by
        rintro rfl
        exact hid hid'
      simp [Std.ExtTreeMap.getElem?_erase, hne]
    · exact fun _ _ => Iff.rfl

theorem paired (hd : w.Depicts h) : h.Paired := by
  intro id p hp
  obtain ⟨l, hl, hlp⟩ := Option.map_eq_some_iff.mp hp
  cases (hd.row id l).mp hl with
  | loopback => simp [Link.fresh] at hlp
  | bridge hb => simp at hlp
  | near hs =>
    cases hlp
    exact ⟨by simp, Host.deviceAt_of_some ((hd.row _ _).mpr (.far hs))⟩
  | far hs =>
    cases hlp
    exact ⟨by simp, Host.deviceAt_of_some ((hd.row _ _).mpr (.near hs))⟩
  | inner hs => simp at hlp

theorem unenslaved (hd : w.Depicts h) (ns : String) : h.Unenslaved ns := by
  intro id l hl hns
  cases (hd.row id l).mp hl with
  | loopback => rfl
  | bridge hb => rfl
  | near hs => simp at hns
  | far hs => rfl
  | inner hs => rfl

/-- With its namespace a sandbox loses its wire. -/
theorem drop_namespace (hd : w.Depicts h)
    (ok : h.deleteNamespace ("corral-" ++ sandbox) = .ok h') :
    Depicts { w with
      wires := w.wires.erase sandbox
      namespaces := w.namespaces.erase sandbox } h' := by
  constructor
  · intro id l
    rw [Host.deleteNamespace_links hd.paired (hd.unenslaved _) ok, hd.row]
    constructor
    · rintro ⟨hs, hout, hends⟩
      cases hs with
      | loopback => exact .loopback
      | bridge hb => exact .bridge hb
      | near hb => exact .near (erase_eq_some.mpr ⟨fun he => hends _ rfl (by rw [he]), hb⟩)
      | far hb => exact .far (erase_eq_some.mpr ⟨fun he => hout (by rw [he]), hb⟩)
      | @inner s hb =>
        have hne : sandbox ≠ s := fun he => hout (by rw [he])
        exact .inner (by simp [hne, hb])
    · intro hs
      cases hs with
      | loopback => exact ⟨.loopback, by simp, by simp [Link.fresh]⟩
      | bridge hb => exact ⟨.bridge hb, by simp, by simp⟩
      | near hb =>
        obtain ⟨hne, hb⟩ := erase_eq_some.mp hb
        exact ⟨.near hb, by simp, by simp [Ne.symm hne]⟩
      | far hb =>
        obtain ⟨hne, hb⟩ := erase_eq_some.mp hb
        exact ⟨.far hb, by simp [Ne.symm hne], by simp⟩
      | inner hb =>
        simp only [Std.ExtTreeSet.mem_erase, ne_eq, Std.LawfulEqCmp.compare_eq_iff_eq] at hb
        exact ⟨.inner hb.2, by simp [Ne.symm hb.1], by simp⟩
  · intro ns
    rw [Host.deleteNamespace_netns ok]
    simp only [Std.ExtTreeSet.mem_erase, ne_eq, Std.LawfulEqCmp.compare_eq_iff_eq, hd.netns]
    constructor
    · rintro ⟨hne, s, hs, rfl⟩
      exact ⟨s, ⟨fun he => hne (by rw [he]), hs⟩, rfl⟩
    · rintro ⟨s, ⟨hne, hs⟩, rfl⟩
      exact ⟨by simpa using hne, s, hs, rfl⟩

end Depicts

theorem usable_insert {up : Bool} (hw : ∀ b ∈ w.bridges, Usable b) (hu : Usable bridge) :
    ∀ b ∈ w.bridges.insert bridge up, Usable b := by
  intro b hb
  simp only [Std.ExtTreeMap.mem_insert, Std.LawfulEqCmp.compare_eq_iff_eq] at hb
  rcases hb with rfl | hb
  · exact hu
  · exact hw b hb

theorem ready_sound (hw : w.Sound) (hu : Usable bridge) : (w.ready bridge sandbox).Sound := by
  constructor
  · intro s hs
    simp [ready, hw.wired s hs]
  · intro b hb
    simp only [ready, Std.ExtTreeMap.mem_insertIfNew, Std.LawfulEqCmp.compare_eq_iff_eq] at hb
    rcases hb with rfl | hb
    · exact hu
    · exact hw.usable b hb

theorem wire_sound (hw : w.Sound) (hu : Usable bridge) (hs : sandbox ∈ w.namespaces) :
    (w.wire bridge sandbox).Sound := by
  refine ⟨fun s hs' => ?_, usable_insert hw.usable hu⟩
  simp only [wire, Std.ExtTreeMap.mem_insert, Std.LawfulEqCmp.compare_eq_iff_eq] at hs' ⊢
  rcases hs' with rfl | hs'
  · exact hs
  · exact hw.wired s hs'

theorem create_refines (hd : w.Depicts h) (hu : Usable bridge)
    (hv : NameRule.bridge.check bridge = .ok ()) :
    ∃ h₁, Host.run (Bridge.create bridge none).run h = (.ok (), h₁) ∧
      Depicts { w with bridges := w.bridges.insertIfNew bridge false } h₁ := by
  by_cases hb : bridge ∈ w.bridges
  · have he : w.bridges.insertIfNew bridge false = w.bridges := by
      apply Std.ExtTreeMap.ext_getElem?
      simp [Std.ExtTreeMap.getElem?_insertIfNew, hb]
    rw [he]
    exact ⟨h, Bridge.run_create_present hv ((hd.bridge_iff hu).mpr hb), hd⟩
  · have he : w.bridges.insertIfNew bridge false = w.bridges.insert bridge false := by
      apply Std.ExtTreeMap.ext_getElem?
      simp [Std.ExtTreeMap.getElem?_insertIfNew, Std.ExtTreeMap.getElem?_insert, hb]
    have ok := Host.addBridge_eq_ok.mpr ⟨hd.bridge_free hu hb, rfl⟩
    rw [he]
    refine ⟨_, Bridge.run_create_free hv ok, hd.put_bridge hu (fun id => ?_) rfl⟩
    exact Host.links_insert _ _ _ _

/-- Only a namespace that had to be made has its loopback down. -/
theorem ensure_refines (hd : w.Depicts h) (hv : NameRule.sandbox.check sandbox = .ok ()) :
    ∃ made base up, Host.run (Namespace.ensure ("corral-" ++ sandbox)).run h = (.ok made, base) ∧
      (sandbox ∈ w.namespaces → up = true) ∧
      (∀ id : LinkId, base.links[id]? = if id = innerLoopback sandbox
        then some ⟨.loopback, up, none, []⟩ else h.links[id]?) ∧
      ∀ ns, ns ∈ base.netns ↔ ns = "corral-" ++ sandbox ∨ ns ∈ h.netns := by
  by_cases hs : sandbox ∈ w.namespaces
  · have hn := hd.netns_iff.mpr hs
    refine ⟨false, h, true, Namespace.run_ensure_mem hn, fun _ => rfl, fun id => ?_, fun ns => ?_⟩
    · split
      · rename_i hid
        rw [hid, hd.row]
        exact .inner hs
      · rfl
    · constructor
      · exact Or.inr
      · rintro (rfl | hns)
        · exact hn
        · exact hns
  · have ok := Host.addNamespace_eq_ok.mpr ⟨mt hd.netns_iff.mp hs, rfl⟩
    refine ⟨true, _, false, Namespace.run_ensure_not_mem (check_netns hv) ok, fun hs' => ?_,
      fun id => ?_, fun ns => ?_⟩
    · exact absurd hs' hs
    · exact Host.links_insert _ _ _ _
    · simp [@eq_comm _ ns]

/-- The bridge up, the loopback inside up and the pair in make a wired sandbox. -/
theorem Depicts.wire_up {up : Bool} (hd : w.Depicts h) (hb : bridge ∈ w.bridges)
    (hu : ∀ b ∈ w.bridges, Usable b)
    (hrow : ∀ id : LinkId, base.links[id]? = if id = innerLoopback sandbox
      then some ⟨.loopback, up, none, []⟩ else h.links[id]?)
    (hns : ∀ ns, ns ∈ base.netns ↔ ns = "corral-" ++ sandbox ∨ ns ∈ h.netns)
    (hs : Spliced ((base.update ⟨none, bridge⟩ raised).update (innerLoopback sandbox) raised)
      sandbox (innerEnd sandbox) ⟨.veth (innerEnd sandbox), true, some bridge, []⟩
      ⟨.veth (hostEnd sandbox), true, none, []⟩ h') :
    Depicts ⟨w.wires.insert sandbox bridge, w.namespaces.insert sandbox,
      w.bridges.insert bridge true⟩ h' := by
  -- the host that has the namespace as it is in the end, and is otherwise as it was
  let opened : Host :=
    ⟨h.links.insert (innerLoopback sandbox) ⟨.loopback, true, none, []⟩, base.netns⟩
  have hopened : Depicts { w with namespaces := w.namespaces.insert sandbox } opened :=
    hd.put_namespace (fun id => Host.links_insert _ _ _ _) hns
  obtain ⟨wasUp, hup⟩ := mem_iff_some.mp hb
  have hbr := (hd.row _ _).mpr (.bridge hup)
  have hfinal : ∀ id : LinkId,
      ((base.update ⟨none, bridge⟩ raised).update (innerLoopback sandbox) raised).links[id]? =
        if id = ⟨none, bridge⟩ then some ⟨.bridge, true, none, []⟩ else opened.links[id]? := by
    intro id
    simp only [opened, Host.update_links, Host.links_insert, hrow]
    by_cases hlo : id = innerLoopback sandbox
    · simp [hlo]
    · by_cases hid : id = ⟨none, bridge⟩
      · simp [hid, hbr]
      · simp [hlo, hid]
  have hraised := hopened.put_bridge (hu bridge hb) hfinal rfl
  exact hraised.put_wire (usable_insert hu (hu bridge hb)) hs

theorem attach_refines (sandbox : String) (hd : w.Depicts h) (hw : w.Sound) (hu : Usable bridge) :
    ∃ h', Host.run (Attachment.attach bridge sandbox).run h =
        ((w.attach bridge sandbox).1, h') ∧
      (w.attach bridge sandbox).2.Depicts h' ∧ (w.attach bridge sandbox).2.Sound := by
  rw [attach]
  cases hv : NameRule.sandbox.check sandbox with
  | error e =>
    refine ⟨h, ?_, hd, hw⟩
    exact Host.run_net_error (Attachment.run_forSandbox_error hv)
  | ok _ =>
  cases hb : NameRule.bridge.check bridge with
  | error e =>
    refine ⟨h, ?_, hd, hw⟩
    have hc : Host.run (Bridge.create bridge none).run h = (.error e, h) := by
      rw [Bridge.create, hb]
      rfl
    exact (Host.run_net_ok (Attachment.run_forSandbox_ok hv)).trans (Host.run_net_error hc)
  | ok _ =>
  obtain ⟨h₁, hc, hd₁⟩ := create_refines hd hu hb
  obtain ⟨made, base, up, hn, hup, hrow, hns⟩ := ensure_refines hd₁ hv
  have hr : Attachment.Ready bridge sandbox h base := ⟨hv, h₁, made, hc, hn⟩
  have hsame : ∀ id : LinkId, id ≠ innerLoopback sandbox → base.links[id]? = h₁.links[id]? :=
    fun id hid => (hrow id).trans (if_neg hid)
  have hw' : (w.ready bridge sandbox).Sound := ready_sound hw hu
  by_cases hs : sandbox ∈ w.wires
  · -- the namespace is there, so all but the bridge is as it was
    have hup : up = true := hup (hw.wired sandbox hs)
    subst hup
    obtain ⟨b, hb⟩ := mem_iff_some.mp hs
    have hl := (hsame (hostEnd sandbox) (by simp)).trans ((hd₁.row _ _).mpr (.near hb))
    rw [if_pos hs]
    exact ⟨base, Attachment.run_attach_taken hr hl rfl, hd₁.put_namespace hrow hns, hw'⟩
  · have hb₁ : bridge ∈ w.bridges.insertIfNew bridge false := by simp
    have hbr : base.deviceAt ⟨none, bridge⟩ = some .bridge := by
      rw [Host.deviceAt, hsame _ (by simp)]
      exact (hd₁.bridge_iff hu).mpr hb₁
    obtain ⟨h', ha, hsp⟩ := Attachment.run_attach_free hr hbr ((hns _).mpr (Or.inl rfl))
      ((hsame _ (by simp)).trans (hd₁.hostEnd_free hw'.usable hs))
      ((hsame _ (by simp)).trans (hd₁.looseEnd_free hw'.usable))
      ((hsame _ (by simp)).trans (hd₁.innerEnd_free hs)) ((hrow _).trans (if_pos rfl))
    rw [if_neg hs]
    refine ⟨h', ha, hd₁.wire_up hb₁ hw'.usable hrow hns hsp, wire_sound hw' hu ?_⟩
    simp [ready]

theorem erase_sound (hw : w.Sound) (sandbox : String) :
    Sound { w with wires := w.wires.erase sandbox } := by
  refine ⟨fun s hs => ?_, hw.usable⟩
  exact hw.wired s (Std.ExtTreeMap.mem_erase.mp hs).2

theorem Depicts.detach (hd : w.Depicts h) (hw : w.Sound) (hu : Usable bridge)
    (hv : NameRule.sandbox.check sandbox = .ok ()) (hb : bridge ∈ w.bridges) :
    ∃ h', Host.run (Attachment.detach bridge sandbox).run h = (.ok (), h') ∧
      Depicts { w with wires := w.wires.erase sandbox } h' := by
  have hbr := (hd.bridge_iff hu).mpr hb
  by_cases hs : sandbox ∈ w.wires
  · obtain ⟨b, hwire⟩ := mem_iff_some.mp hs
    have hl := (hd.row _ _).mpr (.near hwire)
    refine ⟨_, Attachment.run_detach_wired hv hbr (Host.deviceAt_of_some hl), ?_⟩
    exact hd.cut_wire hw.usable (fun id => Host.remove_veth hl rfl) (Host.remove_netns _ _)
  · refine ⟨h, Attachment.run_detach_unwired hv hbr
      (Host.deviceAt_ne_veth (hd.hostEnd_free hw.usable hs)), ?_⟩
    refine hd.cut_wire hw.usable (fun id => ?_) rfl
    split
    · rename_i hid
      rcases hid with rfl | rfl
      · exact hd.hostEnd_free hw.usable hs
      · exact hd.innerEnd_free hs
    · rfl

theorem detach_refines (sandbox : String) (hd : w.Depicts h) (hw : w.Sound) (hu : Usable bridge) :
    ∃ h', Host.run (Attachment.detach bridge sandbox).run h =
        ((w.detach bridge sandbox).1, h') ∧
      (w.detach bridge sandbox).2.Depicts h' ∧ (w.detach bridge sandbox).2.Sound := by
  rw [Wiring.detach]
  cases hv : NameRule.sandbox.check sandbox with
  | error e =>
    refine ⟨h, ?_, hd, hw⟩
    exact Host.run_net_error (Attachment.run_forSandbox_error hv)
  | ok _ =>
  by_cases hb : bridge ∈ w.bridges
  · obtain ⟨h', hr, hd'⟩ := hd.detach hw hu hv hb
    rw [if_pos hb]
    exact ⟨h', hr, hd', erase_sound hw sandbox⟩
  · rw [if_neg hb]
    exact ⟨h, Attachment.run_detach_missing hv (mt (hd.bridge_iff hu).mp hb), hd, hw⟩

/-- A cleanup whose detachment fails leaves the wire to go with the namespace. -/
theorem Depicts.detach_anyway (hd : w.Depicts h) (hw : w.Sound) (hu : Usable bridge)
    (hv : NameRule.sandbox.check sandbox = .ok ()) :
    ∃ r h₁ wires, Host.run (Attachment.detach bridge sandbox).run h = (r, h₁) ∧
      Depicts { w with wires := wires } h₁ ∧
      (wires = w.wires ∨ wires = w.wires.erase sandbox) := by
  by_cases hb : bridge ∈ w.bridges
  · obtain ⟨h₁, hr, hd₁⟩ := hd.detach hw hu hv hb
    exact ⟨_, h₁, _, hr, hd₁, Or.inr rfl⟩
  · have hr := Attachment.run_detach_missing hv (mt (hd.bridge_iff hu).mp hb)
    exact ⟨_, h, w.wires, hr, hd, Or.inl rfl⟩

theorem cleanup_refines (sandbox : String) (hd : w.Depicts h) (hw : w.Sound) (hu : Usable bridge) :
    ∃ h', Host.run (Attachment.cleanup sandbox bridge) h = ((w.cleanup sandbox).1, h') ∧
      (w.cleanup sandbox).2.Depicts h' ∧ (w.cleanup sandbox).2.Sound := by
  rw [cleanup]
  cases hv : NameRule.sandbox.check sandbox with
  | error e => exact ⟨h, Attachment.run_cleanup_invalid hv, hd, hw⟩
  | ok _ =>
  have hw' : Sound { w with
      wires := w.wires.erase sandbox
      namespaces := w.namespaces.erase sandbox } := by
    refine ⟨fun s hs => ?_, hw.usable⟩
    obtain ⟨hne, hs⟩ := Std.ExtTreeMap.mem_erase.mp hs
    exact Std.ExtTreeSet.mem_erase.mpr ⟨hne, hw.wired s hs⟩
  obtain ⟨r, h₁, wires, hr, hd₁, hwires⟩ := hd.detach_anyway hw hu hv
  by_cases hs : sandbox ∈ w.namespaces
  · have ok := Host.deleteNamespace_eq_ok.mpr ⟨hd₁.netns_iff.mpr hs, rfl⟩
    have hd₂ := hd₁.drop_namespace ok
    have he : wires.erase sandbox = w.wires.erase sandbox := by
      rcases hwires with rfl | rfl
      · rfl
      · exact erase_eq_self (by simp)
    rw [he] at hd₂
    refine ⟨_, Attachment.run_cleanup_gone hv hr (Attachment.run_dropNamespace_mem ok)
      (Host.deviceAt_ne_veth (hd₂.hostEnd_free hw.usable (by simp)))
      (mt hd₂.netns_iff.mp (by simp)), hd₂, hw'⟩
  · have hns : w.namespaces.erase sandbox = w.namespaces := by
      apply Std.ExtTreeSet.ext_mem
      intro s
      simp only [Std.ExtTreeSet.mem_erase, ne_eq, Std.LawfulEqCmp.compare_eq_iff_eq,
        and_iff_right_iff_imp]
      rintro hs' rfl
      exact hs hs'
    have hwire : sandbox ∉ w.wires := mt (hw.wired sandbox) hs
    have he : wires = w.wires.erase sandbox := by
      rcases hwires with rfl | rfl
      · exact (erase_eq_self hwire).symm
      · rfl
    subst he
    have hd₂ : Depicts ⟨w.wires.erase sandbox, w.namespaces.erase sandbox, w.bridges⟩ h₁ := by
      rw [hns]
      exact hd₁
    have hn := mt hd₁.netns_iff.mp hs
    exact ⟨h₁, Attachment.run_cleanup_gone hv hr (Attachment.run_dropNamespace_not_mem hn)
      (Host.deviceAt_ne_veth (hd₂.hostEnd_free hw.usable (by simp))) hn, hd₂, hw'⟩

theorem step_refines {r : WireRequest} (hd : w.Depicts h) (hw : w.Sound) (hu : Usable r.bridge) :
    ∃ h', Host.run r.program h = ((w.step r).1, h') ∧
      (w.step r).2.Depicts h' ∧ (w.step r).2.Sound := by
  cases r with
  | attach bridge sandbox =>
    obtain ⟨h', hr, hd', hw'⟩ := attach_refines sandbox hd hw hu
    exact ⟨h', Host.run_map hr, hd', hw'⟩
  | detach bridge sandbox =>
    obtain ⟨h', hr, hd', hw'⟩ := detach_refines sandbox hd hw hu
    exact ⟨h', Host.run_map hr, hd', hw'⟩
  | cleanup sandbox bridge =>
    obtain ⟨h', hr, hd', hw'⟩ := cleanup_refines sandbox hd hw hu
    exact ⟨h', Host.run_map hr, hd', hw'⟩

theorem serve_refines {requests : List WireRequest} (hd : w.Depicts h) (hw : w.Sound)
    (hu : ∀ r ∈ requests, Usable r.bridge) :
    ∃ h', Host.run (requests.mapM WireRequest.program) h = ((w.serve requests).1, h') ∧
      (w.serve requests).2.Depicts h' := by
  induction requests generalizing w h with
  | nil => exact ⟨h, rfl, hd⟩
  | cons r rest ih =>
    obtain ⟨h₁, hr, hd₁, hw₁⟩ := step_refines hd hw (hu r List.mem_cons_self)
    obtain ⟨h₂, hrest, hd₂⟩ := ih hd₁ hw₁ fun r' hr' => hu r' (List.mem_cons_of_mem r hr')
    refine ⟨h₂, ?_, hd₂⟩
    rw [List.mapM_cons, Host.run_bind hr, Host.run_bind hrest]
    rfl

/-- However long a run has been, every reply was the one that the view gives, and the host is the
only one that the view depicts. -/
theorem host_follows_wiring (requests : List WireRequest)
    (hu : ∀ r ∈ requests, Usable r.bridge) :
    (Host.run (requests.mapM WireRequest.program) .initial).1 = (empty.serve requests).1 ∧
      ∀ h, (empty.serve requests).2.Depicts h ↔
        h = (Host.run (requests.mapM WireRequest.program) .initial).2 := by
  obtain ⟨h', hr, hd⟩ := serve_refines empty_depicts empty_sound hu
  rw [hr]
  refine ⟨rfl, fun h => ⟨hd.unique, ?_⟩⟩
  rintro rfl
  exact hd

/-- A second attachment is refused, detaching works through any bridge, and a sandbox can be wired
again into the namespace that it kept. -/
theorem host_follows_wiring_again :
    (∀ r ∈ [WireRequest.attach "br0" "web", .attach "br1" "web", .detach "br1" "web",
      .attach "br1" "web", .cleanup "web" "br2"], Usable r.bridge) ∧
    (Host.run (List.mapM WireRequest.program [.attach "br0" "web", .attach "br1" "web",
      .detach "br1" "web", .attach "br1" "web", .cleanup "web" "br2"]) .initial).1 =
      [.outcome (.ok ()), .outcome (.error (.alreadyExists .veth "vh-web")), .outcome (.ok ()),
        .outcome (.ok ()), .clean true] :=
  ⟨by decide, (host_follows_wiring _ (by decide)).1.trans rfl⟩

end Wiring

end SandboxNet
