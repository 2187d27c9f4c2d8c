import SandboxNet.Proofs.HostRows

/-! What lies in a named namespace. Nothing is left in a namespace that is gone, and nothing takes
the place of the loopback of one that is there. -/
namespace SandboxNet.Host

variable {h h' : Host} {a ns : String}

/-- The addresses of a link are different texts. -/
def Distinct (_ : LinkId) (l : Link) : Prop :=
  l.addresses.Nodup

theorem distinct_fresh (id : LinkId) (d : Device) : Distinct id (.fresh d) :=
  List.nodup_nil

theorem distinct_change (hp : Paired h) (hd : Rows Distinct h) (hc : Change h h') :
    Rows Distinct h' := by
  cases hc with
  | addVeth ok =>
    obtain ⟨_, _, _, rfl⟩ := addVeth_eq_ok.mp ok
    exact Rows.insert (h := ⟨_, h.netns⟩) (hd.insert (distinct_fresh _ _)) (distinct_fresh _ _)
  | addBridge ok =>
    obtain ⟨_, rfl⟩ := addBridge_eq_ok.mp ok
    exact hd.insert (distinct_fresh _ _)
  | deleteLink ok =>
    obtain ⟨_, rfl⟩ := deleteLink_eq_ok.mp ok
    exact hd.remove (fun _ _ hl => hl) _
  | setAdmin ok =>
    obtain ⟨_, rfl⟩ := setAdmin_eq_ok.mp ok
    exact hd.update fun l hl => hd _ l hl
  | setMaster ok =>
    obtain ⟨_, _, rfl⟩ := setMaster_eq_ok.mp ok
    exact hd.update fun l hl => hd _ l hl
  | setNetns ok => exact hd.setNetns hp (fun l hl => hd _ l hl) (fun _ _ _ _ _ hl => hl) ok
  | addAddress ok =>
    obtain ⟨l₀, hl₀, hnew, rfl⟩ := addAddress_eq_ok.mp ok
    refine hd.update fun l hl => ?_
    -- the text is new to the link that has just been looked up
    cases hl₀.symm.trans hl
    refine List.nodup_append.mpr ⟨hd _ l₀ hl₀, by simp, ?_⟩
    intro x hx y hy he
    rw [he, List.mem_singleton.mp hy] at hx
    exact hnew hx
  | addNamespace ok =>
    obtain ⟨_, rfl⟩ := addNamespace_eq_ok.mp ok
    exact hd.insert (distinct_fresh _ _)
  | deleteNamespace ok => exact hd.deleteNamespace (fun _ _ hl => hl) ok

theorem Reachable.distinct (hr : h.Reachable) : Rows Distinct h := by
  have hbare : Rows Distinct Host.bare := by
    intro id l hl
    rw [bare_links] at hl
    cases hl
  have hall : (Paired h ∧ Contained h) ∧ Rows Distinct h := by
    apply hr.induct (P := fun h => (Paired h ∧ Contained h) ∧ Rows Distinct h)
    · exact ⟨initial_sound, hbare.insert (distinct_fresh _ _)⟩
    · exact ⟨bare_sound, hbare⟩
    · rintro h h' ⟨⟨hp, hk⟩, hd⟩ hc
      exact ⟨⟨paired_change hp hk hc, contained_change hp hk hc⟩, distinct_change hp hd hc⟩
  exact hall.2

/-- A new namespace is given its loopback where no link was. -/
theorem Contained.addNamespace_row {id : LinkId} {l : Link} (hk : Contained h)
    (hl : h.links[id]? = some l) (ok : h.addNamespace ns = .ok h') : h'.links[id]? = some l := by
  obtain ⟨hn, rfl⟩ := addNamespace_eq_ok.mp ok
  have hid : id ≠ ⟨some ns, "lo"⟩ := by
    rintro rfl
    rw [hk.absent hn] at hl
    cases hl
  rw [links_insert, if_neg hid, hl]

/-- What is called like a loopback cannot be moved into any namespace. -/
theorem Contained.setNetns_ne_lo (hk : Contained h) (ok : h.setNetns a ns = .ok h') :
    a ≠ "lo" := by
  rintro rfl
  obtain ⟨hn, hfree, _⟩ := setNetns_eq_ok.mp ok
  have hlo := hk.loopback ns hn
  rw [deviceAt, hfree] at hlo
  cases hlo

theorem setNetns_loopback_row (hp : Paired h) (hk : Contained h)
    (ok : h.setNetns a ns = .ok h') (other : String) :
    h'.links[(⟨some other, "lo"⟩ : LinkId)]? = h.links[(⟨some other, "lo"⟩ : LinkId)]? := by
  have ha := hk.setNetns_ne_lo ok
  obtain ⟨_, _, l, hl, rfl⟩ := setNetns_eq_ok.mp ok
  have hnd : l.device ≠ .veth ⟨some other, "lo"⟩ := by
    intro hd
    obtain ⟨_, l', hl', hd'⟩ := hp.peer hl hd
    have hlo := hk.loopback other (hk.registered other "lo" l' hl')
    rw [deviceAt_of_some hl', hd'] at hlo
    cases hlo
  rw [links_insert, if_neg (by simp [Ne.symm ha]), redirect_links, if_neg hnd, links_erase,
    if_neg (by simp)]

/-- Whatever was called, a link of a named namespace lies in a registered one and in no bridge, a
registered namespace has its loopback, and no link has an address twice. To register a namespace
overwrites no link, and a move puts nothing in the place of a loopback. -/
theorem namespaces_contained (hr : h.Reachable) :
    (∀ ns name l, h.links[(⟨some ns, name⟩ : LinkId)]? = some l → ns ∈ h.netns) ∧
    (∀ ns ∈ h.netns, ∃ l, h.links[(⟨some ns, "lo"⟩ : LinkId)]? = some l ∧
      l.kind = .loopback ∧ l.peer = none) ∧
    (∀ ns name l, h.links[(⟨some ns, name⟩ : LinkId)]? = some l → l.master = none) ∧
    (∀ (id : LinkId) (l : Link), h.links[id]? = some l → l.addresses.Nodup) ∧
    (∀ (ns : String) (id : LinkId) (l : Link), h.links[id]? = some l →
      (h.answer (.addNamespace ns)).2.links[id]? = some l) ∧
    (∀ ns, ∃ e, h.answer (.setNetns "lo" ns) = (.error e, h)) ∧
    ∀ name ns other, (h.answer (.setNetns name ns)).2.links[(⟨some other, "lo"⟩ : LinkId)]? =
      h.links[(⟨some other, "lo"⟩ : LinkId)]? := by
  obtain ⟨hp, hk⟩ := hr.sound
  refine ⟨hk.registered, fun ns hn => ?_, fun ns name l hl => hk.unenslaved ns _ l hl rfl,
    hr.distinct, fun ns id l hl => ?_, fun ns => ?_, fun name ns other => ?_⟩
  · obtain ⟨l, hl, hd⟩ := Option.map_eq_some_iff.mp (hk.loopback ns hn)
    exact ⟨l, hl, by simp [Link.kind, hd], by simp [Link.peer, hd]⟩
  · obtain ⟨_, ok⟩ | ⟨e, _, he⟩ := change_cases (h := h) (h.addNamespace ns)
    · exact hk.addNamespace_row hl ok
    · simp only [answer, he, hl]
  · obtain ⟨_, ok⟩ | ⟨e, _, he⟩ := change_cases (h := h) (h.setNetns "lo" ns)
    · exact absurd rfl (hk.setNetns_ne_lo ok)
    · exact ⟨e, he⟩
  · obtain ⟨_, ok⟩ | ⟨e, _, he⟩ := change_cases (h := h) (h.setNetns name ns)
    · exact setNetns_loopback_row hp hk ok other
    · simp only [answer, he]

/-- On a host without any loopback of its own, an end called like one stays outside. -/
theorem namespaces_contained_lookalike :
    let h := ((bare.answer (.addVeth "lo" "far")).2.answer (.addNamespace "inner")).2
    let inside : LinkId := ⟨some "inner", "lo"⟩
    h.Reachable ∧ (∃ l, h.links[inside]? = some l ∧ l.kind = .loopback ∧ l.peer = none) ∧
      ∃ e, h.answer (.setNetns "lo" "inner") = (.error e, h) := by
  intro h inside
  have hr : h.Reachable := .call _ (.call _ .bare)
  have hn : "inner" ∈ h.netns := by decide +kernel
  obtain ⟨-, hlo, -, -, -, hmove, -⟩ := namespaces_contained hr
  exact ⟨hr, hlo "inner" hn, hmove "inner"⟩

end SandboxNet.Host
