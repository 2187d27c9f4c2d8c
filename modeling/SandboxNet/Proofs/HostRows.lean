import SandboxNet.Proofs.HostInvariants

/-! Properties of single links. Which links are there does not matter to them, so every change of
the host keeps such a property if the one link it touches still has it. -/
namespace SandboxNet.Host

variable {h h' : Host} {k : LinkId} {R S : LinkId → Link → Prop}

/-- Every link of the host has the property. -/
def Rows (R : LinkId → Link → Prop) (h : Host) : Prop :=
  ∀ (id : LinkId) (l : Link), h.links[id]? = some l → R id l

namespace Rows

theorem mono (hr : Rows R h) (hs : ∀ id l, R id l → S id l) : Rows S h := by
  intro id l hl
  exact hs id l (hr id l hl)

theorem insert {netns : Std.ExtTreeSet String} {l : Link} (hr : Rows R h) (hk : R k l) :
    Rows R ⟨h.links.insert k l, netns⟩ := by
  intro id l' hl
  rw [links_insert] at hl
  split at hl
  · rename_i he
    cases hl
    exact he ▸ hk
  · exact hr id l' hl

theorem update {f : Link → Link} (hr : Rows R h)
    (hf : ∀ l, h.links[k]? = some l → R k (f l)) : Rows R (h.update k f) := by
  intro id l hl
  rw [update_links] at hl
  split at hl
  · rename_i he
    subst he
    obtain ⟨l₀, hl₀, rfl⟩ := Option.map_eq_some_iff.mp hl
    exact hf l₀ hl₀
  · exact hr id l hl

/-- The links that stay keep the property, also those that leave their bridge. -/
theorem remove (hr : Rows R h) (freed : ∀ id l, R id l → R id { l with master := none })
    (k : LinkId) : Rows R (h.remove k) := by
  intro id l hl
  rw [remove_row] at hl
  split at hl
  · cases hl
  split at hl
  · obtain ⟨l₀, hl₀, rfl⟩ := Option.map_eq_some_iff.mp hl
    simp only [release]
    split
    · exact freed id l₀ (hr id l₀ hl₀)
    · exact hr id l₀ hl₀
  · exact hr id l hl

theorem deleteNamespace {ns : String} (hr : Rows R h)
    (freed : ∀ id l, R id l → R id { l with master := none })
    (ok : h.deleteNamespace ns = .ok h') : Rows R h' := by
  obtain ⟨_, rfl⟩ := deleteNamespace_eq_ok.mp ok
  generalize (h.linksIn (some ns)).map (·.1) = ids
  have hstart : Rows R ⟨h.links, h.netns.erase ns⟩ := hr
  generalize (⟨h.links, h.netns.erase ns⟩ : Host) = start at hstart
  induction ids generalizing start with
  | nil => exact hstart
  | cons k ids ih => exact ih _ (hstart.remove freed k)

/-- The moved link has the property at its new place, and its other end still has it. -/
theorem setNetns {a ns : String} (hr : Rows R h) (hp : Paired h)
    (moved : ∀ l, h.links[(⟨none, a⟩ : LinkId)]? = some l →
      R ⟨some ns, a⟩ { l with master := none, adminUp := false })
    (redirected : ∀ id l p q, l.device = .veth p → R id l → R id { l with device := .veth q })
    (ok : h.setNetns a ns = .ok h') : Rows R h' := by
  obtain ⟨_, _, l₁, hl₁, rfl⟩ := setNetns_eq_ok.mp ok
  intro id l hl
  rw [links_insert, redirect_links, links_erase] at hl
  split at hl
  · rename_i he
    cases hl
    exact he ▸ moved l₁ hl₁
  split at hl
  · rename_i hd
    obtain ⟨hne, l₀, hl₀, hback⟩ := hp.peer hl₁ hd
    rw [if_neg hne, hl₀] at hl
    cases hl
    exact redirected id l₀ _ _ hback (hr id l₀ hl₀)
  split at hl
  · cases hl
  · exact hr id l hl

end Rows

end SandboxNet.Host
