import SandboxNet.Attachment
import SandboxNet.Host.Basic

/-! The names made from a sandbox name: they can be used, and differ from sandbox to sandbox. -/
namespace SandboxNet

variable {s t : String}

/-- The end of a sandbox's pair that stays in the default namespace. -/
abbrev hostEnd (sandbox : String) : LinkId := ⟨none, "vh-" ++ sandbox⟩

/-- The other end of a pair before it is moved. All sandboxes share the place. -/
abbrev looseEnd : LinkId := ⟨none, "host0"⟩

/-- The other end of a sandbox's pair, inside the namespace of the sandbox. -/
abbrev innerEnd (sandbox : String) : LinkId := ⟨some ("corral-" ++ sandbox), "host0"⟩

abbrev innerLoopback (sandbox : String) : LinkId := ⟨some ("corral-" ++ sandbox), "lo"⟩

@[simp] theorem hostVeth_ne_loose (s : String) : "vh-" ++ s ≠ "host0" := by
  intro he
  have hl := congrArg String.toList he
  simp at hl

@[simp] theorem hostVeth_ne_lo (s : String) : "vh-" ++ s ≠ "lo" := by
  intro he
  have hl := congrArg String.toList he
  simp at hl

@[simp] theorem loose_ne_hostVeth (s : String) : "host0" ≠ "vh-" ++ s :=
  (hostVeth_ne_loose s).symm

@[simp] theorem lo_ne_hostVeth (s : String) : "lo" ≠ "vh-" ++ s :=
  (hostVeth_ne_lo s).symm

theorem hostEnd_inj : hostEnd s = hostEnd t ↔ s = t := by
  simp

theorem innerEnd_inj : innerEnd s = innerEnd t ↔ s = t := by
  simp

theorem innerLoopback_inj : innerLoopback s = innerLoopback t ↔ s = t := by
  simp

/-- Whether a name begins like the host end of some sandbox. -/
def EndLike (name : String) : Prop :=
  "vh-".toList <+: name.toList

instance (name : String) : Decidable (EndLike name) :=
  inferInstanceAs (Decidable ("vh-".toList <+: name.toList))

theorem endLike_hostVeth (s : String) : EndLike ("vh-" ++ s) := by
  rw [EndLike, String.toList_append]
  exact List.prefix_append _ _

theorem NameRule.fault?_eq_none {rule : NameRule} {name : String} :
    rule.fault? name = none ↔
      name.toList ≠ [] ∧ name.toList.length ≤ rule.limit ∧
        (∀ c ∈ name.toList, rule.allowed c = true) ∧ rule.further name.toList = none := by
  simp only [NameRule.fault?, List.isEmpty_iff]
  by_cases he : name.toList = []
  · simp [he]
  · by_cases hl : rule.limit < name.toList.length
    · simp [he, hl, Nat.not_le.mpr hl]
    · cases hf : name.toList.find? fun c => !rule.allowed c with
      | some c =>
        have hc := List.find?_some hf
        have hm := List.mem_of_find?_eq_some hf
        simp only [he, hl, if_false, reduceCtorEq, ne_eq, not_false_eq_true, true_and, false_iff,
          not_and]
        intro _ hall
        simp [hall c hm] at hc
      | none =>
        have hall := List.find?_eq_none.mp hf
        simp only [Bool.not_eq_eq_eq_not, Bool.not_true, Bool.not_eq_false] at hall
        simp only [he, hl, Nat.not_lt.mp hl, if_false, ne_eq, not_false_eq_true, true_and]
        exact ⟨fun hfu => ⟨hall, hfu⟩, And.right⟩

theorem NameRule.check_eq_ok {rule : NameRule} {name : String} :
    rule.check name = .ok () ↔ rule.fault? name = none := by
  simp only [NameRule.check]
  cases rule.fault? name <;> simp

theorem NameRule.accepts_iff {rule : NameRule} {name : String} :
    rule.accepts name = true ↔ rule.check name = .ok () := by
  rw [check_eq_ok, accepts, Option.isNone_iff_eq_none]

theorem forSandbox_eq_ok {names : WireNames} : WireNames.forSandbox s = .ok names ↔
    NameRule.sandbox.check s = .ok () ∧ names = .of s := by
  simp only [WireNames.forSandbox]
  cases NameRule.sandbox.check s with
  | ok u => simp [bind, Except.bind, pure, Except.pure, eq_comm]
  | error e => simp [bind, Except.bind]

theorem forSandbox_eq_error {e : NetError} : WireNames.forSandbox s = .error e ↔
    NameRule.sandbox.check s = .error e := by
  simp only [WireNames.forSandbox]
  cases NameRule.sandbox.check s with
  | ok u => simp [bind, Except.bind, pure, Except.pure]
  | error e => simp [bind, Except.bind]

/-- A prefix of characters that another rule allows, within the room that the rule leaves. -/
theorem check_prefixed {rule : NameRule} {lead : String} (hs : NameRule.sandbox.check s = .ok ())
    (room : lead.length + 11 ≤ rule.limit) (hlead : lead.toList.all rule.allowed = true)
    (hrule : ∀ c, NameRule.sandbox.allowed c = true → rule.allowed c = true)
    (hfurther : rule.further (lead ++ s).toList = none) : rule.check (lead ++ s) = .ok () := by
  obtain ⟨hne, hlen, hall, _⟩ := NameRule.fault?_eq_none.mp (NameRule.check_eq_ok.mp hs)
  refine NameRule.check_eq_ok.mpr (NameRule.fault?_eq_none.mpr ⟨?_, ?_, ?_, hfurther⟩)
  · simp [hne]
  · have : s.toList.length ≤ 11 := hlen
    simp only [String.toList_append, List.length_append, String.length_toList] at this ⊢
    omega
  · intro c hc
    rw [String.toList_append, List.mem_append] at hc
    rcases hc with hc | hc
    · exact List.all_eq_true.mp hlead c hc
    · exact hrule c (hall c hc)

/-- Ends and namespaces may have every character of a sandbox name. -/
theorem allowed_of_sandbox {c : Char} (hc : NameRule.sandbox.allowed c = true) :
    (isLetterOrDigit c || c == '.' || c == '_' || c == '-') = true := by
  simp only [NameRule.sandbox, Bool.or_eq_true] at hc ⊢
  rcases hc with (hc | hc) | hc
  · exact Or.inl (Or.inl (Or.inl hc))
  · exact Or.inl (Or.inl (Or.inr hc))
  · exact Or.inr hc

theorem check_hostVeth (hs : NameRule.sandbox.check s = .ok ()) :
    NameRule.veth.check ("vh-" ++ s) = .ok () := by
  apply check_prefixed hs
  · decide
  · decide
  · intro c hc
    exact allowed_of_sandbox hc
  · rfl

theorem check_looseEnd : NameRule.veth.check "host0" = .ok () := rfl

theorem check_netns (hs : NameRule.sandbox.check s = .ok ()) :
    NameRule.netns.check ("corral-" ++ s) = .ok () := by
  apply check_prefixed hs
  · decide
  · decide
  · intro c hc
    exact allowed_of_sandbox hc
  · simp [NameRule.netns]

end SandboxNet
