import Mathlib.Algebra.Order.BigOperators.Group.List
import Mathlib.Algebra.Order.Ring.Nat
import SandboxNet.Proofs.AddressGrammar
import SandboxNet.Proofs.BridgeAddresses

/-! Several texts of one address. A bridge knows its addresses by their texts, so an address that it
has is added again when it is spelt otherwise, and every address can be spelt otherwise. -/
namespace SandboxNet

variable {bridge a a' : String} {x : Address} {h h₁ : Host} {l : Link}

/-- Zeros in front do not change a number. -/
theorem Text.numeral_padded (zeros n : Nat) :
    Numeral n (List.replicate zeros '0' ++ Nat.toDigits 10 n) := by
  refine ⟨_, Or.inl rfl, by simp, ?_, ?_⟩
  · intro c hc
    rcases List.mem_append.mp hc with hc | hc
    · rw [List.eq_of_mem_replicate hc]
      rfl
    · exact Nat.isDigit_of_mem_toDigits (by decide) (by decide) hc
  · rw [Nat.ofDigitChars_append, Nat.ofDigitChars_replicate_zero, Nat.mul_zero,
      Nat.ofDigitChars_toDigits (by decide) (by decide)]

/-- No finite number of texts are all the spellings of an address. -/
theorem Address.exists_spelling (ha : parse? a = some x) (texts : List String) :
    ∃ other, parse? other = some x ∧ other ∉ texts := by
  obtain ⟨left, right, _, hleft, hip, _, hlength⟩ := parse?_eq_some.mp ha
  -- with enough zeros the text is longer than all the others together
  let zeros := (texts.map String.length).sum
  let cs := left ++ '/' :: (List.replicate zeros '0' ++ Nat.toDigits 10 x.length)
  refine ⟨String.ofList cs, parse?_eq_some.mpr ⟨left, _, String.toList_ofList, hleft, hip,
    Text.numeral_padded zeros x.length, hlength⟩, fun hmem => ?_⟩
  have hle : (String.ofList cs).length ≤ zeros :=
    List.le_sum_of_mem (List.mem_map_of_mem hmem)
  rw [String.length_ofList, List.length_append, List.length_cons, List.length_append,
    List.length_replicate] at hle
  omega

namespace Bridge

/-- The addresses of a bridge that are spellings of one address. -/
def entries (h : Host) (bridge : String) (x : Address) : List String :=
  (h.addressesOf bridge).filter fun text => Address.parse? text = some x

theorem verdict_of_parse (ha : Address.parse? a = some x) : verdict (some a) = .ok () := by
  rw [verdict, Option.elim_some, Address.check, ha]
  rfl

theorem name_of_created {address : Option String}
    (made : Host.run (create bridge address).run h = (.ok (), h₁)) :
    NameRule.bridge.check bridge = .ok () := by
  obtain ⟨_, _, he, _⟩ | ⟨_, hv, _⟩ := yields_check_bind.mp (Host.run_yields made)
  · cases he
  · exact hv

theorem addressesOf_eq (hl : h.links[(⟨none, bridge⟩ : LinkId)]? = some l) :
    h.addressesOf bridge = l.addresses := by
  rw [Host.addressesOf, Host.get?, hl]
  rfl

/-- To create a bridge again with its address, spelt in any way, adds the new text unless just this
text is there. So the bridge has the address twice as soon as it is spelt otherwise; and it always
can be, by a text that is not there yet. -/
theorem spelling_decides (ha : Address.parse? a = some x) (ha' : Address.parse? a' = some x)
    (made : Host.run (create bridge (some a)).run h = (.ok (), h₁)) :
    let again := Host.run (create bridge (some a')).run h₁
    let added := if a' ∈ entries h₁ bridge x then [] else [a']
    again.1 = .ok () ∧
      (Host.calls (create bridge (some a')).run h₁).filter (·.mutates) =
        added.map (.addAddress bridge) ∧
      entries again.2 bridge x = entries h₁ bridge x ++ added ∧
      a ∈ entries h₁ bridge x ∧
      ∃ other, Address.parse? other = some x ∧ other ∉ entries h₁ bridge x := by
  intro again added
  obtain ⟨l, hl, hd, hin⟩ := create_ok (Host.run_yields made)
  have hv := name_of_created made
  have hverdict := verdict_of_parse ha'
  have hb : h₁.deviceAt ⟨none, bridge⟩ = some .bridge := by
    rw [Host.deviceAt_of_some hl, hd]
  have hmem : ∀ {text}, Address.parse? text = some x →
      (text ∈ entries h₁ bridge x ↔ text ∈ l.addresses) := by
    intro text htext
    rw [entries, addressesOf_eq hl, List.mem_filter]
    simp [htext]
  have hagain : again = (.ok (), h₁.bridged bridge (·.addressed (some a'))) :=
    run_create_made hv hverdict (takesBridge_of_present hb)
  have hrow : again.2.links[(⟨none, bridge⟩ : LinkId)]? = some (l.addressed (some a')) := by
    rw [hagain, Host.bridged_self, hl]
    rfl
  have hadded : added = if a' ∈ l.addresses then [] else [a'] := by
    simp only [added, hmem ha']
  refine ⟨by rw [hagain], ?_, ?_, (hmem ha).mpr (hin a rfl), Address.exists_spelling ha _⟩
  · rw [calls_create hv hverdict hl hd, hadded]
    by_cases hold : a' ∈ l.addresses <;> simp [hold, NetCall.mutates]
  · rw [entries, addressesOf_eq hrow, entries, addressesOf_eq hl, hadded]
    by_cases hold : a' ∈ l.addresses
    · simp [hold, Link.addressed_present hold]
    · simp [hold, Link.addressed_new hold, ha']

/-- Capitals, a group of zero and a sign before the prefix length make another text. -/
theorem spelling_decides_capitals :
    let x : Address := ⟨.v6 [0xfd00, 0, 0, 0, 0, 0, 0, 1], 64⟩
    let made := Host.run (create "br0" (some "fd00::1/64")).run Host.initial
    let again := Host.run (create "br0" (some "FD00:0::1/+64")).run made.2
    Address.parse? "fd00::1/64" = some x ∧ Address.parse? "FD00:0::1/+64" = some x ∧
      made.1 = .ok () ∧ again.1 = .ok () ∧
      entries again.2 "br0" x = ["fd00::1/64", "FD00:0::1/+64"] := by
  intro x made again
  have ha : Address.parse? "fd00::1/64" = some x := by decide +kernel
  have ha' : Address.parse? "FD00:0::1/+64" = some x := by decide +kernel
  have hmade : made = (.ok (), made.2) := Prod.ext rfl rfl
  obtain ⟨hok, -, hentries, -⟩ := spelling_decides ha ha' hmade
  have hfirst : entries made.2 "br0" x = ["fd00::1/64"] := by decide +kernel
  rw [hfirst] at hentries
  exact ⟨ha, ha', rfl, hok, hentries⟩

/-- A zero before the prefix length is enough for an address to be on the bridge twice. -/
theorem zero_makes_new_entry :
    let made := Host.run (create "br0" (some "10.0.0.1/24")).run Host.initial
    let again := Host.run (create "br0" (some "10.0.0.1/024")).run made.2
    Address.parse? "10.0.0.1/024" = Address.parse? "10.0.0.1/24" ∧
      Address.check "10.0.0.1/24" = .ok () ∧ Address.check "10.0.0.1/024" = .ok () ∧
      made.1 = .ok () ∧
      .addAddress "br0" "10.0.0.1/024" ∈
        Host.calls (create "br0" (some "10.0.0.1/024")).run made.2 ∧
      again.2.addressesOf "br0" = ["10.0.0.1/24", "10.0.0.1/024"] := by
  decide +kernel

end Bridge

end SandboxNet
