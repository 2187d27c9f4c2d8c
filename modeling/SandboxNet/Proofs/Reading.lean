import SandboxNet.Text

/-! Reading a text: what its pieces are when it is cut at separators, and which texts are read as
which numbers. -/
namespace SandboxNet.Text

variable {sep c : Char} {cs part before after : List Char} {n : Nat}

theorem splitOn_eq (sep : Char) (cs : List Char) : splitOn sep cs = cs.splitOn sep := by
  induction cs with
  | nil => rfl
  | cons c rest ih =>
    rw [splitOn, List.splitOn_cons_eq_if_modifyHead, ih]
    simp only [beq_iff_eq]
    obtain ⟨piece, pieces, hrest⟩ := List.exists_cons_of_ne_nil (List.splitOn_ne_nil sep rest)
    rw [hrest]
    rfl

theorem cutAt_append (hb : sep ∉ before) (after : List Char) :
    cutAt sep (before ++ sep :: after) = some (before, after) := by
  induction before with
  | nil => simp [cutAt]
  | cons c before ih =>
    obtain ⟨hc, hb⟩ := not_or.mp (mt List.mem_cons.mpr hb)
    simp [cutAt, Ne.symm hc, ih hb]

theorem cutAt_eq_some :
    cutAt sep cs = some (before, after) ↔ cs = before ++ sep :: after ∧ sep ∉ before := by
  constructor
  · intro hcut
    fun_induction cutAt sep cs generalizing before with
    | case1 => cases hcut
    | case2 rest =>
      cases hcut
      exact ⟨rfl, List.not_mem_nil⟩
    | case3 c rest hc ih =>
      obtain ⟨⟨b, a⟩, hrest, he⟩ := Option.map_eq_some_iff.mp hcut
      cases he
      obtain ⟨rfl, hb⟩ := ih hrest
      exact ⟨rfl, by simp [Ne.symm hc, hb]⟩
  · rintro ⟨rfl, hb⟩
    exact cutAt_append hb after

theorem cutAtDouble_cons_ne (hc : c ≠ sep) (cs : List Char) : cutAtDouble sep (c :: cs) =
    (cutAtDouble sep cs).map fun (before, after) => (c :: before, after) := by
  cases cs with
  | nil => rfl
  | cons d rest => simp [cutAtDouble, hc]

theorem cutAtDouble_append (hp : sep ∉ part) (cs : List Char) : cutAtDouble sep (part ++ cs) =
    (cutAtDouble sep cs).map fun (before, after) => (part ++ before, after) := by
  induction part with
  | nil => simp
  | cons c part ih =>
    obtain ⟨hc, hp⟩ := not_or.mp (mt List.mem_cons.mpr hp)
    rw [List.cons_append, cutAtDouble_cons_ne (Ne.symm hc), ih hp, Option.map_map]
    rfl

theorem eq_of_cutAtDouble (hcut : cutAtDouble sep cs = some (before, after)) :
    cs = before ++ sep :: sep :: after := by
  fun_induction cutAtDouble sep cs generalizing before with
  | case1 c d rest hboth =>
    cases hcut
    simp [hboth]
  | case2 c d rest _ ih =>
    obtain ⟨⟨b, a⟩, hb, he⟩ := Option.map_eq_some_iff.mp hcut
    cases he
    rw [ih hb]
    rfl
  | case3 => cases hcut

theorem digit?_eq (c : Char) :
    digit? c = if c.isDigit then some (c.toNat - '0'.toNat) else none := by
  have hdigit : ('0' ≤ c ∧ c ≤ '9') ↔ c.isDigit = true := by
    simp only [Char.isDigit, Bool.and_eq_true, decide_eq_true_eq]
    rfl
  simp only [digit?, hdigit]

/-- Reading goes on as long as there are digits, and fails at anything else. -/
theorem digitsFrom_eq_some {acc : Nat} : digitsFrom acc cs = some n ↔
    (∀ c ∈ cs, c.isDigit = true) ∧ Nat.ofDigitChars 10 cs acc = n := by
  induction cs generalizing acc with
  | nil => simp [digitsFrom]
  | cons c rest ih =>
    rw [digitsFrom, digit?_eq, Nat.ofDigitChars_cons, List.forall_mem_cons]
    by_cases hc : c.isDigit = true
    · simp [hc, ih]
    · simp [hc]

theorem digits?_eq_some : digits? cs = some n ↔
    cs ≠ [] ∧ (∀ c ∈ cs, c.isDigit = true) ∧ Nat.ofDigitChars 10 cs 0 = n := by
  simp only [digits?, List.isEmpty_iff]
  by_cases he : cs = []
  · simp [he]
  · simp [he, digitsFrom_eq_some]

/-- One or more decimal digits, leading zeros included, after an optional plus sign. -/
def Numeral (n : Nat) (cs : List Char) : Prop :=
  ∃ digits, (cs = digits ∨ cs = '+' :: digits) ∧ digits ≠ [] ∧
    (∀ c ∈ digits, c.isDigit = true) ∧ Nat.ofDigitChars 10 digits 0 = n

theorem readNat_eq_some {max : Nat} : readNat max cs = some n ↔ Numeral n cs ∧ n ≤ max := by
  have hplus : ∀ rest : List Char, ¬ ∀ c ∈ '+' :: rest, c.isDigit = true := by
    intro rest hall
    exact absurd (hall '+' List.mem_cons_self) (by decide)
  simp only [readNat, Option.filter_eq_some_iff, decide_eq_true_eq, digits?_eq_some, Numeral]
  refine and_congr_left fun _ => ⟨fun hdigits => ?_, ?_⟩
  · refine ⟨_, ?_, hdigits⟩
    split
    · exact Or.inr rfl
    · exact Or.inl rfl
  · -- the sign is no digit, so only one way of cutting it off leaves digits
    rintro ⟨digits, rfl | rfl, hne, hall, hn⟩
    · split
      · exact absurd hall (hplus _)
      · exact ⟨hne, hall, hn⟩
    · exact ⟨hne, hall, hn⟩

theorem digit_lt (hc : c.isDigit = true) : c.toNat - '0'.toNat < 10 := by
  have hrange : '0'.toNat ≤ c.toNat ∧ c.toNat ≤ '0'.toNat + 9 := Char.isDigit_iff_toNat.mp hc
  omega

theorem toDigits_digit (hc : c.isDigit = true) : Nat.toDigits 10 (c.toNat - '0'.toNat) = [c] := by
  have hrange : 48 ≤ c.toNat ∧ c.toNat ≤ 57 := Char.isDigit_iff_toNat.mp hc
  rw [Nat.toDigits_of_lt_base (digit_lt hc)]
  refine congrArg (fun d => [d]) (Char.toNat_inj.mp ?_)
  rw [Nat.toNat_digitChar_of_lt_ten (digit_lt hc)]
  change 48 + (c.toNat - 48) = c.toNat
  omega

/-- Digits after a number that is not zero continue its decimal text. -/
theorem toDigits_ofDigitChars {acc : Nat} (hpos : 0 < acc) (hall : ∀ c ∈ cs, c.isDigit = true) :
    Nat.toDigits 10 (Nat.ofDigitChars 10 cs acc) = Nat.toDigits 10 acc ++ cs := by
  induction cs generalizing acc with
  | nil => simp
  | cons c rest ih =>
    obtain ⟨hc, hall⟩ := List.forall_mem_cons.mp hall
    rw [Nat.ofDigitChars_cons, ih (by omega) hall,
      ← Nat.toDigits_append_toDigits (by decide) hpos (digit_lt hc), toDigits_digit hc,
      List.append_assoc]
    rfl

end SandboxNet.Text
