import SandboxNet.Address
import SandboxNet.Proofs.Reading

/-! The texts that are addresses. They are described by what they are made of, and the check accepts
just these: nothing may stand before, between or after the parts. -/
namespace SandboxNet.Address

variable {cs part before after : List Char} {n : Nat}

/-- A decimal number from 0 to 255 without leading zeros. -/
def OctetText (cs : List Char) : Prop :=
  ∃ n ≤ 255, cs = Nat.toDigits 10 n

def QuadText (cs : List Char) : Prop :=
  ∃ a b c d, OctetText a ∧ OctetText b ∧ OctetText c ∧ OctetText d ∧
    cs = ['.'].intercalate [a, b, c, d]

def IsHexDigit (c : Char) : Prop :=
  ('0' ≤ c ∧ c ≤ '9') ∨ ('a' ≤ c ∧ c ≤ 'f') ∨ ('A' ≤ c ∧ c ≤ 'F')

instance : DecidablePred IsHexDigit := fun c =>
  inferInstanceAs (Decidable (('0' ≤ c ∧ c ≤ '9') ∨ ('a' ≤ c ∧ c ≤ 'f') ∨ ('A' ≤ c ∧ c ≤ 'F')))

def GroupText (cs : List Char) : Prop :=
  1 ≤ cs.length ∧ cs.length ≤ 4 ∧ ∀ c ∈ cs, IsHexDigit c

/-- So many groups, joined by single colons. With `quad`, the last two may be a dotted quad. -/
inductive GroupsText (quad : Bool) : Nat → List Char → Prop where
  | group {g : List Char} (hg : GroupText g) : GroupsText quad 1 g
  | dotted {q : List Char} (allowed : quad = true) (hq : QuadText q) : GroupsText quad 2 q
  | cons {n : Nat} {g rest : List Char} (hg : GroupText g) (hrest : GroupsText quad n rest) :
      GroupsText quad (n + 1) (g ++ ':' :: rest)

/-- The groups at one side of a double colon, where there may be none. -/
inductive SideText (quad : Bool) : Nat → List Char → Prop where
  | empty : SideText quad 0 []
  | groups {n : Nat} {cs : List Char} (hg : GroupsText quad n cs) : SideText quad n cs

/-- Eight groups, or fewer with a double colon for the others. -/
inductive Ipv6Text : List Char → Prop where
  | full {cs : List Char} (hg : GroupsText true 8 cs) : Ipv6Text cs
  | elided {m n : Nat} {before after : List Char} (hb : SideText false m before)
      (ha : SideText true n after) (room : m + n ≤ 7) : Ipv6Text (before ++ ':' :: ':' :: after)

/-- An IP address, a slash and a prefix length that the family of the address has. -/
def AddressText (cs : List Char) : Prop :=
  ∃ left right length, cs = left ++ '/' :: right ∧ '/' ∉ left ∧ Text.Numeral length right ∧
    (QuadText left ∧ length ≤ 32 ∨ Ipv6Text left ∧ length ≤ 128)

section Quad

theorem octet?_eq_some : octet? cs = some n ↔ n ≤ 255 ∧ cs = Nat.toDigits 10 n := by
  constructor
  · intro hoctet
    simp only [octet?, Option.ite_none_right_eq_some, Option.filter_eq_some_iff,
      decide_eq_true_eq, Text.digits?_eq_some] at hoctet
    obtain ⟨⟨_, hzero⟩, ⟨hne, hall, rfl⟩, hmax⟩ := hoctet
    refine ⟨hmax, ?_⟩
    obtain ⟨c, rest, rfl⟩ := List.exists_cons_of_ne_nil hne
    obtain ⟨hc, hall⟩ := List.forall_mem_cons.mp hall
    by_cases h0 : c = '0'
    · -- a zero in front stands alone
      have hrest : rest = [] := by simpa [h0] using hzero
      simp [h0, hrest, Nat.ofDigitChars_cons]
    · have hpos : 0 < 10 * 0 + (c.toNat - '0'.toNat) := by
        have hrange : 48 ≤ c.toNat ∧ c.toNat ≤ 57 := Char.isDigit_iff_toNat.mp hc
        have hne0 : c.toNat ≠ 48 := fun he => h0 (Char.toNat_inj.mp he)
        change 0 < 10 * 0 + (c.toNat - 48)
        omega
      rw [Nat.ofDigitChars_cons, Text.toDigits_ofDigitChars hpos hall, Nat.mul_zero,
        Nat.zero_add, Text.toDigits_digit hc]
      rfl
  · rintro ⟨hmax, rfl⟩
    have hall : ∀ n < 256, octet? (Nat.toDigits 10 n) = some n := by decide +kernel
    exact hall n (Nat.lt_succ_of_le hmax)

theorem octetText_iff : OctetText cs ↔ ∃ n, octet? cs = some n := by
  simp only [OctetText, octet?_eq_some]

theorem no_dot (ho : octet? cs = some n) : '.' ∉ cs := by
  obtain ⟨_, rfl⟩ := octet?_eq_some.mp ho
  intro hdot
  exact absurd (Nat.isDigit_of_mem_toDigits (by decide) (by decide) hdot) (by decide)

theorem quad?_eq_some {octets : List Nat} : quad? cs = some octets ↔
    ∃ a b c d w x y z, octet? a = some w ∧ octet? b = some x ∧ octet? c = some y ∧
      octet? d = some z ∧ cs = ['.'].intercalate [a, b, c, d] ∧ octets = [w, x, y, z] := by
  constructor
  · intro hquad
    rw [quad?, Text.splitOn_eq] at hquad
    split at hquad
    · rename_i a b c d hsplit
      simp only [List.mapM_cons, List.mapM_nil, Option.bind_eq_bind, Option.bind_eq_some_iff,
        Option.pure_def, Option.some.injEq, exists_eq_left'] at hquad
      obtain ⟨w, ha, _, ⟨x, hb, _, ⟨y, hc, _, ⟨z, hd, rfl⟩, rfl⟩, rfl⟩, rfl⟩ := hquad
      refine ⟨a, b, c, d, w, x, y, z, ha, hb, hc, hd, ?_, rfl⟩
      rw [← hsplit, List.intercalate_splitOn]
    · cases hquad
  · rintro ⟨a, b, c, d, w, x, y, z, ha, hb, hc, hd, rfl, rfl⟩
    have hpieces : ∀ piece ∈ [a, b, c, d], '.' ∉ piece := by
      simp only [List.forall_mem_cons]
      exact ⟨no_dot ha, no_dot hb, no_dot hc, no_dot hd, by simp⟩
    rw [quad?, Text.splitOn_eq, List.splitOn_intercalate '.' hpieces (by simp)]
    simp [ha, hb, hc, hd]

theorem quadText_iff : QuadText cs ↔ ∃ octets, quad? cs = some octets := by
  simp only [QuadText, octetText_iff, quad?_eq_some]
  constructor
  · rintro ⟨a, b, c, d, ⟨w, ha⟩, ⟨x, hb⟩, ⟨y, hc⟩, ⟨z, hd⟩, he⟩
    exact ⟨_, a, b, c, d, w, x, y, z, ha, hb, hc, hd, he, rfl⟩
  · rintro ⟨_, a, b, c, d, w, x, y, z, ha, hb, hc, hd, he, _⟩
    exact ⟨a, b, c, d, ⟨w, ha⟩, ⟨x, hb⟩, ⟨y, hc⟩, ⟨z, hd⟩, he⟩

theorem QuadText.no_colon (hq : QuadText cs) : ':' ∉ cs := by
  obtain ⟨_, _, _, _, ⟨a, _, rfl⟩, ⟨b, _, rfl⟩, ⟨c, _, rfl⟩, ⟨d, _, rfl⟩, rfl⟩ := hq
  have hdigits : ∀ n, ':' ∉ Nat.toDigits 10 n := fun n hcolon =>
    absurd (Nat.isDigit_of_mem_toDigits (by decide) (by decide) hcolon) (by decide)
  simp [hdigits]

theorem QuadText.dot (hq : QuadText cs) : '.' ∈ cs := by
  obtain ⟨a, b, c, d, _, _, _, _, rfl⟩ := hq
  simp

end Quad

section Groups

theorem isHexDigit_iff {c : Char} : IsHexDigit c ↔ ∃ d, hexDigit? c = some d := by
  simp only [IsHexDigit, hexDigit?]
  split
  · simp [*]
  split
  · simp [*]
  split
  · simp [*]
  · simp [*]

theorem hexFrom_iff {acc : Nat} :
    (∃ v, hexFrom acc cs = some v) ↔ ∀ c ∈ cs, IsHexDigit c := by
  induction cs generalizing acc with
  | nil => simp [hexFrom]
  | cons c rest ih =>
    rw [List.forall_mem_cons, isHexDigit_iff]
    simp only [hexFrom, Option.bind_eq_some_iff]
    constructor
    · rintro ⟨v, d, hd, hv⟩
      exact ⟨⟨d, hd⟩, ih.mp ⟨v, hv⟩⟩
    · rintro ⟨⟨d, hd⟩, hrest⟩
      obtain ⟨v, hv⟩ := ih.mpr hrest
      exact ⟨v, d, hd, hv⟩

theorem groupText_iff : GroupText cs ↔ ∃ g, group? cs = some g := by
  have hempty : 1 ≤ cs.length ↔ cs.isEmpty ≠ true := by
    cases cs <;> simp
  simp only [GroupText, group?, Option.ite_none_left_eq_some, not_or, Nat.not_lt,
    exists_and_left, hexFrom_iff, hempty, and_assoc, ne_eq]

theorem GroupText.not_mem {g : List Char} {c : Char} (hg : GroupText g) (hc : ¬ IsHexDigit c) :
    c ∉ g :=
  fun hmem => hc (hg.2.2 c hmem)

theorem GroupText.no_colon {g : List Char} (hg : GroupText g) : ':' ∉ g :=
  hg.not_mem (by decide)

theorem GroupText.not_quadText (hg : GroupText cs) : ¬ QuadText cs :=
  fun hq => hg.not_mem (by decide) hq.dot

/-- No group is empty, so no colon follows another before the next group. -/
theorem GroupsText.head {quad : Bool} (hg : GroupsText quad n cs) :
    ∃ c rest, cs = c :: rest ∧ c ≠ ':' := by
  have hfirst : ∀ {part : List Char}, part ≠ [] → ':' ∉ part → ∀ more,
      ∃ c rest, part ++ more = c :: rest ∧ c ≠ ':' := by
    intro part hne hcolon more
    obtain ⟨c, rest, rfl⟩ := List.exists_cons_of_ne_nil hne
    refine ⟨c, rest ++ more, rfl, ?_⟩
    rintro rfl
    exact hcolon List.mem_cons_self
  cases hg with
  | group hg =>
    simpa using hfirst (List.ne_nil_of_length_pos hg.1) hg.no_colon []
  | dotted _ hq =>
    simpa using hfirst (List.ne_nil_of_mem hq.dot) hq.no_colon []
  | cons hg _ => exact hfirst (List.ne_nil_of_length_pos hg.1) hg.no_colon _

/-- A reader of pieces takes each for a group; with `quad`, it takes a dotted quad at the end for
two. -/
structure ReadsGroups (quad : Bool) (read : List (List Char) → Option (List Nat)) : Prop where
  nil : read [] = some []
  last : ∀ piece n, (∃ gs, read [piece] = some gs ∧ gs.length = n) ↔
    n = 1 ∧ GroupText piece ∨ n = 2 ∧ quad = true ∧ QuadText piece
  cons : ∀ piece next rest, read (piece :: next :: rest) =
    (group? piece).bind fun g => (read (next :: rest)).map (g :: ·)

theorem readsGroups_head : ReadsGroups false headGroups? where
  nil := rfl
  last piece n := by
    rw [groupText_iff]
    simp only [headGroups?, List.mapM_cons, List.mapM_nil, Option.bind_eq_bind,
      Option.bind_eq_some_iff, Option.pure_def, Option.some.injEq, exists_eq_left',
      Bool.false_eq_true, false_and, and_false, or_false]
    constructor
    · rintro ⟨_, ⟨g, hg, rfl⟩, rfl⟩
      exact ⟨rfl, g, hg⟩
    · rintro ⟨rfl, g, hg⟩
      exact ⟨[g], ⟨g, hg, rfl⟩, rfl⟩
  cons piece next rest := by
    rw [headGroups?, List.mapM_cons]
    cases group? piece with
    | none => rfl
    | some g =>
      change (headGroups? (next :: rest)).bind _ = _
      cases headGroups? (next :: rest) <;> rfl

theorem readsGroups_tail : ReadsGroups true tailGroups? where
  nil := rfl
  last piece n := by
    cases hquad : quad? piece with
    | some octets =>
      have hq : QuadText piece := quadText_iff.mpr ⟨octets, hquad⟩
      obtain ⟨_, _, _, _, w, x, y, z, _, _, _, _, _, rfl⟩ := quad?_eq_some.mp hquad
      have hg : ¬ GroupText piece := fun hg => hg.not_quadText hq
      simp [tailGroups?, hquad, hq, hg, eq_comm]
    | none =>
      have hq : ¬ QuadText piece := by simp [quadText_iff, hquad]
      simp only [tailGroups?, hquad, Option.map_eq_some_iff, hq, and_false, or_false,
        groupText_iff]
      constructor
      · rintro ⟨_, ⟨g, hg, rfl⟩, rfl⟩
        exact ⟨rfl, g, hg⟩
      · rintro ⟨rfl, g, hg⟩
        exact ⟨[g], ⟨g, hg, rfl⟩, rfl⟩
  cons piece next rest := rfl

namespace ReadsGroups

variable {quad : Bool} {read : List (List Char) → Option (List Nat)} {gs : List Nat}

theorem cons_eq_some (hr : ReadsGroups quad read) {piece : List Char} {rest : List (List Char)}
    (hne : rest ≠ []) : read (piece :: rest) = some gs ↔
      ∃ g more, group? piece = some g ∧ read rest = some more ∧ gs = g :: more := by
  obtain ⟨next, rest, rfl⟩ := List.exists_cons_of_ne_nil hne
  simp only [hr.cons, Option.bind_eq_some_iff, Option.map_eq_some_iff]
  constructor
  · rintro ⟨g, hg, more, hmore, rfl⟩
    exact ⟨g, more, hg, hmore, rfl⟩
  · rintro ⟨g, more, hg, hmore, rfl⟩
    exact ⟨g, hg, more, hmore, rfl⟩

/-- What is read was joined by colons. -/
theorem sound (hr : ReadsGroups quad read) {pieces : List (List Char)} (hne : pieces ≠ [])
    (hread : read pieces = some gs) : GroupsText quad gs.length ([':'].intercalate pieces) := by
  induction pieces generalizing gs with
  | nil => exact absurd rfl hne
  | cons piece rest ih =>
    by_cases hrest : rest = []
    · subst hrest
      rw [List.intercalate_singleton]
      rcases (hr.last piece gs.length).mp ⟨gs, hread, rfl⟩ with ⟨hone, hg⟩ | ⟨htwo, hquad, hq⟩
      · rw [hone]
        exact .group hg
      · rw [htwo]
        exact .dotted hquad hq
    · obtain ⟨g, more, hg, hmore, rfl⟩ := (hr.cons_eq_some hrest).mp hread
      rw [List.intercalate_cons_of_ne_nil hrest, List.append_assoc]
      exact .cons (groupText_iff.mpr ⟨g, hg⟩) (ih hrest hmore)

theorem complete (hr : ReadsGroups quad read) (hg : GroupsText quad n cs) :
    ∃ gs, read (Text.splitOn ':' cs) = some gs ∧ gs.length = n := by
  rw [Text.splitOn_eq]
  induction hg with
  | group hg =>
    rw [List.splitOn_eq_singleton hg.no_colon]
    exact (hr.last _ _).mpr (Or.inl ⟨rfl, hg⟩)
  | dotted hquad hq =>
    rw [List.splitOn_eq_singleton hq.no_colon]
    exact (hr.last _ _).mpr (Or.inr ⟨rfl, hquad, hq⟩)
  | cons hg _ ih =>
    obtain ⟨g, hg'⟩ := groupText_iff.mp hg
    obtain ⟨more, hmore, rfl⟩ := ih
    rw [List.splitOn_append_cons_self_of_not_mem hg.no_colon]
    exact ⟨g :: more, (hr.cons_eq_some (List.splitOn_ne_nil _ _)).mpr ⟨g, more, hg', hmore, rfl⟩,
      rfl⟩

theorem side_iff (hr : ReadsGroups quad read) :
    (∃ gs, read (pieces cs) = some gs ∧ gs.length = n) ↔ SideText quad n cs := by
  constructor
  · rintro ⟨gs, hread, rfl⟩
    rw [pieces] at hread
    split at hread
    · rename_i he
      rw [List.isEmpty_iff.mp he]
      rw [hr.nil] at hread
      cases hread
      exact .empty
    · rw [Text.splitOn_eq] at hread
      have hg := hr.sound (List.splitOn_ne_nil ':' cs) hread
      rw [List.intercalate_splitOn] at hg
      exact .groups hg
  · rintro (_ | hg)
    · exact ⟨[], hr.nil, rfl⟩
    · obtain ⟨c, rest, rfl, _⟩ := hg.head
      exact hr.complete hg

end ReadsGroups

end Groups

section Ipv6

variable {quad : Bool}

/-- No two colons stand together in a run of groups or at its end. -/
theorem GroupsText.cutAtDouble (hg : GroupsText quad n cs) (more : List Char) :
    Text.cutAtDouble ':' (cs ++ more) =
      (Text.cutAtDouble ':' more).map fun (before, after) => (cs ++ before, after) := by
  induction hg with
  | group hg => exact Text.cutAtDouble_append hg.no_colon more
  | dotted _ hq => exact Text.cutAtDouble_append hq.no_colon more
  | @cons n g rest hg hrest ih =>
    have hcolon : Text.cutAtDouble ':' (':' :: (rest ++ more)) = (Text.cutAtDouble ':'
        (rest ++ more)).map fun (before, after) => (':' :: before, after) := by
      obtain ⟨c, rest, rfl, hc⟩ := hrest.head
      simp [Text.cutAtDouble, hc]
    rw [List.append_assoc, Text.cutAtDouble_append hg.no_colon, List.cons_append, hcolon, ih,
      Option.map_map, Option.map_map]
    simp [Function.comp_def]

theorem GroupsText.not_double (hg : GroupsText quad n cs) : Text.cutAtDouble ':' cs = none := by
  simpa [Text.cutAtDouble] using hg.cutAtDouble []

theorem SideText.cutAtDouble (hs : SideText quad n before) (after : List Char) :
    Text.cutAtDouble ':' (before ++ ':' :: ':' :: after) = some (before, after) := by
  cases hs with
  | empty => simp [Text.cutAtDouble]
  | groups hg =>
    rw [hg.cutAtDouble]
    simp [Text.cutAtDouble]

theorem groups?_iff : (∃ gs, groups? cs = some gs) ↔ Ipv6Text cs := by
  constructor
  · rintro ⟨gs, hgroups⟩
    rw [groups?] at hgroups
    split at hgroups
    · obtain ⟨hread, hlength⟩ := Option.filter_eq_some_iff.mp hgroups
      have hside := readsGroups_tail.side_iff.mp ⟨gs, hread, of_decide_eq_true hlength⟩
      cases hside with
      | groups hg => exact .full hg
    · rename_i before after hcut
      simp only [Option.bind_eq_bind, Option.bind_eq_some_iff] at hgroups
      obtain ⟨front, hfront, back, hback, hroom⟩ := hgroups
      rw [Text.eq_of_cutAtDouble hcut]
      exact .elided (readsGroups_head.side_iff.mp ⟨front, hfront, rfl⟩)
        (readsGroups_tail.side_iff.mp ⟨back, hback, rfl⟩) (Option.ite_none_right_eq_some.mp hroom).1
  · intro htext
    cases htext with
    | full hg =>
      obtain ⟨gs, hread, hlength⟩ := readsGroups_tail.side_iff.mpr (.groups hg)
      refine ⟨gs, ?_⟩
      simp [groups?, hg.not_double, hread, hlength, Option.filter]
    | elided hb ha room =>
      obtain ⟨front, hfront, rfl⟩ := readsGroups_head.side_iff.mpr hb
      obtain ⟨back, hback, rfl⟩ := readsGroups_tail.side_iff.mpr ha
      refine ⟨front ++ List.replicate (8 - front.length - back.length) 0 ++ back, ?_⟩
      rw [groups?, hb.cutAtDouble]
      simp [hfront, hback, room]

theorem Ipv6Text.colon (ht : Ipv6Text cs) : ':' ∈ cs := by
  cases ht with
  | full hg =>
    cases hg with
    | cons => simp
  | elided => simp

end Ipv6

/-- The family that a text is of decides how long a prefix may be. -/
theorem ip?_width {width : Nat} : (∃ ip, ip? cs = some ip ∧ ip.width = width) ↔
    QuadText cs ∧ width = 32 ∨ Ipv6Text cs ∧ width = 128 := by
  cases hquad : quad? cs with
  | some octets =>
    have hq : QuadText cs := quadText_iff.mpr ⟨octets, hquad⟩
    have hsix : ¬ Ipv6Text cs := fun ht => hq.no_colon ht.colon
    simp [ip?, hquad, hq, hsix, IpAddress.width, eq_comm]
  | none =>
    have hq : ¬ QuadText cs := by simp [quadText_iff, hquad]
    rw [← groups?_iff]
    simp only [ip?, hquad, Option.map_eq_some_iff, hq, false_and, false_or]
    constructor
    · rintro ⟨_, ⟨gs, hgs, rfl⟩, rfl⟩
      exact ⟨⟨gs, hgs⟩, rfl⟩
    · rintro ⟨⟨gs, hgs⟩, rfl⟩
      exact ⟨.v6 gs, ⟨gs, hgs, rfl⟩, rfl⟩

theorem parse?_eq_some {text : String} {x : Address} : parse? text = some x ↔
    ∃ left right, text.toList = left ++ '/' :: right ∧ '/' ∉ left ∧ ip? left = some x.ip ∧
      Text.Numeral x.length right ∧ x.length ≤ x.ip.width := by
  have hwidth : ∀ ip : IpAddress, ip.width ≤ 255 := by
    rintro (_ | _) <;> simp [IpAddress.width]
  simp only [parse?, Option.bind_eq_bind, Option.bind_eq_some_iff, Prod.exists,
    Text.cutAt_eq_some, Text.readNat_eq_some, Option.ite_none_right_eq_some, Option.some.injEq]
  constructor
  · rintro ⟨left, right, ⟨he, hleft⟩, ip, hip, length, ⟨hright, _⟩, hlength, rfl⟩
    exact ⟨left, right, he, hleft, hip, hright, hlength⟩
  · rintro ⟨left, right, he, hleft, hip, hright, hlength⟩
    exact ⟨left, right, ⟨he, hleft⟩, x.ip, hip, x.length,
      ⟨hright, Nat.le_trans hlength (hwidth x.ip)⟩, hlength, rfl⟩

theorem parse?_iff (text : String) : (∃ x, parse? text = some x) ↔ AddressText text.toList := by
  simp only [parse?_eq_some, AddressText]
  constructor
  · rintro ⟨x, left, right, he, hleft, hip, hright, hlength⟩
    refine ⟨left, right, x.length, he, hleft, hright, ?_⟩
    rcases ip?_width.mp ⟨x.ip, hip, rfl⟩ with ⟨hq, hw⟩ | ⟨ht, hw⟩
    · exact Or.inl ⟨hq, hw ▸ hlength⟩
    · exact Or.inr ⟨ht, hw ▸ hlength⟩
  · rintro ⟨left, right, length, he, hleft, hright, ⟨hq, hlength⟩ | ⟨ht, hlength⟩⟩
    · obtain ⟨ip, hip, hw⟩ := ip?_width.mpr (Or.inl ⟨hq, rfl⟩)
      exact ⟨⟨ip, length⟩, left, right, he, hleft, hip, hright, hw ▸ hlength⟩
    · obtain ⟨ip, hip, hw⟩ := ip?_width.mpr (Or.inr ⟨ht, rfl⟩)
      exact ⟨⟨ip, length⟩, left, right, he, hleft, hip, hright, hw ▸ hlength⟩

/-- A text passes the check just if it is an address, and is named in the error otherwise. -/
theorem accepted_iff_written (text : String) :
    (check text = .ok () ↔ AddressText text.toList) ∧
      (check text = .ok () ∨ check text = .error (.invalidAddress text)) := by
  rw [← parse?_iff, check]
  cases parse? text <;> simp

end SandboxNet.Address
