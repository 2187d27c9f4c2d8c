import Mathlib.Tactic.SplitIfs

/-! The order of texts. Names are kept in the order of their characters, which is the order of their
bytes, since UTF-8 keeps it. -/
namespace SandboxNet.Text

/-- The bytes of a text. -/
def bytes (text : String) : List UInt8 :=
  text.toUTF8.data.toList

theorem bytes_eq (text : String) :
    bytes text = text.toList.flatMap String.utf8EncodeChar := by
  rw [bytes, String.toUTF8_eq_toByteArray, ← String.utf8Encode_toList]
  exact List.toList_data_toByteArray

/-- Of two lists of bytes the first is smaller if its first byte is, or if the first bytes are the
same and the rest is smaller. -/
theorem cons_lt {m n : Nat} {xs ys : List UInt8} (hm : m < 256) (hn : n < 256) (hle : m ≤ n)
    (heq : m = n → xs < ys) : UInt8.ofNat m :: xs < UInt8.ofNat n :: ys := by
  rcases Nat.lt_or_eq_of_le hle with hlt | rfl
  · refine .rel ?_
    rwa [UInt8.lt_iff_toNat_lt, UInt8.toNat_ofNat', UInt8.toNat_ofNat', Nat.mod_eq_of_lt hm,
      Nat.mod_eq_of_lt hn]
  · exact .cons (heq rfl)

/-- A smaller character has a smaller encoding, whatever comes after it. -/
theorem encode_append_lt {c d : Char} (hlt : c < d) (xs ys : List UInt8) :
    String.utf8EncodeChar c ++ xs < String.utf8EncodeChar d ++ ys := by
  have hcode : c.val.toNat < d.val.toNat := hlt
  have hmax : d.val.toNat < 0x110000 := by
    rcases d.valid with h | ⟨-, h⟩
    · exact Nat.lt_trans h (by decide)
    · exact h
  rw [String.utf8EncodeChar.eq_1, String.utf8EncodeChar.eq_1]
  generalize c.val.toNat = m at hcode
  generalize d.val.toNat = n at hcode hmax
  -- a longer encoding has a larger first byte, and those of one length differ in some digit
  by_cases h₁ : m ≤ 127
  · rw [if_pos h₁]
    split_ifs <;> exact cons_lt (by omega) (by omega) (by omega) fun _ => by omega
  rw [if_neg h₁, if_neg (by omega : ¬ n ≤ 127)]
  by_cases h₂ : m ≤ 2047
  · rw [if_pos h₂]
    split_ifs
    · exact cons_lt (by omega) (by omega) (by omega) fun _ =>
        cons_lt (by omega) (by omega) (by omega) fun _ => by omega
    all_goals exact cons_lt (by omega) (by omega) (by omega) fun _ => by omega
  rw [if_neg h₂, if_neg (by omega : ¬ n ≤ 2047)]
  by_cases h₃ : m ≤ 65535
  · rw [if_pos h₃]
    split_ifs
    · exact cons_lt (by omega) (by omega) (by omega) fun _ =>
        cons_lt (by omega) (by omega) (by omega) fun _ =>
          cons_lt (by omega) (by omega) (by omega) fun _ => by omega
    · exact cons_lt (by omega) (by omega) (by omega) fun _ => by omega
  rw [if_neg h₃, if_neg (by omega : ¬ n ≤ 65535)]
  exact cons_lt (by omega) (by omega) (by omega) fun _ =>
    cons_lt (by omega) (by omega) (by omega) fun _ =>
      cons_lt (by omega) (by omega) (by omega) fun _ =>
        cons_lt (by omega) (by omega) (by omega) fun _ => by omega

theorem flatMap_encode_lt {cs ds : List Char} (hlt : cs < ds) :
    cs.flatMap String.utf8EncodeChar < ds.flatMap String.utf8EncodeChar := by
  induction hlt with
  | @nil d ds =>
    rw [List.flatMap_nil, List.flatMap_cons]
    obtain ⟨x, xs, hx⟩ := List.exists_cons_of_ne_nil (String.utf8EncodeChar_ne_nil (c := d))
    rw [hx]
    exact .nil
  | rel hlt =>
    rw [List.flatMap_cons, List.flatMap_cons]
    exact encode_append_lt hlt _ _
  | @cons c cs ds _ ih =>
    rw [List.flatMap_cons, List.flatMap_cons]
    exact List.append_left_lt ih

theorem bytes_lt {text other : String} (hlt : text < other) : bytes text < bytes other := by
  rw [bytes_eq, bytes_eq]
  exact flatMap_encode_lt (String.lt_iff.mp hlt)

/-- The order of texts is the order of their bytes. -/
theorem bytes_lt_iff {text other : String} : bytes text < bytes other ↔ text < other := by
  refine ⟨fun hbytes => ?_, bytes_lt⟩
  by_cases hlt : text < other
  · exact hlt
  by_cases hgt : other < text
  · exact absurd (bytes_lt hgt) (List.lt_asymm hbytes)
  · rw [String.le_antisymm (String.not_lt.mp hgt) (String.not_lt.mp hlt)] at hbytes
    exact absurd hbytes (List.lt_irrefl _)

end SandboxNet.Text
