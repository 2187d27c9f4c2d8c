import Mathlib.Data.List.Find
import SandboxNet.Proofs.WireNames

/-!
Sandbox names as machine names: labels of letters, digits and hyphens with one dot between each
two. The rule for sandbox names looks at single characters and at where the dots are; it accepts
what is made of labels and is short enough.
-/
namespace SandboxNet

variable {cs : List Char} {c : Char} {s : String} {fault : NameFault} {faults : List NameFault}

def LabelChar (c : Char) : Prop :=
  c.isAlphanum = true ∨ c = '-'

/-- One of the parts of a machine name. -/
def MachineLabel (label : List Char) : Prop :=
  label ≠ [] ∧ ∀ c ∈ label, LabelChar c

/-- Whether the dots cut a text into labels. The empty text has one piece, which is no label. -/
def MachineName (text : String) : Prop :=
  ∀ piece ∈ text.toList.splitOn '.', MachineLabel piece

instance (c : Char) : Decidable (LabelChar c) :=
  inferInstanceAs (Decidable (_ ∨ _))

instance (label : List Char) : Decidable (MachineLabel label) :=
  inferInstanceAs (Decidable (_ ∧ _))

instance (text : String) : Decidable (MachineName text) :=
  inferInstanceAs (Decidable (∀ piece ∈ text.toList.splitOn '.', MachineLabel piece))

/-- Whether a fault is one of this text. A text may have several. -/
def HasFault (text : String) : NameFault → Prop
  | .empty => text = ""
  | .tooLong limit => limit < text.length
  | .badCharacter c => c ∈ text.toList ∧ c ≠ '.' ∧ ¬ LabelChar c
  | .notMachineName => ¬ MachineName text
  | .reserved | .sameEnds => False

instance (text : String) : DecidablePred (HasFault text)
  | .empty => inferInstanceAs (Decidable (text = ""))
  | .tooLong limit => inferInstanceAs (Decidable (limit < text.length))
  | .badCharacter c => inferInstanceAs (Decidable (c ∈ text.toList ∧ c ≠ '.' ∧ ¬ LabelChar c))
  | .notMachineName => inferInstanceAs (Decidable (¬ MachineName text))
  | .reserved | .sameEnds => isFalse id

/-- The faults that a sandbox name could have, in the order in which they are looked for. -/
def possibleFaults (text : String) : List NameFault :=
  .empty :: .tooLong 11 :: (text.toList.map .badCharacter ++ [.notMachineName])

theorem isLetterOrDigit_eq (c : Char) : isLetterOrDigit c = c.isAlphanum := by
  have hupper : c.isUpper = (decide ('A' ≤ c) && decide (c ≤ 'Z')) := Bool.decide_and _ _
  calc isLetterOrDigit c
      = (c.isLower || c.isUpper || c.isDigit) := by rw [hupper]; rfl
    _ = (c.isUpper || c.isLower || c.isDigit) := by rw [Bool.or_comm c.isLower]

theorem sandbox_allowed_iff : NameRule.sandbox.allowed c = true ↔ c = '.' ∨ LabelChar c := by
  simp only [NameRule.sandbox, isLetterOrDigit_eq, Bool.or_eq_true, beq_iff_eq, LabelChar]
  rw [or_left_comm, or_assoc]

theorem hasDoubleDot_dot :
    hasDoubleDot ('.' :: cs) = true ↔ cs.head? = some '.' ∨ hasDoubleDot cs = true := by
  rcases cs with _ | ⟨d, rest⟩
  · simp [hasDoubleDot]
  · by_cases hd : d = '.' <;> simp [hd, hasDoubleDot]

theorem hasDoubleDot_cons (hc : c ≠ '.') : hasDoubleDot (c :: cs) = hasDoubleDot cs := by
  rw [hasDoubleDot]
  simp [hc]

/-- The first piece is empty just if the text is empty or begins with a dot. -/
theorem splitOn_dot (cs : List Char) : ∃ piece pieces, cs.splitOn '.' = piece :: pieces ∧
    (piece = [] ↔ cs = [] ∨ cs.head? = some '.') := by
  rcases cs with _ | ⟨c, rest⟩
  · exact ⟨[], [], rfl, by simp⟩
  · obtain ⟨piece, pieces, hrest⟩ := List.exists_cons_of_ne_nil (List.splitOn_ne_nil '.' rest)
    rw [List.splitOn_cons_eq_if_modifyHead, hrest]
    by_cases hc : c = '.'
    · exact ⟨[], piece :: pieces, by simp [hc], by simp [hc]⟩
    · exact ⟨c :: piece, pieces, by simp [hc], by simp [hc]⟩

theorem getLast?_dot : ('.' :: cs).getLast? = some '.' ↔ cs = [] ∨ cs.getLast? = some '.' := by
  rw [List.getLast?_cons]
  cases hlast : cs.getLast? with
  | none => simp [List.getLast?_eq_none_iff.mp hlast]
  | some d =>
    have hne : cs ≠ [] := by
      rintro rfl
      cases hlast
    simp [hne]

theorem getLast?_cons_of_ne (hc : c ≠ '.') :
    (c :: cs).getLast? = some '.' ↔ cs.getLast? = some '.' := by
  rw [List.getLast?_cons]
  cases cs.getLast? <;> simp [hc]

/-- After the first piece, another one is empty just if a dot is the last character or is followed
by another dot. -/
theorem nil_mem_tail_splitOn (cs : List Char) : [] ∈ (cs.splitOn '.').tail ↔
    cs.getLast? = some '.' ∨ hasDoubleDot cs = true := by
  induction cs with
  | nil => simp [hasDoubleDot]
  | cons c rest ih =>
    obtain ⟨piece, pieces, hrest, hpiece⟩ := splitOn_dot rest
    rw [List.splitOn_cons_eq_if_modifyHead, hrest]
    rw [hrest, List.tail_cons] at ih
    by_cases hc : c = '.'
    · -- the piece after this dot is a later one now
      subst hc
      rw [getLast?_dot, hasDoubleDot_dot, or_or_or_comm, ← ih, ← hpiece]
      simp [eq_comm]
    · rw [getLast?_cons_of_ne hc, hasDoubleDot_cons hc, ← ih]
      simp [hc]

theorem nil_notMem_splitOn :
    [] ∉ cs.splitOn '.' ↔ cs ≠ [] ∧ machineNameFault cs = none := by
  obtain ⟨piece, pieces, hcs, hpiece⟩ := splitOn_dot cs
  have htail := nil_mem_tail_splitOn cs
  rw [hcs, List.tail_cons] at htail
  rw [hcs, List.mem_cons, eq_comm, hpiece, htail, or_assoc, not_or, machineNameFault]
  simp only [ite_eq_right_iff, reduceCtorEq, imp_false, ne_eq]

/-- A piece has all the characters of the text but the dots. -/
theorem forall_mem_splitOn {P : Char → Prop} :
    (∀ piece ∈ cs.splitOn '.', ∀ c ∈ piece, P c) ↔ ∀ c ∈ cs, c = '.' ∨ P c := by
  induction cs with
  | nil => simp
  | cons c rest ih =>
    obtain ⟨piece, pieces, hrest⟩ := List.exists_cons_of_ne_nil (List.splitOn_ne_nil '.' rest)
    rw [List.splitOn_cons_eq_if_modifyHead, List.forall_mem_cons, ← ih, hrest]
    by_cases hc : c = '.'
    · simp [hc]
    · simp [hc, and_assoc]

/-- The pieces are labels just if none of them is empty and every character has its place. -/
theorem machineName_iff : MachineName s ↔
    (s.toList ≠ [] ∧ machineNameFault s.toList = none) ∧
      ∀ c ∈ s.toList, NameRule.sandbox.allowed c = true := by
  simp only [MachineName, MachineLabel, forall_and, forall_mem_splitOn, sandbox_allowed_iff,
    ← nil_notMem_splitOn]
  refine and_congr_left fun _ => ⟨fun hne hnil => hne [] hnil rfl, ?_⟩
  rintro hnil piece hpiece rfl
  exact hnil hpiece

theorem sandbox_fault?_eq_none :
    NameRule.sandbox.fault? s = none ↔ s.length ≤ 11 ∧ MachineName s := by
  rw [NameRule.fault?_eq_none, machineName_iff, String.length_toList]
  constructor
  · rintro ⟨hne, hlength, hall, hform⟩
    exact ⟨hlength, ⟨hne, hform⟩, hall⟩
  · rintro ⟨hlength, ⟨hne, hform⟩, hall⟩
    exact ⟨hne, hlength, hall, hform⟩

theorem machineNameFault_of_ne_none (hform : machineNameFault cs ≠ none) :
    machineNameFault cs = some .notMachineName := by
  rw [machineNameFault] at hform ⊢
  split at hform
  · rw [if_pos ‹_›]
  · exact absurd rfl hform

theorem find?_cons_of_hasFault (hf : HasFault s fault) :
    (fault :: faults).find? (HasFault s ·) = some fault :=
  List.find?_cons_of_pos (by simpa using hf)

theorem find?_cons_of_not_hasFault (hf : ¬ HasFault s fault) :
    (fault :: faults).find? (HasFault s ·) = faults.find? (HasFault s ·) :=
  List.find?_cons_of_neg (by simpa using hf)

theorem find?_badCharacter (s : String) :
    (s.toList.map .badCharacter).find? (HasFault s ·) =
      (s.toList.find? fun c => !NameRule.sandbox.allowed c).map .badCharacter := by
  rw [List.find?_map]
  refine congrArg _ (List.find?_congr fun c hc => ?_)
  rw [Bool.eq_iff_iff]
  simp [HasFault, hc, ← Bool.not_eq_true, sandbox_allowed_iff]

/-- The rule finds the first fault that the text has. -/
theorem sandbox_fault?_eq_find? (s : String) :
    NameRule.sandbox.fault? s = (possibleFaults s).find? (HasFault s ·) := by
  have hlimit : NameRule.sandbox.limit = 11 := rfl
  have hlong : HasFault s (.tooLong 11) ↔ 11 < s.length := Iff.rfl
  rw [possibleFaults, NameRule.fault?, hlimit, String.length_toList]
  by_cases he : HasFault s .empty
  · rw [find?_cons_of_hasFault he, if_pos (by simpa [HasFault] using he)]
  rw [find?_cons_of_not_hasFault he, if_neg (by simpa [HasFault] using he)]
  by_cases hl : HasFault s (.tooLong 11)
  · rw [find?_cons_of_hasFault hl, if_pos (hlong.mp hl)]
  rw [find?_cons_of_not_hasFault hl, if_neg (mt hlong.mpr hl), List.find?_append,
    find?_badCharacter]
  cases hbad : s.toList.find? fun c => !NameRule.sandbox.allowed c with
  | some c => rfl
  | none =>
    have hall : ∀ c ∈ s.toList, NameRule.sandbox.allowed c = true := by
      simpa using hbad
    have hform : machineNameFault s.toList = none ↔ MachineName s := by
      rw [machineName_iff]
      exact ⟨fun hform => ⟨⟨by simpa [HasFault] using he, hform⟩, hall⟩, fun hname => hname.1.2⟩
    change machineNameFault s.toList = [NameFault.notMachineName].find? (HasFault s ·)
    by_cases hname : HasFault s .notMachineName
    · rw [machineNameFault_of_ne_none (mt hform.mp hname), find?_cons_of_hasFault hname]
    · rw [hform.mpr (not_not.mp hname), find?_cons_of_not_hasFault hname]
      rfl

/-- The rule for sandbox names accepts the machine names of at most eleven characters, and refuses
every other text with the first fault that it has. -/
theorem sandbox_names_are_machine_names (s : String) :
    (NameRule.sandbox.check s = .ok () ↔ s.length ≤ 11 ∧ MachineName s) ∧
    ∀ e, NameRule.sandbox.check s = .error e ↔ ∃ fault,
      (possibleFaults s).find? (HasFault s ·) = some fault ∧ e = .invalidName .sandbox s fault := by
  refine ⟨NameRule.check_eq_ok.trans sandbox_fault?_eq_none, fun e => ?_⟩
  rw [← sandbox_fault?_eq_find?, NameRule.check]
  cases NameRule.sandbox.fault? s with
  | none => simp
  | some fault => simp [eq_comm, NameRule.sandbox]

-- eleven characters of two bytes each are not too many
example : NameRule.sandbox.fault? "ééééééééééé" = some (.badCharacter 'é') := rfl

end SandboxNet
