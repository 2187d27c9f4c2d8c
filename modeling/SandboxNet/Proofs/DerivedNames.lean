import SandboxNet.Image
import SandboxNet.Proofs.StopShape
import SandboxNet.Proofs.WireNames
import SandboxNet.Text

/-!
What is named after a sandbox: its veth ends, its namespace, its unit and its two paths. Every
accepted name gives names that the host can use, and no two accepted names share one.
-/
namespace SandboxNet

variable {s t name : String} {c : Char}

/-- The characters that a shell does not read as themselves. A hyphen is special only between
brackets and so is not among them. -/
def Shell.special : List Char :=
  "|&;<>()$`\\\"'*?[]#~=%\x7b\x7d!^,".toList

/-- Whether a text is one word of the shell and one name in a path, as it stands. -/
def Plain (text : String) : Prop :=
  ∀ c ∈ text.toList, c ≠ '/' ∧ Text.isBlank c = false ∧ c ∉ Shell.special

theorem Plain.append (hs : Plain s) (ht : Plain t) : Plain (s ++ t) := by
  intro c hc
  rw [String.toList_append, List.mem_append] at hc
  exact hc.elim (hs c) (ht c)

theorem Plain.no_slash (hs : Plain s) : '/' ∉ s.toList :=
  fun hc => (hs '/' hc).1 rfl

/-- The characters of a sandbox name all stand between the hyphen and the last small letter. -/
theorem NameRule.sandbox_allowed_range (hc : NameRule.sandbox.allowed c = true) :
    45 ≤ c.toNat ∧ c.toNat ≤ 122 := by
  simp only [NameRule.sandbox, isLetterOrDigit, Bool.or_eq_true, Bool.and_eq_true,
    decide_eq_true_eq, beq_iff_eq, Char.le_def, UInt32.le_iff_toNat_le] at hc
  rcases hc with (((⟨hl, hr⟩ | ⟨hl, hr⟩) | ⟨hl, hr⟩) | rfl) | rfl
  · exact ⟨Nat.le_trans (by decide) hl, hr⟩
  · exact ⟨Nat.le_trans (by decide) hl, Nat.le_trans hr (by decide)⟩
  · exact ⟨Nat.le_trans (by decide) hl, Nat.le_trans hr (by decide)⟩
  · decide
  · decide

theorem Text.isBlank_eq_false (hl : 33 ≤ c.toNat) (hr : c.toNat ≤ 126) :
    Text.isBlank c = false := by
  simp only [Text.isBlank, Bool.or_eq_false_iff, Bool.and_eq_false_iff, decide_eq_false_iff_not,
    beq_eq_false_iff_ne]
  omega

theorem plain_of_allowed (hs : s.toList.all NameRule.sandbox.allowed = true) : Plain s := by
  intro c hc
  have hallowed := List.all_eq_true.mp hs c hc
  have hspecial : ('/' :: Shell.special).all (!NameRule.sandbox.allowed ·) = true := rfl
  have hrefused : c ∉ '/' :: Shell.special := by
    intro hd
    have hno := List.all_eq_true.mp hspecial c hd
    rw [hallowed] at hno
    cases hno
  obtain ⟨hslash, hshell⟩ := not_or.mp (mt List.mem_cons.mpr hrefused)
  obtain ⟨hl, hr⟩ := NameRule.sandbox_allowed_range hallowed
  exact ⟨hslash, Text.isBlank_eq_false (by omega) (by omega), hshell⟩

/-- The names in a path, from the first to the last. -/
def namesAlong (path : String) : List String :=
  ((path.toList.splitOn '/').filter fun piece => !piece.isEmpty).map String.ofList

/-- Whether a path leads to the entry of that name in a directory, and no further. -/
structure ChildOf (directory path name : String) : Prop where
  rooted : path.toList.head? = some '/' ↔ directory.toList.head? = some '/'
  names : namesAlong path = namesAlong directory ++ [name]
  proper : name ≠ "." ∧ name ≠ ".."

theorem namesAlong_slash (s t : String) :
    namesAlong (s ++ "/" ++ t) = namesAlong s ++ namesAlong t := by
  have hslash : (s ++ "/" ++ t).toList = s.toList ++ '/' :: t.toList := by simp
  rw [namesAlong, hslash, List.splitOn_append_cons_self, List.filter_append, List.map_append]
  rfl

@[simp] theorem namesAlong_empty : namesAlong "" = [] := rfl

theorem namesAlong_name (hne : name ≠ "") (hname : '/' ∉ name.toList) :
    namesAlong name = [name] := by
  rw [namesAlong, List.splitOn_eq_singleton hname]
  simp [hne]

theorem head?_append_of_ne (hs : s ≠ "") (t : String) :
    (s ++ t).toList.head? = s.toList.head? := by
  have hs : s.toList ≠ [] := by simpa using hs
  obtain ⟨c, cs, hcons⟩ := List.exists_cons_of_ne_nil hs
  simp [hcons]

theorem ImageDirectory.join_cases (root name : String) :
    (root = "" ∧ join root name = name) ∨
    (∃ front, root = front ++ "/" ∧ join root name = front ++ "/" ++ name) ∨
    (root ≠ "" ∧ join root name = root ++ "/" ++ name) := by
  by_cases hroot : root = ""
  · exact Or.inl ⟨hroot, by simp [join, hroot]⟩
  · by_cases hlast : root.toList.getLast? = some '/'
    · obtain ⟨front, hfront⟩ := List.getLast?_eq_some_iff.mp hlast
      have hslash : root = String.ofList front ++ "/" := by
        rw [← String.toList_inj, hfront]
        simp
      exact Or.inr (Or.inl ⟨String.ofList front, hslash, by simp [join, hlast, ← hslash]⟩)
    · exact Or.inr (Or.inr ⟨hroot, by simp [join, hlast, hroot]⟩)

theorem childOf_join (hne : name ≠ "") (hname : '/' ∉ name.toList)
    (hproper : name ≠ "." ∧ name ≠ "..") (root : String) :
    ChildOf root (ImageDirectory.join root name) name := by
  have hnames := namesAlong_name hne hname
  rcases ImageDirectory.join_cases root name with
    ⟨rfl, hjoin⟩ | ⟨front, rfl, hjoin⟩ | ⟨hroot, hjoin⟩ <;> rw [hjoin]
  · have hhead : name.toList.head? ≠ some '/' := fun hh => hname (List.mem_of_head? hh)
    exact ⟨by simp [hhead], by simpa using hnames, hproper⟩
  · -- nothing stands after the last slash, so it adds no name to the root
    have hfront : namesAlong (front ++ "/") = namesAlong front := by
      simpa using namesAlong_slash front ""
    refine ⟨?_, by rw [namesAlong_slash, hfront, hnames], hproper⟩
    rw [head?_append_of_ne (by simp)]
  · refine ⟨?_, by rw [namesAlong_slash, hnames], hproper⟩
    rw [String.append_assoc, head?_append_of_ne hroot]

namespace SandboxName

variable {name other : SandboxName}

/-- What the host asks of the names made from the name of a sandbox. -/
structure NamesFit (name : SandboxName) : Prop where
  wire : WireNames.forSandbox name.text = .ok name.wire
  hostVeth : NameRule.veth.check name.wire.hostVeth = .ok ()
  netns : NameRule.netns.check name.wire.netns = .ok ()
  ends : [name.wire.hostVeth, name.wire.sandboxVeth, "lo"].Nodup
  plain : Plain name.text ∧ Plain name.wire.netns ∧ Plain name.unit
  proper : name.text ≠ "." ∧ name.text ≠ ".."
  image : ∀ images : ImageDirectory, ChildOf images.root (images.path name) name.text
  netnsPath : ∀ directory,
    ChildOf "/run/netns" (UnitSpec.ofSandbox name directory).netnsPath name.wire.netns

/-- Nothing on the host is named after both of two sandboxes. -/
structure NothingShared (name other : SandboxName) : Prop where
  hostVeth : name.wire.hostVeth ≠ other.wire.hostVeth
  netns : name.wire.netns ≠ other.wire.netns
  unit : name.unit ≠ other.unit
  netnsPath : ∀ directory otherDirectory, (UnitSpec.ofSandbox name directory).netnsPath ≠
    (UnitSpec.ofSandbox other otherDirectory).netnsPath

theorem check_text (name : SandboxName) : NameRule.sandbox.check name.text = .ok () :=
  NameRule.check_eq_ok.mpr name.accepted

theorem text_ne_empty (name : SandboxName) : name.text ≠ "" := by
  obtain ⟨hne, _⟩ := NameRule.fault?_eq_none.mp name.accepted
  simpa using hne

theorem plain_text (name : SandboxName) : Plain name.text := by
  obtain ⟨_, _, hall, _⟩ := NameRule.fault?_eq_none.mp name.accepted
  exact plain_of_allowed (List.all_eq_true.mpr hall)

/-- A machine name begins with no dot, so it is neither of the two dot names. -/
theorem text_proper (name : SandboxName) : name.text ≠ "." ∧ name.text ≠ ".." := by
  obtain ⟨_, _, _, hfurther⟩ := NameRule.fault?_eq_none.mp name.accepted
  constructor <;>
  · intro hdot
    rw [hdot] at hfurther
    cases hfurther

theorem plain_netns (name : SandboxName) : Plain name.wire.netns :=
  .append (plain_of_allowed rfl) name.plain_text

theorem plain_unit (name : SandboxName) : Plain name.unit :=
  name.plain_netns.append (plain_of_allowed rfl)

theorem netns_proper (name : SandboxName) :
    name.wire.netns ≠ "." ∧ name.wire.netns ≠ ".." := by
  constructor <;>
  · intro hdot
    have hl := congrArg String.toList hdot
    simp [wire, WireNames.of] at hl

theorem netnsPath_join (name : SandboxName) (directory : String) :
    (UnitSpec.ofSandbox name directory).netnsPath =
      ImageDirectory.join "/run/netns" name.wire.netns := by
  have hjoin : ImageDirectory.join "/run/netns" name.wire.netns =
      "/run/netns" ++ "/" ++ name.wire.netns := rfl
  rw [hjoin]
  rfl

theorem names_fit (name : SandboxName) : name.NamesFit where
  wire := forSandbox_eq_ok.mpr ⟨name.check_text, rfl⟩
  hostVeth := check_hostVeth name.check_text
  netns := check_netns name.check_text
  ends := by simp [wire, WireNames.of]
  plain := ⟨name.plain_text, name.plain_netns, name.plain_unit⟩
  proper := name.text_proper
  image images := childOf_join name.text_ne_empty name.plain_text.no_slash name.text_proper _
  netnsPath directory := by
    rw [netnsPath_join]
    exact childOf_join (by simp [wire, WireNames.of]) name.plain_netns.no_slash name.netns_proper _

theorem nothing_shared (hne : name.text ≠ other.text) : name.NothingShared other where
  hostVeth := by simpa [wire, WireNames.of] using hne
  netns := by simpa [wire, WireNames.of] using hne
  unit := by simpa [unit] using hne
  netnsPath directory otherDirectory := by
    simpa [UnitSpec.ofSandbox, wire, WireNames.of] using hne

theorem ofText_of_fault {fault : NameFault} (hf : NameRule.sandbox.fault? s = some fault) :
    ofText s = .error (.invalidName s fault) := by
  rw [ofText]
  split
  next hs => cases hf.symm.trans hs; rfl
  next hs => cases hf.symm.trans hs

/-- Every text that is accepted as a sandbox name is the text of a sandbox whose names can all be
used, two such texts share none of them, and every other text is refused with the fault that the
rule finds. -/
theorem derived_names_fit :
    (∀ s, NameRule.sandbox.check s = .ok () →
      ∃ name, ofText s = .ok name ∧ name.text = s ∧ name.NamesFit) ∧
    (∀ s t name other, ofText s = .ok name → ofText t = .ok other → s ≠ t →
      name.NothingShared other) ∧
    ∀ s e, NameRule.sandbox.check s = .error e → ∃ fault,
      e = .invalidName .sandbox s fault ∧ ofText s = .error (.invalidName s fault) := by
  refine ⟨?_, ?_, ?_⟩
  · intro s hs
    have hname := Manager.ofText_self ⟨s, NameRule.check_eq_ok.mp hs⟩
    exact ⟨_, hname, rfl, names_fit _⟩
  · intro s t name other hs ht hne
    rw [← Manager.ofText_text hs, ← Manager.ofText_text ht] at hne
    exact nothing_shared hne
  · intro s e he
    rw [NameRule.check] at he
    cases hf : NameRule.sandbox.fault? s with
    | none => rw [hf] at he; cases he
    | some fault =>
      rw [hf] at he
      cases he
      exact ⟨fault, rfl, ofText_of_fault hf⟩

theorem derived_names_fit_longest :
    (∃ name, ofText "web-1.prod0" = .ok name ∧ name.text = "web-1.prod0" ∧ name.NamesFit ∧
      ∃ other, ofText "web-1.prod" = .ok other ∧ name.NothingShared other) ∧
    ofText "web-1.prod." = .error (.invalidName "web-1.prod." .notMachineName) := by
  obtain ⟨hfits, hshared, hrefused⟩ := derived_names_fit
  obtain ⟨name, hname, htext, hfit⟩ := hfits "web-1.prod0" rfl
  obtain ⟨other, hother, _⟩ := hfits "web-1.prod" rfl
  obtain ⟨fault, he, hrefused⟩ := hrefused "web-1.prod." _ rfl
  cases he
  exact ⟨⟨name, hname, htext, hfit, other, hother, hshared _ _ _ _ hname hother (by decide)⟩,
    hrefused⟩

end SandboxName

end SandboxNet
