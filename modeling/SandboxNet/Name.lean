import SandboxNet.Text

/-!
Names of host resources. A rule bounds the length of a name and the characters in it; some rules
forbid further forms. Lengths count characters, not bytes.
-/
namespace SandboxNet

/-- What a name in a message stands for. -/
inductive ResourceKind where
  | veth
  | bridge
  | netns
  | sandbox
  | link
deriving DecidableEq

def ResourceKind.label : ResourceKind → String
  | .veth => "veth"
  | .bridge => "bridge"
  | .netns => "namespace"
  | .sandbox => "sandbox"
  | .link => "link"

/-- What is wrong with a name. -/
inductive NameFault where
  | empty
  | tooLong (limit : Nat)
  | badCharacter (c : Char)
  | reserved
  | notMachineName
  | sameEnds
deriving DecidableEq

def NameFault.message : NameFault → String
  | .empty => "name is empty"
  | .tooLong limit => "longer than " ++ Text.natText limit ++ " characters"
  | .badCharacter c => "character " ++ Text.quoteChar c ++ " is not allowed"
  | .reserved => "reserved name"
  | .notMachineName => "not a valid machine name"
  | .sameEnds => "both endpoints have the same name"

/-- Length and characters of a name, and the forms it may not have. -/
structure NameRule where
  kind : ResourceKind
  limit : Nat
  allowed : Char → Bool
  further : List Char → Option NameFault

def isLetterOrDigit (c : Char) : Bool :=
  ('a' ≤ c && c ≤ 'z') || ('A' ≤ c && c ≤ 'Z') || ('0' ≤ c && c ≤ '9')

/-- Whether two dots stand side by side. -/
def hasDoubleDot : List Char → Bool
  | '.' :: '.' :: _ => true
  | _ :: rest => hasDoubleDot rest
  | [] => false

/-- A machine name has no dot at either end and no two dots in a row. -/
def machineNameFault (cs : List Char) : Option NameFault :=
  if cs.head? = some '.' ∨ cs.getLast? = some '.' ∨ hasDoubleDot cs then some .notMachineName
  else none

/-- An end of a veth pair: fourteen characters leave room within the fifteen of an interface. -/
def NameRule.veth : NameRule where
  kind := .veth
  limit := 14
  allowed c := isLetterOrDigit c || c == '.' || c == '_' || c == '-'
  further _ := none

def NameRule.bridge : NameRule where
  kind := .bridge
  limit := 15
  allowed c := isLetterOrDigit c || c == '_' || c == '-'
  further _ := none

/-- A namespace is a directory entry, so the two dot names are taken. -/
def NameRule.netns : NameRule where
  kind := .netns
  limit := 64
  allowed c := isLetterOrDigit c || c == '.' || c == '_' || c == '-'
  further cs := if cs = ['.'] ∨ cs = ['.', '.'] then some .reserved else none

/-- A sandbox name is a machine name too, and leaves room for the names made from it. -/
def NameRule.sandbox : NameRule where
  kind := .sandbox
  limit := 11
  allowed c := isLetterOrDigit c || c == '.' || c == '-'
  further := machineNameFault

/-- The first fault of a name: emptiness, length, the first bad character, then its form. -/
def NameRule.fault? (rule : NameRule) (name : String) : Option NameFault :=
  let cs := name.toList
  if cs.isEmpty then some .empty
  else if rule.limit < cs.length then some (.tooLong rule.limit)
  else match cs.find? fun c => !rule.allowed c with
    | some c => some (.badCharacter c)
    | none => rule.further cs

/-- Whether a rule accepts a name. -/
def NameRule.accepts (rule : NameRule) (name : String) : Bool :=
  (rule.fault? name).isNone

end SandboxNet
