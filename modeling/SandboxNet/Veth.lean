import SandboxNet.NetCall

/-!
Network namespaces and veth pairs. Nothing is remembered between operations: each asks the host
again. The two ends of a pair are created and deleted together, and an operation looks its end up in
the default namespace first, where a link of another kind does not count.
-/
namespace SandboxNet.Namespace

/-- Whether a namespace is registered. A failed look-up counts as no. -/
def present (name : String) : NetProgram Bool := do
  match ← Net.namespaces.run with
  | .ok names => return names.contains name
  | .error _ => return false

def create (name : String) : Net Unit := do
  Net.ofExcept (NameRule.netns.check name)
  if ← present name then
    throw (.alreadyExists .netns name)
  Net.addNamespace name

/-- Creates a namespace unless it is there; says whether it did. -/
def ensure (name : String) : Net Bool := do
  if ← present name then
    return false
  create name
  return true

/-- Deletes a namespace with everything inside it. -/
def delete (name : String) : Net Unit := do
  if !(← present name) then
    throw (.notFound .netns name)
  Net.deleteNamespace name

def list : Net (List String) :=
  Net.namespaces

end SandboxNet.Namespace

namespace SandboxNet

/-- What a veth end is attached to. -/
inductive Target where
  | bridge (name : String)
  | netns (name : String)
deriving DecidableEq

namespace Target

def name : Target → String
  | bridge name => name
  | netns name => name

def label : Target → String
  | bridge _ => "bridge"
  | netns _ => "namespace"

def text (t : Target) : String :=
  t.label ++ " " ++ t.name

/-- Finds out what a name stands for, a bridge before a namespace. -/
def classify (name : String) : Net Target := do
  if (← Net.find? name).any (·.kind = .bridge) then
    return .bridge name
  if ← Namespace.present name then
    return .netns name
  throw (.invalidTarget name)

end Target

/-- One end in a listing. -/
structure VethEnd where
  name : String
  state : LinkState
  peer : Option String
  master : Option String
deriving DecidableEq

def VethEnd.ofRecord (l : LinkRecord) : VethEnd :=
  ⟨l.name, l.state, l.peer, l.master⟩

/-- One pair in a listing; the other end is `none` if it is in another namespace. -/
structure VethPair where
  first : String
  second : Option String
deriving DecidableEq

def VethPair.text (p : VethPair) : String :=
  p.first ++ " <-> " ++ p.second.getD "(other namespace)"

/-- Everything known about one end. -/
structure VethInfo where
  name : String
  adminUp : Bool
  state : LinkState
  peer : Option String
  master : Option String
  addresses : List String
deriving DecidableEq

def VethInfo.text (i : VethInfo) : String :=
  String.intercalate "\n" [
    "name:      " ++ i.name,
    "admin:     " ++ if i.adminUp then "up" else "down",
    "state:     " ++ i.state.label,
    "peer:      " ++ i.peer.getD "(other namespace)",
    "master:    " ++ i.master.getD "-",
    "addresses: " ++ if i.addresses.isEmpty then "-" else String.intercalate ", " i.addresses]

namespace Veth

/-- The end of this name, if there is one. -/
def find? (name : String) : NetProgram (Option LinkRecord) := do
  return (← Net.find? name).filter (·.kind = .veth)

/-- The end of this name, which has to be there. -/
def get (name : String) : Net LinkRecord := do
  match ← find? name with
  | some l => return l
  | none => throw (.notFound .veth name)

def present (name : String) : NetProgram Bool := do
  return (← find? name).isSome

/-- Refuses a name that some link of the default namespace has. -/
def requireFree (name : String) : Net Unit := do
  if let some l ← Net.find? name then
    throw (.alreadyExists (if l.kind = .veth then .veth else .link) name)

def create (name peer : String) : Net Unit := do
  Net.ofExcept (NameRule.veth.check name)
  Net.ofExcept (NameRule.veth.check peer)
  if name = peer then
    throw (.invalidName .veth peer .sameEnds)
  requireFree name
  requireFree peer
  Net.addVeth name peer

/-- Deletes a pair through one of its ends. -/
def delete (name : String) : Net Unit := do
  let _ ← get name
  Net.deleteLink name

/-- Deletes a pair through whichever end is there. -/
def deletePair (name peer : String) : Net Unit := do
  if ← present name then
    delete name
  else if ← present peer then
    delete peer
  else
    throw (.notFound .veth name)

/-- Puts an end into a bridge or moves it into a namespace, and brings it up there. -/
def attachTo (name : String) (target : Target) : Net Unit := do
  let _ ← get name
  match target with
  | .bridge bridge =>
    Net.setMaster name (some bridge)
    Net.setAdmin none name true
  | .netns netns =>
    Net.setNetns name netns
    Net.setAdmin (some netns) name true
    Net.discard (Net.setAdmin (some netns) "lo" true)

def attach (name target : String) : Net Unit := do
  attachTo name (← Target.classify target)

/-- Takes an end out of its bridge, whichever that is. -/
def detach (name : String) : Net Unit := do
  let l ← get name
  if l.master.isSome then
    Net.setMaster name none

def setUp (name : String) (up : Bool) : Net Unit := do
  let _ ← get name
  Net.setAdmin none name up

def state (name : String) : NetProgram LinkState := do
  match ← find? name with
  | some l => return if l.state = .notExists then .unknown else l.state
  | none => return .notExists

/-- The state of an end that has to be there. -/
def status (name : String) : Net LinkState := do
  let s ← state name
  if s = .notExists then
    throw (.notFound .veth name)
  return s

/-- The ends in the default namespace. -/
def list : Net (List VethEnd) := do
  let links ← Net.links none
  return (links.filter (·.kind = .veth)).map .ofRecord

/-- Pairs up ends, leaving out those already seen. An end pairs only with one of `names`. -/
def pairsOf (names seen : List String) : List VethEnd → List VethPair
  | [] => []
  | e :: rest =>
    if seen.contains e.name then pairsOf names seen rest
    else
      let peer := e.peer.filter names.contains
      ⟨e.name, peer⟩ :: pairsOf names (e.name :: (peer.toList ++ seen)) rest

/-- The pairs with an end in the default namespace, each once. -/
def listPairs : Net (List VethPair) := do
  let ends ← list
  return pairsOf (ends.map (·.name)) [] ends

def info (name : String) : Net VethInfo := do
  let l ← get name
  let addresses ← Net.addresses name
  return ⟨l.name, l.adminUp, l.state, l.peer, l.master, addresses⟩

end Veth

end SandboxNet
