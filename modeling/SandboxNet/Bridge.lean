import SandboxNet.Address
import SandboxNet.Veth

/-!
Bridges. Many sandboxes share one, so creating a bridge that is there already succeeds. A link of
another kind does not count as a bridge.
-/
namespace SandboxNet.Bridge

/-- The bridge of this name, if there is one. -/
def find? (name : String) : NetProgram (Option LinkRecord) := do
  return (← Net.find? name).filter (·.kind = .bridge)

/-- The bridge of this name, which has to be there. -/
def get (name : String) : Net LinkRecord := do
  match ← find? name with
  | some l => return l
  | none => throw (.notFound .bridge name)

def present (name : String) : NetProgram Bool := do
  return (← find? name).isSome

/-- Creates a bridge unless it is there. -/
def ensure (name : String) : Net Unit := do
  if !(← present name) then
    if (← Net.find? name).isSome then
      throw (.alreadyExists .link name)
    Net.addBridge name

/-- Gives a link an address unless it has one of the same text. -/
def ensureAddress (name address : String) : Net Unit := do
  let current ← Net.addresses name
  if !current.contains address then
    Net.addAddress name address

/-- Creates a bridge unless it is there, and gives it an address unless it has it. -/
def create (name : String) (address : Option String) : Net Unit := do
  Net.ofExcept (NameRule.bridge.check name)
  Net.ofExcept (address.elim (.ok ()) Address.check)
  ensure name
  address.forM (ensureAddress name)

/-- Brings a bridge down, if that works, and deletes it. -/
def delete (name : String) : Net Unit := do
  let _ ← get name
  Net.discard (Net.setAdmin none name false)
  Net.deleteLink name

def setUp (name : String) (up : Bool) : Net Unit := do
  let _ ← get name
  Net.setAdmin none name up

def state (name : String) : NetProgram LinkState := do
  match ← find? name with
  | some l => return l.state
  | none => return .notExists

/-- The state of a bridge that has to be there. -/
def status (name : String) : Net LinkState := do
  return (← get name).state

/-- The bridges of the default namespace. -/
def list : Net (List LinkRecord) := do
  let links ← Net.links none
  return links.filter (·.kind = .bridge)

/-- The names of the links in a bridge. -/
def members (name : String) : Net (List String) := do
  let _ ← get name
  let links ← Net.links none
  return (links.filter (·.master = some name)).map (·.name)

def addresses (name : String) : Net (List String) := do
  let _ ← get name
  Net.addresses name

def attachEnd (name veth : String) : Net Unit := do
  let _ ← get name
  Veth.attachTo veth (.bridge name)

/-- Takes an end out of its bridge. Which bridge is named makes no difference. -/
def detachEnd (_name veth : String) : Net Unit :=
  Veth.detach veth

end SandboxNet.Bridge
