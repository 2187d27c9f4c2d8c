import SandboxNet.Error
import SandboxNet.Program

/-!
What a host reports about a network interface, and the calls it answers about its network: four
queries and nine changes. Every reply may be an error. A namespace argument of `none` means the
default namespace.
-/
namespace SandboxNet

inductive LinkKind where
  | veth
  | bridge
  | loopback
  | other
deriving DecidableEq

def LinkKind.label : LinkKind → String
  | .veth => "veth"
  | .bridge => "bridge"
  | .loopback => "loopback"
  | .other => "other"

/-- Operational state. -/
inductive LinkState where
  | up
  | down
  | lowerLayerDown
  | notExists
  | unknown
deriving DecidableEq

def LinkState.label : LinkState → String
  | .up => "UP"
  | .down => "DOWN"
  | .lowerLayerDown => "LOWERLAYERDOWN"
  | .notExists => "NOT_EXISTS"
  | .unknown => "UNKNOWN"

/-- The state named by the host, in either case of ASCII letters. -/
def LinkState.ofReport (text : String) : LinkState :=
  let upper := String.ofList (text.toList.map Char.toUpper)
  if upper = "UP" then .up
  else if upper = "DOWN" then .down
  else if upper = "LOWERLAYERDOWN" then .lowerLayerDown
  else .unknown

/-- One interface as seen from its own namespace. The peer is named only if it is there too. -/
structure LinkRecord where
  name : String
  kind : LinkKind
  adminUp : Bool
  state : LinkState
  master : Option String
  peer : Option String
deriving DecidableEq

inductive NetCall where
  | link (netns : Option String) (name : String)
  | links (netns : Option String)
  | addVeth (name peer : String)
  | addBridge (name : String)
  | deleteLink (name : String)
  | setAdmin (netns : Option String) (name : String) (up : Bool)
  | setMaster (name : String) (master : Option String)
  | setNetns (name netns : String)
  | addresses (name : String)
  | addAddress (name address : String)
  | namespaces
  | addNamespace (name : String)
  | deleteNamespace (name : String)
deriving DecidableEq

namespace NetCall

/-- What a call returns when it succeeds. -/
@[reducible] def Answer : NetCall → Type
  | link .. => Option LinkRecord
  | links _ => List LinkRecord
  | addresses _ => List String
  | namespaces => List String
  | addVeth .. | addBridge _ | deleteLink _ | setAdmin .. | setMaster .. | setNetns ..
  | addAddress .. | addNamespace _ | deleteNamespace _ => Unit

/-- Whether a call may change the host. -/
def mutates : NetCall → Bool
  | link .. | links _ | addresses _ | namespaces => false
  | _ => true

end NetCall

/-- The network of a host. -/
@[reducible] def netInterface : Interface where
  Call := NetCall
  Reply c := Except NetError c.Answer

/-- A program over the network of a host. -/
abbrev NetProgram := Program netInterface

/-- A program over the network of a host that may fail. -/
abbrev Net := ExceptT NetError NetProgram

namespace Net

/-- Makes one call and fails if it does. -/
def ask (c : NetCall) : Net c.Answer :=
  ExceptT.mk (Program.call (I := netInterface) c)

/-- The outcome of a program, its failure included. -/
def attempt {α : Type} (p : Net α) : Net (Except NetError α) :=
  ExceptT.mk (Except.ok <$> p.run)

/-- Runs a program for its effect; its failure is let go. -/
def discard {α : Type} (p : Net α) : NetProgram Unit := do
  let _ ← p.run

/-- The outcome of a check made without the host. -/
def ofExcept {α : Type} (e : Except NetError α) : Net α :=
  ExceptT.mk (pure e)

def link (netns : Option String) (name : String) : Net (Option LinkRecord) :=
  ask (.link netns name)

/-- The link of this name in the default namespace. A failed look-up counts as none. -/
def find? (name : String) : NetProgram (Option LinkRecord) := do
  match ← (link none name).run with
  | .ok l => return l
  | .error _ => return none

def links (netns : Option String) : Net (List LinkRecord) :=
  ask (.links netns)

def addVeth (name peer : String) : Net Unit :=
  ask (.addVeth name peer)

def addBridge (name : String) : Net Unit :=
  ask (.addBridge name)

def deleteLink (name : String) : Net Unit :=
  ask (.deleteLink name)

def setAdmin (netns : Option String) (name : String) (up : Bool) : Net Unit :=
  ask (.setAdmin netns name up)

def setMaster (name : String) (master : Option String) : Net Unit :=
  ask (.setMaster name master)

def setNetns (name netns : String) : Net Unit :=
  ask (.setNetns name netns)

def addresses (name : String) : Net (List String) :=
  ask (.addresses name)

def addAddress (name address : String) : Net Unit :=
  ask (.addAddress name address)

def namespaces : Net (List String) :=
  ask .namespaces

def addNamespace (name : String) : Net Unit :=
  ask (.addNamespace name)

def deleteNamespace (name : String) : Net Unit :=
  ask (.deleteNamespace name)

end Net

end SandboxNet
