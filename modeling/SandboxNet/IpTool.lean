import SandboxNet.Json
import SandboxNet.Machine
import SandboxNet.NetCall
import SandboxNet.Text
import SandboxNet.Text.Utf8

/-! The network of a real host, asked through the `ip` program and its JSON reports. -/
namespace SandboxNet

/-- A link as the program reports it. -/
structure LinkReport where
  name : String
  flags : List String
  state : Option String
  master : Option String
  peer : Option String
  linkType : Option String
  kind : Option String
deriving DecidableEq

namespace LinkReport

open Json in
/-- The kind inside the details of a link. -/
def kindOf? (v : Json) : Option (Option String) := do
  match ← fields? ["info_kind"] v with
  | [kind] => optional? (asOption? asText?) none kind
  | _ => none

open Json in
def ofJson? (v : Json) : Option LinkReport := do
  let names := ["ifname", "flags", "operstate", "master", "link", "link_type", "linkinfo"]
  match ← fields? names v with
  | [name, flags, state, master, peer, linkType, info] =>
    return {
      name := ← required? asText? name
      flags := ← optional? (asList? asText?) [] flags
      state := ← optional? (asOption? asText?) none state
      master := ← optional? (asOption? asText?) none master
      peer := ← optional? (asOption? asText?) none peer
      linkType := ← optional? (asOption? asText?) none linkType
      kind := (← optional? (asOption? kindOf?) none info).join }
  | _ => none

def linkKind (r : LinkReport) : LinkKind :=
  if r.kind = some "veth" then .veth
  else if r.kind = some "bridge" then .bridge
  else if r.linkType = some "loopback" then .loopback
  else .other

def toRecord (r : LinkReport) : LinkRecord where
  name := r.name
  kind := r.linkKind
  adminUp := r.flags.contains "UP"
  state := r.state.elim .unknown LinkState.ofReport
  master := r.master
  peer := if r.linkKind = .veth then r.peer else none

end LinkReport

namespace IpTool

open Json in
/-- The texts of the addresses in one entry of a report. -/
def addressesOf? (v : Json) : Option (List String) := do
  let address (v : Json) : Option String := do
    match ← fields? ["local", "prefixlen"] v with
    | [ip, length] =>
      return (← required? asText? ip) ++ "/" ++ Text.natText (← required? (asNat? 255) length)
    | _ => none
  match ← fields? ["addr_info"] v with
  | [info] => optional? (asList? address) [] info
  | _ => none

open Json in
/-- The name in one entry of a list of namespaces. -/
def namespaceOf? (v : Json) : Option String := do
  match ← fields? ["name"] v with
  | [name] => required? asText? name
  | _ => none

/-- The entries of a report. Some versions print nothing where there are none. -/
def entries {α : Type} (f : Json → Option α) (report : String) : Except NetError (List α) :=
  if Text.allBlank report then .ok []
  else match (Json.read? report).bind (Json.asList? f) with
    | some items => .ok items
    | none => .error (.unreadable "unexpected report")

abbrev ToolProgram := ExceptT NetError MachineProgram

/-- Runs the program and gives its output. -/
def run (program : String) (arguments : List String) : ToolProgram String :=
  ExceptT.mk do
    match ← MachineProgram.ask (.execute program arguments) with
    | .error reason => return .error (.notStarted reason)
    | .ok output =>
      if output.succeeded then
        return .ok (Text.ofUtf8 output.stdout)
      else
        return .error (.command program arguments (Text.trim (Text.ofUtf8 output.stderr)))

/-- Runs the program for its effect. -/
def act (program : String) (arguments : List String) : ToolProgram Unit := do
  let _ ← run program arguments

/-- Runs the program and reads its report. -/
def report {α : Type} (program : String) (f : Json → Option α) (arguments : List String) :
    ToolProgram (List α) := do
  liftExcept (entries f (← run program arguments))

/-- Arguments for a command inside a namespace. -/
def inside (netns : Option String) (arguments : List String) : List String :=
  netns.elim arguments fun ns => "-n" :: ns :: arguments

/-- Whether an error says that there is no such link. -/
def saysAbsent : NetError → Bool
  | .command _ _ stderr =>
    Text.contains "does not exist".toList stderr.toList ||
      Text.contains "Cannot find device".toList stderr.toList
  | _ => false

/-- The link of a name, if there is one. -/
def findLink (program : String) (netns : Option String) (name : String) :
    ToolProgram (Option LinkRecord) :=
  ExceptT.mk do
    let arguments := inside netns ["-j", "-d", "link", "show", "dev", name]
    match ← (report program LinkReport.ofJson? arguments).run with
    | .ok links => return .ok (links.head?.map (·.toRecord))
    | .error e => return if saysAbsent e then .ok none else .error e

/-- How a call to the host is carried out. -/
def answer (program : String) (c : NetCall) : MachineProgram (Except NetError c.Answer) :=
  match c with
  | .link netns name => (findLink program netns name).run
  | .links netns =>
    ((·.map LinkReport.toRecord) <$>
      report program LinkReport.ofJson? (inside netns ["-j", "-d", "link", "show"])).run
  | .addVeth name peer =>
    (act program ["link", "add", name, "type", "veth", "peer", "name", peer]).run
  | .addBridge name => (act program ["link", "add", "name", name, "type", "bridge"]).run
  | .deleteLink name => (act program ["link", "delete", "dev", name]).run
  | .setAdmin netns name up =>
    (act program (inside netns ["link", "set", "dev", name, if up then "up" else "down"])).run
  | .setMaster name (some bridge) =>
    (act program ["link", "set", "dev", name, "master", bridge]).run
  | .setMaster name none => (act program ["link", "set", "dev", name, "nomaster"]).run
  | .setNetns name netns => (act program ["link", "set", "dev", name, "netns", netns]).run
  | .addresses name =>
    (List.flatten <$> report program addressesOf? ["-j", "addr", "show", "dev", name]).run
  | .addAddress name address => (act program ["addr", "add", address, "dev", name]).run
  | .namespaces => (report program namespaceOf? ["-j", "netns", "list"]).run
  | .addNamespace name => (act program ["netns", "add", name]).run
  | .deleteNamespace name => (act program ["netns", "delete", name]).run

end IpTool

end SandboxNet
