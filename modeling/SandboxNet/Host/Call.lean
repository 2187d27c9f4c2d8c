import SandboxNet.Host.Basic
import SandboxNet.NetCall

/-! What each call does to the simulated host. A call that fails leaves it as it was. -/
namespace SandboxNet.Host

/-- The report about one link; the namespace has to be registered. -/
def link (h : Host) (netns : Option String) (name : String) :
    Except NetError (Option LinkRecord) :=
  match netns.filter fun ns => !h.netns.contains ns with
  | some ns => .error (.notFound .netns ns)
  | none =>
    let id : LinkId := ⟨netns, name⟩
    .ok (h.links[id]?.map (h.record id))

/-- The reports about the links of a namespace in order of name. -/
def records (h : Host) (netns : Option String) : List LinkRecord :=
  (h.linksIn netns).map fun (id, l) => h.record id l

/-- Changes the link at a place. -/
def update (h : Host) (id : LinkId) (f : Link → Link) : Host :=
  { h with links := h.links.modify id f }

/-- Creates the two ends of a pair in the default namespace. -/
def addVeth (h : Host) (name peer : String) : Except NetError Host :=
  let a : LinkId := ⟨none, name⟩
  let b : LinkId := ⟨none, peer⟩
  if h.links.contains a then .error (.alreadyExists .link name)
  else if h.links.contains b || name = peer then .error (.alreadyExists .link peer)
  else .ok { h with links := (h.links.insert a (.fresh (.veth b))).insert b (.fresh (.veth a)) }

/-- Creates a bridge in the default namespace. -/
def addBridge (h : Host) (name : String) : Except NetError Host :=
  let id : LinkId := ⟨none, name⟩
  if h.links.contains id then .error (.alreadyExists .link name)
  else .ok { h with links := h.links.insert id (.fresh .bridge) }

/-- Frees a link from the bridge at a place if that is its master. -/
def release (bridge id : LinkId) (l : Link) : Link :=
  if id.netns = bridge.netns ∧ l.master = some bridge.name then { l with master := none } else l

/-- Takes away a link: a veth end goes with its other end, a bridge frees its members. -/
def remove (h : Host) (id : LinkId) : Host :=
  match h.links[id]? with
  | none => h
  | some l =>
    let rest := h.links.erase id
    match l.device with
    | .veth peer => { h with links := rest.erase peer }
    | .bridge => { h with links := rest.map (release id) }
    | .loopback => { h with links := rest }

def deleteLink (h : Host) (name : String) : Except NetError Host :=
  let id : LinkId := ⟨none, name⟩
  if h.links.contains id then .ok (h.remove id) else .error (.notFound .link name)

def setAdmin (h : Host) (netns : Option String) (name : String) (up : Bool) :
    Except NetError Host :=
  let id : LinkId := ⟨netns, name⟩
  if h.links.contains id then .ok (h.update id ({ · with adminUp := up }))
  else .error (.notFound .link name)

/-- Whether the default namespace has a bridge of this name. -/
def hasBridge (h : Host) (name : String) : Bool :=
  (h.get? name).any (·.kind = .bridge)

/-- Puts a link of the default namespace into a bridge or takes it out. -/
def setMaster (h : Host) (name : String) (master : Option String) : Except NetError Host :=
  match master.filter fun bridge => !h.hasBridge bridge with
  | some bridge => .error (.notFound .bridge bridge)
  | none =>
    let id : LinkId := ⟨none, name⟩
    if h.links.contains id then .ok (h.update id ({ · with master := master }))
    else .error (.notFound .link name)

/-- Points the other end of a moved link to its new place. -/
def redirect (links : LinkTable) (l : Link) (place : LinkId) : LinkTable :=
  match l.device with
  | .veth peer => links.modify peer ({ · with device := .veth place })
  | _ => links

/-- Moves a link of the default namespace; it leaves its bridge and goes down. -/
def setNetns (h : Host) (name netns : String) : Except NetError Host :=
  let source : LinkId := ⟨none, name⟩
  let target : LinkId := ⟨some netns, name⟩
  if !h.netns.contains netns then .error (.notFound .netns netns)
  else if h.links.contains target then .error (.alreadyExists .link name)
  else match h.links[source]? with
    | none => .error (.notFound .link name)
    | some l =>
      let links := redirect (h.links.erase source) l target
      .ok { h with links := links.insert target { l with master := none, adminUp := false } }

def addresses (h : Host) (name : String) : Except NetError (List String) :=
  match h.get? name with
  | some l => .ok l.addresses
  | none => .error (.notFound .link name)

/-- Adds an address to a link of the default namespace; its text must be new there. -/
def addAddress (h : Host) (name address : String) : Except NetError Host :=
  match h.get? name with
  | none => .error (.notFound .link name)
  | some l =>
    if l.addresses.contains address then .error (.alreadyExists .link address)
    else .ok (h.update ⟨none, name⟩ fun l => { l with addresses := l.addresses ++ [address] })

/-- Registers a namespace, which has a loopback from the start. -/
def addNamespace (h : Host) (name : String) : Except NetError Host :=
  if h.netns.contains name then .error (.alreadyExists .netns name)
  else .ok ⟨h.links.insert ⟨some name, "lo"⟩ (.fresh .loopback), h.netns.insert name⟩

/-- Unregisters a namespace and takes away every link inside it. -/
def deleteNamespace (h : Host) (name : String) : Except NetError Host :=
  if !h.netns.contains name then .error (.notFound .netns name)
  else
    let inside := (h.linksIn (some name)).map (·.1)
    .ok (inside.foldl remove { h with netns := h.netns.erase name })

/-- The reply to a change, and the host after it. -/
def change (h : Host) : Except NetError Host → Except NetError Unit × Host
  | .ok h' => (.ok (), h')
  | .error e => (.error e, h)

/-- The reply to a call, and the host after it. -/
def answer (c : NetCall) (h : Host) : Except NetError c.Answer × Host :=
  match c with
  | .link netns name => (h.link netns name, h)
  | .links netns => (.ok (h.records netns), h)
  | .addVeth name peer => h.change (h.addVeth name peer)
  | .addBridge name => h.change (h.addBridge name)
  | .deleteLink name => h.change (h.deleteLink name)
  | .setAdmin netns name up => h.change (h.setAdmin netns name up)
  | .setMaster name master => h.change (h.setMaster name master)
  | .setNetns name netns => h.change (h.setNetns name netns)
  | .addresses name => (h.addresses name, h)
  | .addAddress name address => h.change (h.addAddress name address)
  | .namespaces => (.ok h.netns.toList, h)
  | .addNamespace name => h.change (h.addNamespace name)
  | .deleteNamespace name => h.change (h.deleteNamespace name)

end SandboxNet.Host
