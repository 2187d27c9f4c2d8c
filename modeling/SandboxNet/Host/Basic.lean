import SandboxNet.NetCall
import Std.Data.ExtTreeMap
import Std.Data.ExtTreeSet

/-!
The simulated host: a table of links and a set of registered namespaces. A link is found by its
namespace and name; the default namespace comes first, the others in byte order.
-/
namespace SandboxNet

/-- Where a link is: `none` is the default namespace. -/
structure LinkId where
  netns : Option String
  name : String
deriving DecidableEq

instance : Ord LinkId :=
  ⟨compareLex (compareOn LinkId.netns) (compareOn LinkId.name)⟩

instance : Std.TransOrd LinkId :=
  inferInstanceAs (Std.TransCmp (compareLex (compareOn LinkId.netns) (compareOn LinkId.name)))

instance : Std.LawfulEqOrd LinkId where
  compare_self := Std.ReflCmp.compare_self
  eq_of_compare := by
    intro a b h
    have h : compareLex (compareOn LinkId.netns) (compareOn LinkId.name) a b = .eq := h
    obtain ⟨hn, hm⟩ := compareLex_eq_eq.mp h
    cases a
    cases b
    simp_all [compareOn]

/-- What a link is. A veth end knows where its other end is and no other link has one, so that the
kind of a link and its peer, which are both read off this field, cannot disagree. -/
inductive Device where
  | veth (peer : LinkId)
  | bridge
  | loopback
deriving DecidableEq

structure Link where
  device : Device
  adminUp : Bool
  master : Option String
  addresses : List String
deriving DecidableEq

/-- A link as it is created: down, on its own and without addresses. -/
def Link.fresh (device : Device) : Link :=
  ⟨device, false, none, []⟩

def Link.kind (l : Link) : LinkKind :=
  match l.device with
  | .veth _ => .veth
  | .bridge => .bridge
  | .loopback => .loopback

def Link.peer (l : Link) : Option LinkId :=
  match l.device with
  | .veth peer => some peer
  | _ => none

abbrev LinkTable := Std.ExtTreeMap LinkId Link

structure Host where
  links : LinkTable
  netns : Std.ExtTreeSet String

namespace Host

/-- A host without any link. -/
def bare : Host :=
  ⟨∅, ∅⟩

/-- A host that has its loopback and nothing else. -/
def initial : Host :=
  ⟨(∅ : LinkTable).insert ⟨none, "lo"⟩ (.fresh .loopback), ∅⟩

/-- The link of this name in the default namespace. -/
def get? (h : Host) (name : String) : Option Link :=
  h.links[(⟨none, name⟩ : LinkId)]?

/-- The links of one namespace in order of name. -/
def linksIn (h : Host) (netns : Option String) : List (LinkId × Link) :=
  h.links.toList.filter (·.1.netns = netns)

/-- Operational state, following members of members no deeper than `depth`. A link that is not up is
down. A veth end needs its other end up, wherever that is. A bridge needs a member that is up. -/
def stateWithin (h : Host) (depth : Nat) (id : LinkId) (l : Link) : LinkState :=
  if !l.adminUp then .down
  else match l.device with
    | .loopback => .unknown
    | .veth peer =>
      if h.links[peer]?.any (·.adminUp) then .up else .lowerLayerDown
    | .bridge =>
      match depth with
      | 0 => .down
      | depth + 1 =>
        if h.links.toList.any fun (other, member) =>
            other.netns = id.netns && member.master = some id.name &&
              h.stateWithin depth other member = .up
        then .up else .down

/-- Operational state. A chain of members has no more bridges than there are links. -/
def state (h : Host) (id : LinkId) (l : Link) : LinkState :=
  h.stateWithin h.links.size id l

/-- What the host reports about a link. -/
def record (h : Host) (id : LinkId) (l : Link) : LinkRecord where
  name := id.name
  kind := l.kind
  adminUp := l.adminUp
  state := h.state id l
  master := l.master
  peer := (l.peer.filter (·.netns = id.netns)).map (·.name)

end Host

end SandboxNet
