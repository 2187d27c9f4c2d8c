import SandboxNet.CommandLine.Command

/-! The shape of each command: its operands, its options, and the command they make. -/
namespace SandboxNet.CommandLine

/-- Operands in order, values of options by name, and the switches given. -/
structure Given where
  operands : List String := []
  values : List (String × String) := []
  switches : List String := []

def Given.value? (g : Given) (option : String) : Option String :=
  (g.values.find? (·.1 = option)).map (·.2)

/-- A command by its word, with the number of its operands and the names of its options. -/
structure Leaf where
  word : String
  operands : Nat
  options : List String := []
  switches : List String := []
  make : Given → Option Command

structure Group where
  word : String
  leaves : List Leaf

/-- A command with one operand and nothing else. -/
def Leaf.one (word : String) (make : String → Command) : Leaf where
  word := word
  operands := 1
  make g := match g.operands with
    | [a] => some (make a)
    | _ => none

/-- A command with two operands and nothing else. -/
def Leaf.two (word : String) (make : String → String → Command) : Leaf where
  word := word
  operands := 2
  make g := match g.operands with
    | [a, b] => some (make a b)
    | _ => none

/-- A command with one operand and one option. -/
def Leaf.oneWith (word option : String) (make : String → Option String → Command) : Leaf where
  word := word
  operands := 1
  options := [option]
  make g := match g.operands with
    | [a] => some (make a (g.value? option))
    | _ => none

/-- A command without operands. -/
def Leaf.bare (word : String) (command : Command) : Leaf where
  word := word
  operands := 0
  make _ := some command

def groups : List Group := [
  ⟨"netns", [
    .one "create" (.netns <| .create ·),
    .one "delete" (.netns <| .delete ·),
    .one "exists" (.netns <| .present ·),
    .bare "list" (.netns .list)]⟩,
  ⟨"veth", [
    .two "create" (.veth <| .create · ·),
    .one "delete" (.veth <| .delete ·),
    .two "delete-pair" (.veth <| .deletePair · ·),
    .two "attach" (.veth <| .attach · ·),
    .oneWith "detach" "bridge" (.veth <| .detach · ·),
    .one "up" (.veth <| .up ·),
    .one "down" (.veth <| .down ·),
    .one "exists" (.veth <| .present ·),
    .one "status" (.veth <| .status ·),
    { word := "list"
      operands := 0
      switches := ["pairs"]
      make := fun g => some (.veth (.list (g.switches.contains "pairs"))) },
    .one "info" (.veth <| .info ·)]⟩,
  ⟨"bridge", [
    .oneWith "create" "addr" (.bridge <| .create · ·),
    .one "delete" (.bridge <| .delete ·),
    .one "up" (.bridge <| .up ·),
    .one "down" (.bridge <| .down ·),
    .one "exists" (.bridge <| .present ·),
    .one "status" (.bridge <| .status ·),
    .bare "list" (.bridge .list),
    .one "members" (.bridge <| .members ·),
    .one "addresses" (.bridge <| .addresses ·),
    .two "attach" (.bridge <| .attach · ·),
    .two "detach" (.bridge <| .detach · ·)]⟩,
  ⟨"net", [
    .oneWith "attach" "bridge" (.net <| .attach · ·),
    .oneWith "detach" "bridge" (.net <| .detach · ·),
    .oneWith "cleanup" "bridge" (.net <| .cleanup · ·)]⟩,
  ⟨"sandbox", [
    .one "start" (.sandbox <| .start ·),
    .one "stop" (.sandbox <| .stop ·),
    .one "status" (.sandbox <| .status ·),
    .one "cleanup" (.sandbox <| .cleanup ·)]⟩]

end SandboxNet.CommandLine
