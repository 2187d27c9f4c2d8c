import SandboxNet.Machine
import SandboxNet.Simulation.FileTree

/-! A machine whose programs answer from a script, on a simulated clock. -/
namespace SandboxNet

/-- What one command does: its outcome, and the directories it makes whatever its outcome. -/
structure ScriptedReply where
  output : ProcessOutput := ⟨true, [], []⟩
  directories : List String := []

structure ScriptedMachine where
  tools : List String
  replies : List ScriptedReply
  tree : FileTree
  commands : List (List String) := []
  /-- The machine has been up for a day. -/
  clock : Nanos := seconds (24 * 60 * 60)

namespace ScriptedMachine

/-- Runs a command that can be started: the next reply is its outcome. -/
def start (m : ScriptedMachine) (command : List String) : ProcessOutput × ScriptedMachine :=
  let reply := m.replies.headD {}
  let tree := reply.directories.foldl (fun t path => (t.makeDirectories path).2) m.tree
  (reply.output,
    { m with replies := m.replies.tail, tree := tree, commands := m.commands ++ [command] })

/-- No argument of a command can hold a NUL. -/
def holdsNul (texts : List String) : Bool :=
  texts.any fun text => text.toList.contains '\x00'

def answer (c : MachineCall) (m : ScriptedMachine) : c.Reply × ScriptedMachine :=
  match c with
  | .execute program arguments =>
    if holdsNul (program :: arguments) then (.error "nul byte found in provided data", m)
    else if m.tools.contains program then
      let (output, m) := m.start (program :: arguments)
      (.ok output, m)
    else (.error PathFault.missing.message, m)
  | .isDirectory path => (m.tree.isDirectory path, m)
  | .pathExists path => (m.tree.pathExists path, m)
  | .makeDirectories path =>
    let (result, tree) := m.tree.makeDirectories path
    (result.mapError PathFault.message, { m with tree := tree })
  | .now => (m.clock, m)
  | .sleep d => ((), { m with clock := m.clock + d })

def run {α : Type} (p : MachineProgram α) (m : ScriptedMachine) : α × ScriptedMachine :=
  p.run answer m

end ScriptedMachine

end SandboxNet
