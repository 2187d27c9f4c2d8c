import SandboxNet.CommandLine.Arguments
import SandboxNet.IpTool
import SandboxNet.Lifecycle
import SandboxNet.Settings
import SandboxNet.Systemd
import SandboxNet.Text

/-! Carrying out a command on a machine: its output, its exit code and its error line. -/
namespace SandboxNet.CommandLine

/-- What a command leaves behind. -/
structure Exit where
  code : Nat
  output : String := ""
  error : Option String := none
  warnings : List String := []
deriving DecidableEq

namespace Exit

def success : Exit := ⟨0, "", none, []⟩

/-- Success or plain failure, without an error line. -/
def ofBool (good : Bool) : Exit := ⟨if good then 0 else 1, "", none, []⟩

/-- Success with lines of output. -/
def print (lines : List String) : Exit := ⟨0, String.join (lines.map (· ++ "\n")), none, []⟩

/-- A failure, with the operation and its causes on one line of the log. -/
def failure (parts : List String) : Exit :=
  ⟨1, "", some (Text.logged (String.intercalate ": " parts)), []⟩

/-- The end of a program that could not go on: nothing is printed. -/
def aborted : Exit := ⟨101, "", none, []⟩

/-- A state on a line; failure if there is nothing to have a state. -/
def ofState (s : LinkState) : Exit :=
  { print [s.label] with code := if s = .notExists then 1 else 0 }

end Exit

/-- Carries out a network program through the `ip` program. -/
def onNetwork {α : Type} (p : NetProgram α) : MachineProgram α :=
  p.interpret (IpTool.answer "ip")

/-- A network operation, its failure reported under a heading. -/
def operation {α : Type} (heading : String) (p : Net α) (exit : α → Exit) :
    MachineProgram Exit := do
  match ← onNetwork p.run with
  | .ok a => return exit a
  | .error e => return .failure (heading :: e.chain)

/-- A network operation that prints nothing. -/
def quietly (heading : String) (p : Net Unit) : MachineProgram Exit :=
  operation heading p fun _ => .success

def runNetns : NetnsCommand → MachineProgram Exit
  | .create name => quietly ("netns create " ++ name) (Namespace.create name)
  | .delete name => quietly ("netns delete " ++ name) (Namespace.delete name)
  | .present name => do return .ofBool (← onNetwork (Namespace.present name))
  | .list => operation "netns list" Namespace.list .print

/-- A text with blanks after it up to a width of fifteen. -/
def column (s : String) : String :=
  s ++ String.ofList (List.replicate (15 - s.length) ' ')

def vethLine (e : VethEnd) : String :=
  column e.name ++ " " ++ e.state.label ++ " peer=" ++ e.peer.getD "-" ++ " master=" ++
    e.master.getD "-"

def runVeth : VethCommand → MachineProgram Exit
  | .create name peer =>
    quietly ("veth create " ++ name ++ " " ++ peer) (Veth.create name peer)
  | .delete name => quietly ("veth delete " ++ name) (Veth.delete name)
  | .deletePair name peer =>
    quietly ("veth delete-pair " ++ name ++ " " ++ peer) (Veth.deletePair name peer)
  | .attach name target =>
    quietly ("veth attach " ++ name ++ " " ++ target) (Veth.attach name target)
  | .detach name _ => quietly ("veth detach " ++ name) (Veth.detach name)
  | .up name => quietly ("veth up " ++ name) (Veth.setUp name true)
  | .down name => quietly ("veth down " ++ name) (Veth.setUp name false)
  | .present name => do return .ofBool (← onNetwork (Veth.present name))
  | .status name => do return .ofState (← onNetwork (Veth.state name))
  | .list true => operation "veth list" Veth.listPairs fun pairs => .print (pairs.map (·.text))
  | .list false => operation "veth list" Veth.list fun ends => .print (ends.map vethLine)
  | .info name => operation ("veth info " ++ name) (Veth.info name) fun i => .print [i.text]

def runBridge : BridgeCommand → MachineProgram Exit
  | .create name address => quietly ("bridge create " ++ name) (Bridge.create name address)
  | .delete name => quietly ("bridge delete " ++ name) (Bridge.delete name)
  | .up name => quietly ("bridge up " ++ name) (Bridge.setUp name true)
  | .down name => quietly ("bridge down " ++ name) (Bridge.setUp name false)
  | .present name => do return .ofBool (← onNetwork (Bridge.present name))
  | .status name => do return .ofState (← onNetwork (Bridge.state name))
  | .list =>
    operation "bridge list" Bridge.list fun bridges =>
      .print (bridges.map fun b => column b.name ++ " " ++ b.state.label)
  | .members name => operation ("bridge members " ++ name) (Bridge.members name) .print
  | .addresses name => operation ("bridge addresses " ++ name) (Bridge.addresses name) .print
  | .attach name veth =>
    quietly ("bridge attach " ++ name ++ " " ++ veth) (Bridge.attachEnd name veth)
  | .detach name veth =>
    quietly ("bridge detach " ++ name ++ " " ++ veth) (Bridge.detachEnd name veth)

def runNet (settings : Settings) : NetCommand → MachineProgram Exit
  | .attach sandbox bridge =>
    let bridge := bridge.getD settings.bridge
    quietly ("net attach " ++ sandbox ++ " to " ++ bridge) (Attachment.attach bridge sandbox)
  | .detach sandbox bridge =>
    let bridge := bridge.getD settings.bridge
    quietly ("net detach " ++ sandbox ++ " from " ++ bridge) (Attachment.detach bridge sandbox)
  | .cleanup sandbox bridge => do
    return .ofBool (← onNetwork (Attachment.cleanup sandbox (bridge.getD settings.bridge)))

/-- A program on a machine that ends early at a deadline its clock cannot tell. -/
abbrev TimedProgram := ExceptT ClockFault MachineProgram

/-- The time that lies a timeout ahead, if the clock gets that far. -/
def deadline (timeout : Nanos) : TimedProgram Nanos := do
  liftExcept (deadlineBefore clockEnd (← MachineProgram.ask .now) timeout)

/-- How the calls of a sandbox manager are carried out on a machine. -/
def answerLifecycle (images : ImageDirectory) : (c : LifecycleCall) → TimedProgram c.Reply
  | .net c => IpTool.answer "ip" c
  | .supervisor c => Systemd.answer Systemd.defaultContainer c
  | .image name => images.ensure name
  | .now => MachineProgram.ask .now
  | .deadline timeout => deadline timeout
  | .sleep d => MachineProgram.ask (.sleep d)

/-- An operation of a sandbox manager, its failure reported under a heading. -/
def manage {α : Type} (settings : Settings) (heading : String) (p : Lifecycle α)
    (exit : α → Exit) : MachineProgram Exit := do
  let program : TimedProgram (Except SandboxError α × Tracker) :=
    (p.run.run ∅).interpret (answerLifecycle settings.images)
  match ← program.run with
  | .ok (.ok a, _) => return exit a
  | .ok (.error e, _) => return .failure (heading :: e.chain)
  | .error .outOfRange => return .aborted

def runSandbox (settings : Settings) (c : SandboxCommand) : MachineProgram Exit :=
  match Manager.ofConfig settings.config with
  | .error e => return .failure e.chain
  | .ok m =>
    match c with
    | .start name => manage settings ("sandbox start " ++ name) (m.start name) fun _ => .success
    | .stop name => manage settings ("sandbox stop " ++ name) (m.stop name) fun _ => .success
    | .status name =>
      manage settings ("sandbox status " ++ name) (Manager.state name) fun s => .print [s.label]
    | .cleanup name => manage settings ("sandbox cleanup " ++ name) (liftM (m.cleanup name)) .ofBool

def runCommand (settings : Settings) : Command → MachineProgram Exit
  | .netns c => runNetns c
  | .veth c => runVeth c
  | .bridge c => runBridge c
  | .net c => runNet settings c
  | .sandbox c => runSandbox settings c

/-- The commands of a group, one a line. -/
def groupHelp (group : Group) : List String :=
  group.leaves.map fun leaf => "  " ++ group.word ++ " " ++ leaf.word

/-- What there is to ask for at some place of the command line. -/
def helpText (path : List String) : List String :=
  let shown : List Group := match path with
    | word :: _ => groups.filter (·.word = word)
    | [] => groups
  "Usage: corral [-v] <group> <command>" :: shown.flatMap groupHelp

/-- Carries out a command line. -/
def run (env : String → Option String) (arguments : List String) : MachineProgram Exit :=
  match Request.ofArguments arguments with
  | .misuse => return ⟨2, "", none, []⟩
  | .version => return .print ["corral 0.1.0"]
  | .help path => return .print (helpText path)
  | .run command => do
    let settings := Settings.ofEnvironment env
    let warnings ← settings.warnings
    let exit ← runCommand settings command
    return { exit with warnings := warnings }

end SandboxNet.CommandLine
