import SandboxNet.Escalation
import SandboxNet.Sandbox

/-! The supervisor of units, and what a sandbox manager is told: the bridge, its address, and how to
stop a sandbox. -/
namespace SandboxNet

/-- Ways to stop a unit, from the mildest. -/
inductive StopSignal where
  | graceful
  | terminate
  | kill
deriving DecidableEq

def StopSignal.label : StopSignal → String
  | .graceful => "graceful"
  | .terminate => "SIGTERM"
  | .kill => "SIGKILL"

/-- The place of a signal among the others. -/
def StopSignal.force : StopSignal → Nat
  | .graceful => 1
  | .terminate => 2
  | .kill => 3

/-- All that is needed to launch a unit. -/
structure UnitSpec where
  unit : String
  machine : String
  directory : String
  netnsPath : String
deriving DecidableEq

/-- The unit of a sandbox, bound to the namespace of that sandbox. -/
def UnitSpec.ofSandbox (name : SandboxName) (directory : String) : UnitSpec where
  unit := name.unit
  machine := name.text
  directory := directory
  netnsPath := "/run/netns/" ++ name.wire.netns

inductive SupervisorCall where
  | launch (spec : UnitSpec)
  | isActive (unit : String)
  | signal (unit : String) (signal : StopSignal)
  | release (unit : String)
deriving DecidableEq

/-- An unknown unit counts as inactive; the other calls may fail. -/
@[reducible] def SupervisorCall.Reply : SupervisorCall → Type
  | .isActive _ => Bool
  | .launch _ | .signal .. | .release _ => Except SandboxError Unit

/-- How long each way of stopping is given, and how often to look. -/
structure StopPolicy where
  graceful : Nanos := seconds 5
  terminate : Nanos := seconds 3
  kill : Nanos := seconds 2
  interval : Nanos := millis 500
deriving DecidableEq

def StopPolicy.escalation (p : StopPolicy) : Escalation StopSignal where
  stages := [⟨.graceful, p.graceful⟩, ⟨.terminate, p.terminate⟩, ⟨.kill, p.kill⟩]
  interval := p.interval

/-- The longest that the three stages wait together, if that is no longer than a duration can be. -/
def StopPolicy.total? (p : StopPolicy) : Option Nanos :=
  let sum := p.graceful + p.terminate + p.kill
  if sum ≤ longestDuration then some sum else none

structure Config where
  bridge : String := "corral0"
  address : Option String := none
  stop : StopPolicy := {}
deriving DecidableEq

/-- The first fault of a configuration. -/
def Config.fault? (c : Config) : Option ConfigFault :=
  if !NameRule.bridge.accepts c.bridge then some (.bridgeName c.bridge)
  else match c.address.filter fun text => (Address.parse? text).isNone with
    | some text => some (.bridgeAddress text)
    | none => if c.stop.interval = 0 then some .zeroInterval else none

def Config.check (c : Config) : Except SandboxError Unit :=
  match c.fault? with
  | some fault => .error (.invalidConfig fault)
  | none => .ok ()

end SandboxNet
