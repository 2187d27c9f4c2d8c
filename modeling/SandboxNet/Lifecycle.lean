import SandboxNet.Config

/-!
The life of a sandbox. Starting wires its network and then launches its unit; stopping escalates
until the unit is gone. Every way out of a start or a stop that does not leave the sandbox running
takes its network away first.
-/
namespace SandboxNet

/-- What a sandbox manager asks of its surroundings. -/
inductive LifecycleCall where
  | net (c : NetCall)
  | supervisor (c : SupervisorCall)
  | image (name : SandboxName)
  | now
  | deadline (timeout : Nanos)
  | sleep (d : Nanos)

@[reducible] def LifecycleCall.Reply : LifecycleCall → Type
  | .net c => Except NetError c.Answer
  | .supervisor c => c.Reply
  | .image _ => Except SandboxError String
  | .now | .deadline _ => Nanos
  | .sleep _ => Unit

@[reducible] def lifecycleInterface : Interface where
  Call := LifecycleCall
  Reply c := c.Reply

abbrev LifecycleProgram := Program lifecycleInterface

/-- A program that keeps track of sandboxes. What it has noted stays noted if it fails. -/
abbrev Tracking := StateT Tracker LifecycleProgram

abbrev Lifecycle := ExceptT SandboxError Tracking

namespace LifecycleProgram

def ask (c : LifecycleCall) : LifecycleProgram c.Reply :=
  Program.call (I := lifecycleInterface) c

/-- Carries out a program over the network of the host. -/
def onHost {α : Type} (p : NetProgram α) : LifecycleProgram α :=
  p.interpret fun c => ask (.net c)

def isActive (unit : String) : LifecycleProgram Bool :=
  ask (.supervisor (.isActive unit))

/-- Stops a unit and forgets it, as far as that works. -/
def release (unit : String) : LifecycleProgram Unit := do
  let _ ← ask (.supervisor (.release unit))

/-- How a wait for a unit to become inactive is carried out. A signal that fails is let go. -/
def answerPoll (unit : String) : (c : PollCall StopSignal) → LifecycleProgram c.Reply
  | .act signal => do
    let _ ← ask (.supervisor (.signal unit signal))
  | .check => do
    return !(← isActive unit)
  | .now => ask .now
  | .deadline timeout => ask (.deadline timeout)
  | .sleep d => ask (.sleep d)

def onUnit {α : Type} (unit : String) (p : Polling StopSignal α) : LifecycleProgram α :=
  p.interpret (answerPoll unit)

end LifecycleProgram

/-- A manager of sandboxes has a configuration without faults. -/
structure Manager where
  config : Config
  sound : config.fault? = none

namespace Manager

open LifecycleProgram

def ofConfig (config : Config) : Except SandboxError Manager :=
  match h : config.fault? with
  | some fault => .error (.invalidConfig fault)
  | none => .ok ⟨config, h⟩

/-- Notes that a sandbox has come into a state. -/
def note (name : SandboxName) (state : SandboxState) : Tracking Unit := do
  let t ← ask .now
  modify fun tracker => tracker.note name state t

/-- Whether the namespace and the host end of a sandbox are both there. -/
def isWired (name : SandboxName) : LifecycleProgram Bool := do
  if ← onHost (Namespace.present name.wire.netns) then
    onHost (Veth.present name.wire.hostVeth)
  else
    return false

/-- Takes away the network of a sandbox and releases its unit; says whether the network is gone. -/
def reclaim (m : Manager) (name : SandboxName) : LifecycleProgram Bool := do
  let clean ← onHost (Attachment.cleanup name.text m.config.bridge)
  release name.unit
  return clean

/-- Whether an earlier run left the host end or the namespace of a sandbox behind. -/
def isStale (name : SandboxName) : LifecycleProgram Bool := do
  if ← onHost (Veth.present name.wire.hostVeth) then
    return true
  else
    onHost (Namespace.present name.wire.netns)

/-- Takes away what an earlier run left behind. -/
def reclaimStale (m : Manager) (name : SandboxName) : LifecycleProgram Unit := do
  if ← isStale name then
    let _ ← onHost (Attachment.cleanup name.text m.config.bridge)
  release name.unit

/-- A network program as a step that may fail. -/
def wiring {α : Type} (p : Net α) : ExceptT SandboxError LifecycleProgram α :=
  ExceptT.mk ((·.mapError .net) <$> onHost p.run)

/-- Whatever goes wrong in a launch is a failed launch. -/
def launchError : SandboxError → SandboxError
  | .launchFailed reason => .launchFailed reason
  | e => .launchFailed e.message

/-- Launches a unit. -/
def launch (spec : UnitSpec) : ExceptT SandboxError LifecycleProgram Unit :=
  ExceptT.mk ((·.mapError launchError) <$> ask (.supervisor (.launch spec)))

/-- Brings a sandbox up: its image, the bridge, its wire, then its unit. -/
def bringUp (m : Manager) (name : SandboxName) : ExceptT SandboxError LifecycleProgram Unit := do
  reclaimStale m name
  let root ← ExceptT.mk (ask (.image name))
  wiring (Bridge.create m.config.bridge m.config.address)
  wiring (Attachment.attach m.config.bridge name.text)
  launch (.ofSandbox name root)

/-- Starts a sandbox that is not both active and wired. -/
def startFresh (m : Manager) (name : SandboxName) : Lifecycle Unit :=
  ExceptT.mk do
    note name .starting
    match ← (bringUp m name).run with
    | .ok () =>
      note name .running
      return .ok ()
    | .error e =>
      let _ ← reclaim m name
      note name .failed
      return .error e

/-- Starts a sandbox. One whose unit is active and whose network is wired is left alone. -/
def start (m : Manager) (text : String) : Lifecycle Unit := do
  let name ← liftExcept (SandboxName.ofText text)
  if ← isActive name.unit then
    if ← isWired name then
      note name .running
      return
  startFresh m name

/-- Stops a sandbox whose unit is active. -/
def stopActive (m : Manager) (name : SandboxName) : Lifecycle Unit := do
  note name .stopping
  let outcome ← onUnit name.unit m.config.stop.escalation.run
  let _ ← reclaim m name
  if ← isActive name.unit then
    note name .failed
    throw (.stillActive name.unit outcome.elapsed)
  note name .stopped

/-- Stops a sandbox. The network is taken away whatever becomes of the unit. -/
def stop (m : Manager) (text : String) : Lifecycle Unit := do
  let name ← liftExcept (SandboxName.ofText text)
  if ← isActive name.unit then
    stopActive m name
  else
    let _ ← reclaim m name
    note name .stopped

/-- Takes away the network and the unit of a sandbox; says whether the network is gone. -/
def cleanup (m : Manager) (text : String) : LifecycleProgram Bool := do
  match SandboxName.ofText text with
  | .ok name => reclaim m name
  | .error _ => return false

/-- The state of a sandbox by what was noted and what is there now. -/
def reconcile (tracked : Option SandboxState) (active wired : Bool) : SandboxState :=
  if active then
    if tracked = some .failed ∨ wired = false then .failed else .running
  else match tracked with
    | none | some .running => .stopped
    | some s => s

/-- The state of a sandbox now. What was noted about it is brought up to date. -/
def state (text : String) : Lifecycle SandboxState := do
  let name ← liftExcept (SandboxName.ofText text)
  let tracked := (← get)[name]?.map (·.state)
  let active ← isActive name.unit
  let wired ← if active then isWired name else pure false
  let now := reconcile tracked active wired
  if tracked.isSome ∧ tracked ≠ some now then
    note name now
  return now

/-- The sandboxes remembered, in order of name. -/
def list : Tracking (List SandboxRecord) := do
  return (← get).sorted

end Manager

end SandboxNet
