import SandboxNet.Machine
import SandboxNet.Config
import SandboxNet.Text
import SandboxNet.Text.Utf8

/-! A supervisor that works through `systemd-run` and `systemctl`. -/
namespace SandboxNet.Systemd

/-- Where the container program is by default. -/
def defaultContainer : String := "/usr/bin/systemd-nspawn"

/-- The arguments that launch a unit running the container program. -/
def launchArguments (container : String) (spec : UnitSpec) : List String := [
  "--unit=" ++ spec.unit,
  "--property=Type=notify",
  "--property=KillMode=mixed",
  "--property=Delegate=yes",
  "--description=corral sandbox " ++ spec.machine,
  container,
  "--quiet",
  "--keep-unit",
  "--boot",
  "--machine=" ++ spec.machine,
  "--directory=" ++ spec.directory,
  "--network-namespace-path=" ++ spec.netnsPath]

/-- Runs a program for its effect; the error is what it printed, or why it did not start. -/
def run (program : String) (arguments : List String) :
    MachineProgram (Except String (Except String Unit)) := do
  match ← MachineProgram.ask (.execute program arguments) with
  | .error reason => return .error reason
  | .ok output =>
    if output.succeeded then
      return .ok (.ok ())
    else
      return .ok (.error (Text.trim (Text.ofUtf8 output.stderr)))

/-- Runs the control program; the error says why it failed or did not start. -/
def control (arguments : List String) : MachineProgram (Except String Unit) := do
  match ← run "systemctl" arguments with
  | .ok result => return result
  | .error reason => return .error reason

def launch (container : String) (spec : UnitSpec) : MachineProgram (Except SandboxError Unit) := do
  match ← run "systemd-run" (launchArguments container spec) with
  | .error reason => return .error (.launchFailed ("systemd-run: " ++ reason))
  | .ok (.error printed) => return .error (.launchFailed (spec.unit ++ ": " ++ printed))
  | .ok (.ok ()) => return .ok ()

def signalArguments (unit : String) : StopSignal → List String
  | .graceful => ["stop", "--no-block", unit]
  | .terminate => ["kill", "--signal=SIGTERM", unit]
  | .kill => ["kill", "--signal=SIGKILL", unit]

def signal (unit : String) (s : StopSignal) : MachineProgram (Except SandboxError Unit) := do
  match ← control (signalArguments unit s) with
  | .ok () => return .ok ()
  | .error reason =>
    return .error (.supervisor (s.label ++ " " ++ unit ++ ": " ++ reason))

/-- Stops a unit and clears its failure. A unit that is not loaded is stopped already. -/
def release (unit : String) : MachineProgram (Except SandboxError Unit) := do
  match ← control ["stop", unit] with
  | .error reason =>
    if !Text.contains "not loaded".toList reason.toList then
      return .error (.supervisor ("stop " ++ unit ++ ": " ++ reason))
  | .ok () => pure ()
  let _ ← control ["reset-failed", unit]
  return .ok ()

/-- How a call to the supervisor is carried out. -/
def answer (container : String) : (c : SupervisorCall) → MachineProgram c.Reply
  | .launch spec => launch container spec
  | .isActive unit => do
    return (← control ["is-active", "--quiet", unit]).isOk
  | .signal unit s => signal unit s
  | .release unit => release unit

end SandboxNet.Systemd
