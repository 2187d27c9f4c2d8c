import SandboxNet.Time
import SandboxNet.Program

/-! The machine a command line runs on: its programs, its directories and its clock. -/
namespace SandboxNet

/-- What a program that was started has left. -/
structure ProcessOutput where
  succeeded : Bool
  stdout : List UInt8
  stderr : List UInt8

inductive MachineCall where
  | execute (program : String) (arguments : List String)
  | isDirectory (path : String)
  | pathExists (path : String)
  | makeDirectories (path : String)
  | now
  | sleep (d : Nanos)

/-- The error of a call that fails is the system's own text. -/
@[reducible] def MachineCall.Reply : MachineCall → Type
  | .execute .. => Except String ProcessOutput
  | .isDirectory _ | .pathExists _ => Bool
  | .makeDirectories _ => Except String Unit
  | .now => Nanos
  | .sleep _ => Unit

@[reducible] def machineInterface : Interface where
  Call := MachineCall
  Reply c := c.Reply

abbrev MachineProgram := Program machineInterface

def MachineProgram.ask (c : MachineCall) : MachineProgram c.Reply :=
  Program.call (I := machineInterface) c

end SandboxNet
