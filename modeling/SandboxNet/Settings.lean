import SandboxNet.Config
import SandboxNet.Image
import SandboxNet.Text

/-! Settings of the command line, taken from environment variables. -/
namespace SandboxNet

structure Settings where
  bridge : String := "corral0"
  address : Option String := none
  imageRoot : String := "/var/lib/corral/images"
  bootstrap : Option String := none
  stop : StopPolicy := {}
deriving DecidableEq

namespace Settings

/-- The variables that are looked at. -/
def variableNames : List String := [
  "CORRAL_BRIDGE", "CORRAL_BRIDGE_ADDR", "CORRAL_IMAGE_ROOT", "CORRAL_BOOTSTRAP",
  "CORRAL_STOP_GRACEFUL_SECS", "CORRAL_STOP_TERMINATE_SECS", "CORRAL_STOP_KILL_SECS",
  "CORRAL_POLL_MS"]

/-- A number of 64 bits in an environment variable. What does not read as one is passed over. -/
def number? (env : String → Option String) (key : String) : Option Nat :=
  (env key).bind fun text => Text.readNat (UInt64.size - 1) text.toList

/-- A text in an environment variable that is set and not empty. -/
def text? (env : String → Option String) (key : String) : Option String :=
  (env key).filter (!·.isEmpty)

/-- A duration given as a number of units. -/
def duration (env : String → Option String) (key : String) (unit : Nat → Nanos) (default : Nanos) :
    Nanos :=
  ((number? env key).map unit).getD default

def ofEnvironment (env : String → Option String) : Settings :=
  let plain : Settings := {}
  { bridge := (env "CORRAL_BRIDGE").getD plain.bridge
    address := text? env "CORRAL_BRIDGE_ADDR"
    imageRoot := (env "CORRAL_IMAGE_ROOT").getD plain.imageRoot
    bootstrap := text? env "CORRAL_BOOTSTRAP"
    stop :=
      { graceful := duration env "CORRAL_STOP_GRACEFUL_SECS" seconds plain.stop.graceful
        terminate := duration env "CORRAL_STOP_TERMINATE_SECS" seconds plain.stop.terminate
        kill := duration env "CORRAL_STOP_KILL_SECS" seconds plain.stop.kill
        interval := duration env "CORRAL_POLL_MS" millis plain.stop.interval } }

/-- What a sandbox manager is told. -/
def config (s : Settings) : Config :=
  ⟨s.bridge, s.address, s.stop⟩

/-- Where the images are. -/
def images (s : Settings) : ImageDirectory :=
  ⟨s.imageRoot, s.bootstrap⟩

/-- What looks wrong, `rootFound` telling whether the image root is there. -/
def faults (s : Settings) (rootFound : Bool) : List String :=
  let bridge := if NameRule.bridge.accepts s.bridge then []
    else ["Invalid bridge name: " ++ Text.quoteName s.bridge]
  let address := match s.address.map Address.check with
    | some (.error e) => ["Invalid bridge address: " ++ e.message]
    | _ => []
  let root := if rootFound || s.bootstrap.isSome then []
    else ["Image root not found: " ++ Text.quoteName s.imageRoot]
  let interval := if s.stop.interval = 0 then ["CORRAL_POLL_MS is 0, stop polling will spin"]
    else []
  bridge ++ address ++ root ++ interval

/-- Warnings about settings, as they are logged; none of them stops a command. -/
def warnings (s : Settings) : MachineProgram (List String) := do
  return (s.faults (← MachineProgram.ask (.pathExists s.imageRoot))).map Text.logged

end Settings

end SandboxNet
