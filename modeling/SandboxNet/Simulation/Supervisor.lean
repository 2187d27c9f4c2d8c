import SandboxNet.Simulation.World

/-! A scripted supervisor and a scripted image store. -/
namespace SandboxNet

/-- What becomes of a launch. -/
inductive LaunchScript where
  | succeed
  | succeedInactive
  | fail (error : SandboxError)
deriving DecidableEq

/-- What becomes of a release. -/
inductive ReleaseScript where
  | keep
  | kill
  | fail (error : SandboxError)
deriving DecidableEq

/-- A supervisor with its active units, each with the time of its death if that is set. A signal of
at least the force it obeys makes a unit die after a delay. -/
structure ScriptedSupervisor where
  obeys : Option StopSignal := some .graceful
  delay : Nanos := 0
  launch : LaunchScript := .succeed
  release : ReleaseScript := .keep
  refused : List StopSignal := []
  units : List (String × Option Nanos) := []

namespace ScriptedSupervisor

def isActive (s : ScriptedSupervisor) (unit : String) (now : Nanos) : Bool :=
  s.units.any fun (name, death) => name = unit && !death.any (· ≤ now)

def deactivate (s : ScriptedSupervisor) (unit : String) : ScriptedSupervisor :=
  { s with units := s.units.filter (·.1 ≠ unit) }

/-- Makes a unit active, with no death set. -/
def activate (s : ScriptedSupervisor) (unit : String) : ScriptedSupervisor :=
  { s with units := (unit, none) :: (s.deactivate unit).units }

/-- Sets the death of a unit unless one is set already. -/
def doom (s : ScriptedSupervisor) (unit : String) (death : Nanos) : ScriptedSupervisor :=
  { s with units := s.units.map fun (name, old) =>
      if name = unit then (name, some (old.getD death)) else (name, old) }

/-- Answers a call; no call takes time. -/
def answer (c : SupervisorCall) (now : Nanos) (s : ScriptedSupervisor) :
    c.Reply × Nanos × ScriptedSupervisor :=
  match c with
  | .isActive unit => (s.isActive unit now, 0, s)
  | .launch spec =>
    match s.launch with
    | .succeed => (.ok (), 0, s.activate spec.unit)
    | .succeedInactive => (.ok (), 0, s)
    | .fail e => (.error e, 0, s)
  | .signal unit signal =>
    if s.refused.contains signal then
      (.error (.supervisor (signal.label ++ " refused")), 0, s)
    else if s.obeys.any (·.force ≤ signal.force) then (.ok (), 0, s.doom unit (now + s.delay))
    else (.ok (), 0, s)
  | .release unit =>
    match s.release with
    | .keep => (.ok (), 0, s)
    | .kill => (.ok (), 0, s.deactivate unit)
    | .fail e => (.error e, 0, s)

end ScriptedSupervisor

/-- A store that has every image but the missing ones. -/
structure ScriptedImages where
  missing : List String := []

def ScriptedImages.answer (name : SandboxName) (s : ScriptedImages) :
    Except SandboxError String × ScriptedImages :=
  let path := "/images/" ++ name.text
  (if s.missing.contains name.text then .error (.imageMissing path) else .ok path, s)

/-- A world in which faults, supervisor and images follow scripts. -/
abbrev ScriptedWorld := World (List Fault) ScriptedSupervisor ScriptedImages

namespace ScriptedWorld

def behaviour : Behaviour (List Fault) ScriptedSupervisor ScriptedImages where
  timer := .simulated
  faults := Fault.script
  supervise := ScriptedSupervisor.answer
  image := ScriptedImages.answer

def initial (supervisor : ScriptedSupervisor) (images : ScriptedImages) : ScriptedWorld :=
  ⟨⟨.initial, [], []⟩, supervisor, images, 0, []⟩

end ScriptedWorld

end SandboxNet
