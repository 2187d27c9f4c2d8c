import SandboxNet.Lifecycle
import SandboxNet.Simulation.Network
import SandboxNet.Simulation.Polling

/-! A simulated surrounding of a sandbox manager: host, supervisor, images and clock. -/
namespace SandboxNet

/-- How the surroundings answer. A supervisor call may take time. -/
structure Behaviour (φ σ ι : Type) where
  timer : Timer
  faults : FaultSource φ
  supervise : (c : SupervisorCall) → Nanos → σ → c.Reply × Nanos × σ
  image : SandboxName → ι → Except SandboxError String × ι

/-- A call to the supervisor, when it was made, and its reply. -/
structure SupervisorEvent where
  time : Nanos
  call : SupervisorCall
  reply : call.Reply

structure World (φ σ ι : Type) where
  net : NetWorld φ
  supervisor : σ
  images : ι
  clock : Nanos
  log : List SupervisorEvent

namespace World

variable {φ σ ι : Type}

/-- The world after a sleep. -/
def sleep (b : Behaviour φ σ ι) (w : World φ σ ι) (d : Nanos) : World φ σ ι :=
  { w with clock := b.timer.wake w.clock d }

/-- How a call is answered by a clock without end. -/
def answer (b : Behaviour φ σ ι) : (c : LifecycleCall) → World φ σ ι → c.Reply × World φ σ ι
  | .net c, w =>
    let (reply, net) := w.net.answer b.faults c
    (reply, { w with net := net })
  | .supervisor c, w =>
    let (reply, taken, supervisor) := b.supervise c w.clock w.supervisor
    (reply, { w with
      supervisor := supervisor
      clock := w.clock + taken
      log := w.log ++ [⟨w.clock, c, reply⟩] })
  | .image name, w =>
    let (reply, images) := b.image name w.images
    (reply, { w with images := images })
  | .now, w => (w.clock, w)
  | .deadline timeout, w => (w.clock + timeout, w)
  | .sleep d, w => ((), w.sleep b d)

/-- How a call is answered by a clock that has an end: a deadline from there on is not told. -/
def answerInTime (b : Behaviour φ σ ι) :
    (c : LifecycleCall) → World φ σ ι → Except ClockFault c.Reply × World φ σ ι
  | .deadline timeout, w => (deadlineBefore b.timer.limit w.clock timeout, w)
  | c, w =>
    let (reply, w') := answer b c w
    (.ok reply, w')

/-- Carries out a program by a clock without end. -/
def run {α : Type} (b : Behaviour φ σ ι) (p : LifecycleProgram α) (w : World φ σ ι) :
    α × World φ σ ι :=
  p.run (answer b) w

/-- Carries out a program as far as it gets before the end of the clock. -/
def attempt {α : Type} (b : Behaviour φ σ ι) (p : LifecycleProgram α) (w : World φ σ ι) :
    Except ClockFault α × World φ σ ι :=
  Program.attempt (answerInTime b) p w

end World

end SandboxNet
