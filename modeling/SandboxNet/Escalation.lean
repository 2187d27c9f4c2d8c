import SandboxNet.Time
import SandboxNet.Program

/-!
Waiting and escalation. A wait polls a check until it passes or a deadline is reached. An
escalation has stages of growing force: each acts once and then waits, and the next one acts only
if that wait ran out.
-/
namespace SandboxNet

/-- What a wait or an escalation asks of its surroundings. -/
inductive PollCall (S : Type) where
  | act (signal : S)
  | check
  | now
  | deadline (timeout : Nanos)
  | sleep (d : Nanos)

/-- A deadline is told as the time it falls on; one that cannot be told gets no reply. -/
@[reducible] def PollCall.Reply {S : Type} : PollCall S → Type
  | .act _ => Unit
  | .check => Bool
  | .now | .deadline _ => Nanos
  | .sleep _ => Unit

@[reducible] def pollInterface (S : Type) : Interface where
  Call := PollCall S
  Reply c := c.Reply

abbrev Polling (S : Type) := Program (pollInterface S)

namespace Polling

variable {S : Type}

def act (signal : S) : Polling S Unit :=
  Program.call (I := pollInterface S) (.act signal)

def check : Polling S Bool :=
  Program.call (I := pollInterface S) .check

def now : Polling S Nanos :=
  Program.call (I := pollInterface S) .now

/-- The time that lies a timeout ahead. -/
def deadline (timeout : Nanos) : Polling S Nanos :=
  Program.call (I := pollInterface S) (.deadline timeout)

def sleep (d : Nanos) : Polling S Unit :=
  Program.call (I := pollInterface S) (.sleep d)

/-- At most `n` checks, an interval apart, until one passes or is over at the deadline or later. -/
def waitFor (deadline interval : Nanos) : Nat → Polling S Bool
  | 0 => return false
  | n + 1 => do
    if ← check then
      return true
    let t ← now
    if deadline ≤ t then
      return false
    sleep (min interval (deadline - t))
    waitFor deadline interval n

/-- Checks at once and then every interval until a check passes or the time is up. Every sleep takes
time, so there are no more of them than nanoseconds in the timeout. -/
def waitUntil (timeout interval : Nanos) : Polling S Bool := do
  waitFor (← deadline timeout) interval (timeout + 1)

end Polling

/-- An action and how long to wait for it to settle things. -/
structure Stage (S : Type) where
  signal : S
  timeout : Nanos
deriving DecidableEq

structure Escalation (S : Type) where
  stages : List (Stage S)
  interval : Nanos

/-- How an escalation ended: in some stage, or with every stage run out. -/
inductive Outcome (S : Type) where
  | settled (signal : S) (elapsed : Nanos)
  | exhausted (elapsed : Nanos)
deriving DecidableEq

def Outcome.elapsed {S : Type} : Outcome S → Nanos
  | settled _ elapsed => elapsed
  | exhausted elapsed => elapsed

namespace Escalation

variable {S : Type}

/-- Goes through the stages of an escalation that began at `start`. -/
def runFrom (start interval : Nanos) : List (Stage S) → Polling S (Outcome S)
  | [] => return .exhausted ((← Polling.now) - start)
  | stage :: rest => do
    Polling.act stage.signal
    if ← Polling.waitUntil stage.timeout interval then
      return .settled stage.signal ((← Polling.now) - start)
    runFrom start interval rest

def run (e : Escalation S) : Polling S (Outcome S) := do
  runFrom (← Polling.now) e.interval e.stages

end Escalation

end SandboxNet
