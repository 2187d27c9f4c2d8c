import SandboxNet.Escalation

/-!
Waiting on a simulated clock, which moves by what is slept and by what actions and checks take. How
sleeps end is left to a timer.
-/
namespace SandboxNet

/-- How time is kept. No sleep is over early, but one that is longer than `longest` may be cut to
that. -/
structure Timer where
  /-- Deadlines from here on cannot be told. -/
  limit : Nanos
  /-- The end of a sleep that begins at a time and is to last so long. -/
  wake : Nanos → Nanos → Nanos
  longest : Nanos
  positive : 0 < longest
  full : ∀ t d, t + min d longest ≤ wake t d

namespace Timer

/-- Sleeps end on ticks: each at the first one from when it is over. -/
structure KeepsTicks (timer : Timer) (tick : Nanos) : Prop where
  positive : 0 < tick
  wakes : ∀ t d, timer.wake t d = tickFrom tick (t + min d timer.longest)

/-- Thirty years of 365 days. -/
def thirtyYears : Nanos :=
  seconds (30 * 365 * 24 * 60 * 60)

/-- The timer of the simulations. Its sleeps end on whole milliseconds, and none is longer than
thirty years. -/
def simulated : Timer where
  limit := clockEnd
  wake t d := tickFrom (millis 1) (t + min d thirtyYears)
  longest := thirtyYears
  positive := by decide
  full _ _ := le_tickFrom (by decide) _

theorem simulated_keepsTicks : simulated.KeepsTicks (millis 1) where
  positive := by decide
  wakes _ _ := rfl

end Timer

/-- How long actions and checks take and what checks say, by the time and a state of their own. -/
structure PollBehaviour (S σ : Type) where
  timer : Timer
  act : S → Nanos → σ → Nanos × σ
  check : Nanos → σ → Nanos × Bool × σ

/-- An action or a check, from its start to its end. -/
inductive PollEvent (S : Type) where
  | act (start finish : Nanos) (signal : S)
  | check (start finish : Nanos) (passed : Bool)
deriving DecidableEq

structure PollWorld (S σ : Type) where
  clock : Nanos
  state : σ
  log : List (PollEvent S)

namespace PollWorld

variable {S σ : Type}

/-- Every call is answered but for a deadline that cannot be told. -/
def answer (b : PollBehaviour S σ) :
    (c : PollCall S) → PollWorld S σ → Except ClockFault c.Reply × PollWorld S σ
  | .act signal, w =>
    let (taken, state) := b.act signal w.clock w.state
    let finish := w.clock + taken
    (.ok (), ⟨finish, state, w.log ++ [.act w.clock finish signal]⟩)
  | .check, w =>
    let (taken, passed, state) := b.check w.clock w.state
    let finish := w.clock + taken
    (.ok passed, ⟨finish, state, w.log ++ [.check w.clock finish passed]⟩)
  | .now, w => (.ok w.clock, w)
  | .deadline timeout, w => (deadlineBefore b.timer.limit w.clock timeout, w)
  | .sleep d, w => (.ok (), { w with clock := b.timer.wake w.clock d })

/-- Carries out a program as far as it gets. -/
def run {α : Type} (b : PollBehaviour S σ) (p : Polling S α) (w : PollWorld S σ) :
    Except ClockFault α × PollWorld S σ :=
  p.attempt (answer b) w

end PollWorld

/-- When a check passes: from some count, from some time, or some time after a signal. -/
structure Settle where
  polls : Option Nat
  time : Option Nanos
  signal : Option (Int × Nanos)

/-- The number of checks so far, and the signals fired with their times. -/
structure SettleState where
  checks : Nat := 0
  fired : List (Int × Nanos) := []

namespace Settle

/-- Whether a check passes that ends at a time. -/
def passes (s : Settle) (state : SettleState) (now : Nanos) : Bool :=
  s.polls.any (· ≤ state.checks) || s.time.any (· ≤ now) ||
    s.signal.any fun (signal, delay) =>
      state.fired.any fun (fired, time) => fired = signal && time + delay ≤ now

/-- Checks and actions that sleep for a fixed time and settle as described. -/
def behaviour (s : Settle) (actTime checkTime : Nanos) : PollBehaviour Int SettleState where
  timer := .simulated
  act signal now state :=
    (Timer.simulated.wake now actTime - now, { state with fired := state.fired ++ [(signal, now)] })
  check now state :=
    let state := { state with checks := state.checks + 1 }
    let finish := Timer.simulated.wake now checkTime
    (finish - now, s.passes state finish, state)

end Settle

end SandboxNet
