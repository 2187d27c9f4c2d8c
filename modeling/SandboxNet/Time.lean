import SandboxNet.Text

/-! Times and durations in nanoseconds, and the end of the clock. -/
namespace SandboxNet

/-- A point in time, or the length of a stretch of it. -/
abbrev Nanos := Nat

def millis (n : Nat) : Nanos :=
  1000000 * n

def seconds (n : Nat) : Nanos :=
  1000000000 * n

/-- No duration is longer: its seconds are unsigned, of 64 bits. -/
def longestDuration : Nanos :=
  seconds 0x10000000000000000 - 1

/-- The clock of a machine tells earlier times only: its seconds are signed, of 64 bits. -/
def clockEnd : Nanos :=
  seconds 0x8000000000000000

/-- A deadline lies beyond the end of the clock. -/
inductive ClockFault where
  | outOfRange
deriving DecidableEq

/-- The time that lies a timeout ahead, on a clock that tells only times before `limit`. -/
def deadlineBefore (limit now timeout : Nanos) : Except ClockFault Nanos :=
  if now + timeout < limit then .ok (now + timeout) else .error .outOfRange

/-- The first tick from a time on. -/
def tickFrom (tick t : Nanos) : Nanos :=
  (t + tick - 1) / tick * tick

theorem le_tickFrom {tick : Nanos} (htick : 0 < tick) (t : Nanos) : t ≤ tickFrom tick t := by
  have hsum := Nat.div_add_mod (t + tick - 1) tick
  have hrest := Nat.mod_lt (t + tick - 1) htick
  rw [Nat.mul_comm] at hsum
  rw [tickFrom]
  unfold Nanos at *
  omega

/-- The decimal places of a fraction of a power of ten, without zeros at the end. -/
def decimalPlaces (places n : Nat) : List Char :=
  let digits := (List.range places).map fun i => Nat.digitChar (n / Nat.pow 10 i % 10)
  (digits.dropWhile (· = '0')).reverse

/-- A duration in a unit of so many decimal places. -/
def inUnit (places : Nat) (d : Nanos) : String :=
  let whole := Nat.pow 10 places
  let fraction := decimalPlaces places (d % whole)
  Text.natText (d / whole) ++ String.ofList (if fraction.isEmpty then [] else '.' :: fraction)

/-- A duration in its largest fitting unit. -/
def durationText (d : Nanos) : String :=
  if d < 1000 then inUnit 0 d ++ "ns"
  else if d < millis 1 then inUnit 3 d ++ "µs"
  else if d < seconds 1 then inUnit 6 d ++ "ms"
  else inUnit 9 d ++ "s"

end SandboxNet
