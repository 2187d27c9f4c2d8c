import SandboxNet.Simulation.Polling
import Mathlib.Algebra.GroupWithZero.Nat
import Mathlib.Data.Set.Defs
import Mathlib.Logic.Function.Iterate
import Mathlib.Order.Nat

/-! When a wait can look: at its start, and after that on the ticks of the timer, the first of them
from an interval after the look before or from the deadline. -/
namespace SandboxNet

variable {tick deadline interval start s t d : Nanos}

section Ticks

theorem dvd_tickFrom (tick t : Nanos) : tick ∣ tickFrom tick t :=
  Nat.dvd_mul_left _ _

theorem tickFrom_lt (htick : 0 < tick) (t : Nanos) : tickFrom tick t < t + tick := by
  have hle : tickFrom tick t ≤ t + tick - 1 := Nat.div_mul_le_self _ _
  unfold Nanos at *
  omega

/-- No tick from a time on is earlier than the first one. -/
theorem tickFrom_le (htick : 0 < tick) (hs : tick ∣ s) (ht : t ≤ s) : tickFrom tick t ≤ s := by
  obtain ⟨k, rfl⟩ := hs
  have hlt : t + tick - 1 < tick * (k + 1) := by
    rw [Nat.mul_add_one]
    unfold Nanos at *
    omega
  have hk : (t + tick - 1) / tick ≤ k := Nat.le_of_lt_succ (Nat.div_lt_of_lt_mul hlt)
  rw [tickFrom, Nat.mul_comm tick]
  exact Nat.mul_le_mul_right _ hk

theorem tickFrom_of_dvd (htick : 0 < tick) (ht : tick ∣ t) : tickFrom tick t = t :=
  Nat.le_antisymm (tickFrom_le htick ht (Nat.le_refl _)) (le_tickFrom htick t)

theorem tickFrom_mono (htick : 0 < tick) (hle : t ≤ s) : tickFrom tick t ≤ tickFrom tick s :=
  tickFrom_le htick (dvd_tickFrom tick s) (Nat.le_trans hle (le_tickFrom htick s))

theorem tickFrom_min (htick : 0 < tick) (s t : Nanos) :
    tickFrom tick (min s t) = min (tickFrom tick s) (tickFrom tick t) := by
  rcases Nat.le_total s t with hle | hle
  · rw [Nat.min_eq_left hle, Nat.min_eq_left (tickFrom_mono htick hle)]
  · rw [Nat.min_eq_right hle, Nat.min_eq_right (tickFrom_mono htick hle)]

theorem tickFrom_add (htick : 0 < tick) (hs : tick ∣ s) (t : Nanos) :
    tickFrom tick (s + t) = s + tickFrom tick t := by
  have hle := le_tickFrom htick (s + t)
  obtain ⟨r, hr⟩ := Nat.exists_eq_add_of_le (Nat.le_trans (Nat.le_add_right s t) hle)
  refine Nat.le_antisymm ?_ ?_
  · exact tickFrom_le htick (Nat.dvd_add hs (dvd_tickFrom tick t))
      (Nat.add_le_add_left (le_tickFrom htick t) s)
  · rw [hr] at hle ⊢
    have hdvd : tick ∣ r := (Nat.dvd_add_right hs).mp (hr ▸ dvd_tickFrom tick (s + t))
    exact Nat.add_le_add_left (tickFrom_le htick hdvd (Nat.add_le_add_iff_left.mp hle)) s

theorem tickFrom_pos (htick : 0 < tick) (ht : 0 < t) : 0 < tickFrom tick t :=
  Nat.lt_of_lt_of_le ht (le_tickFrom htick t)

end Ticks

namespace Timer

variable {timer : Timer}

theorem moves (timer : Timer) (t : Nanos) (hd : 0 < d) : t < timer.wake t d :=
  Nat.lt_of_lt_of_le (Nat.lt_add_of_pos_right (Nat.lt_min.mpr ⟨hd, timer.positive⟩))
    (timer.full t d)

/-- The end of a sleep that is to last an interval, but to the deadline at most. -/
theorem le_wake (timer : Timer) (hd : t ≤ deadline) :
    min (t + min interval timer.longest) deadline ≤
      timer.wake t (min interval (deadline - t)) := by
  have hfull := timer.full t (min interval (deadline - t))
  unfold Nanos at *
  omega

theorem KeepsTicks.wake_eq (hticks : timer.KeepsTicks tick) (hd : t ≤ deadline) :
    timer.wake t (min interval (deadline - t)) =
      tickFrom tick (min (t + min interval timer.longest) deadline) := by
  rw [hticks.wakes]
  congr 1
  unfold Nanos at *
  omega

end Timer

/-- The look after one that is over at `t`. From the deadline on there is none. -/
def nextLook (tick deadline interval t : Nanos) : Nanos :=
  if deadline ≤ t then t else tickFrom tick (min (t + interval) deadline)

/-- The times of the looks of a wait whose checks take no time. -/
def looks (tick deadline interval start : Nanos) : Set Nanos :=
  {t | ∃ j : Nat, t = (nextLook tick deadline interval)^[j] start}

/-- The time of the look that finds the deadline reached. -/
def lastLook (tick deadline start : Nanos) : Nanos :=
  if deadline ≤ start then start else tickFrom tick deadline

section Looks

theorem mem_looks_iff : t ∈ looks tick deadline interval start ↔
    t = start ∨ t ∈ looks tick deadline interval (nextLook tick deadline interval start) := by
  constructor
  · rintro ⟨j, rfl⟩
    cases j with
    | zero => exact Or.inl rfl
    | succ j => exact Or.inr ⟨j, rfl⟩
  · rintro (rfl | ⟨j, rfl⟩)
    · exact ⟨0, rfl⟩
    · exact ⟨j + 1, rfl⟩

theorem self_mem_looks (tick deadline interval start : Nanos) :
    start ∈ looks tick deadline interval start :=
  ⟨0, rfl⟩

theorem nextLook_of_lt (hd : t < deadline) :
    nextLook tick deadline interval t = tickFrom tick (min (t + interval) deadline) :=
  if_neg (Nat.not_le.mpr hd)

theorem nextLook_of_le (hd : deadline ≤ t) : nextLook tick deadline interval t = t :=
  if_pos hd

theorem le_nextLook (htick : 0 < tick) (t : Nanos) : t ≤ nextLook tick deadline interval t := by
  rcases Nat.lt_or_ge t deadline with hd | hd
  · rw [nextLook_of_lt hd]
    refine Nat.le_trans ?_ (le_tickFrom htick _)
    exact Nat.le_min.mpr ⟨Nat.le_add_right _ _, Nat.le_of_lt hd⟩
  · rw [nextLook_of_le hd]

theorem le_of_mem_looks (htick : 0 < tick) (ht : t ∈ looks tick deadline interval start) :
    start ≤ t := by
  obtain ⟨j, rfl⟩ := ht
  induction j with
  | zero => exact Nat.le_refl _
  | succ j ih =>
    rw [Function.iterate_succ_apply']
    exact Nat.le_trans ih (le_nextLook htick _)

theorem dvd_of_mem_looks (hs : tick ∣ start) (ht : t ∈ looks tick deadline interval start) :
    tick ∣ t := by
  obtain ⟨j, rfl⟩ := ht
  induction j with
  | zero => exact hs
  | succ j ih =>
    rw [Function.iterate_succ_apply', nextLook]
    split
    · exact ih
    · exact dvd_tickFrom _ _

theorem lastLook_of_le (tick : Nanos) (hd : deadline ≤ start) :
    lastLook tick deadline start = start :=
  if_pos hd

theorem lastLook_of_lt (tick : Nanos) (hd : start < deadline) :
    lastLook tick deadline start = tickFrom tick deadline :=
  if_neg (Nat.not_le.mpr hd)

theorem le_lastLook (htick : 0 < tick) (start : Nanos) : start ≤ lastLook tick deadline start := by
  rw [lastLook]
  split
  · exact Nat.le_refl _
  · rename_i hd
    exact Nat.le_trans (Nat.le_of_not_le hd) (le_tickFrom htick _)

/-- The last look comes less than a tick after the deadline. -/
theorem lastLook_le (htick : 0 < tick) (hs : start ≤ deadline) :
    lastLook tick deadline start ≤ deadline + (tick - 1) := by
  rw [lastLook]
  split
  · exact Nat.le_trans hs (Nat.le_add_right _ _)
  · have hlt := tickFrom_lt htick deadline
    unfold Nanos at *
    omega

/-- From a tick on, a timeout is as long as if it were rounded up to whole ticks. -/
theorem lastLook_add (htick : 0 < tick) (hs : tick ∣ start) (timeout : Nanos) :
    lastLook tick (start + timeout) start = start + tickFrom tick timeout := by
  rw [lastLook]
  split
  · rename_i hle
    have hzero : timeout = 0 := by
      unfold Nanos at *
      omega
    rw [hzero, tickFrom_of_dvd htick (Nat.dvd_zero _), Nat.add_zero]
  · exact tickFrom_add htick hs timeout

theorem dvd_lastLook (hs : tick ∣ start) : tick ∣ lastLook tick deadline start := by
  rw [lastLook]
  split
  · exact hs
  · exact dvd_tickFrom _ _

/-- To begin with the second look makes no difference to the last. -/
theorem lastLook_nextLook (htick : 0 < tick) (interval start : Nanos) :
    lastLook tick deadline (nextLook tick deadline interval start) =
      lastLook tick deadline start := by
  rcases Nat.lt_or_ge start deadline with hd | hd
  · rw [nextLook_of_lt hd, lastLook, lastLook, if_neg (Nat.not_le.mpr hd)]
    split
    · rename_i hle
      refine Nat.le_antisymm (tickFrom_mono htick (Nat.min_le_right _ _)) ?_
      exact tickFrom_le htick (dvd_tickFrom _ _) hle
    · rfl
  · rw [nextLook_of_le hd]

theorem lastLook_of_mem (htick : 0 < tick) (ht : t ∈ looks tick deadline interval start) :
    lastLook tick deadline t = lastLook tick deadline start := by
  obtain ⟨j, rfl⟩ := ht
  induction j with
  | zero => rfl
  | succ j ih => rw [Function.iterate_succ_apply', lastLook_nextLook htick, ih]

theorem le_lastLook_of_mem (htick : 0 < tick) (ht : t ∈ looks tick deadline interval start) :
    t ≤ lastLook tick deadline start :=
  lastLook_of_mem htick ht ▸ le_lastLook htick t

/-- A look from the deadline on is the last one. -/
theorem eq_lastLook_of_mem (htick : 0 < tick) (ht : t ∈ looks tick deadline interval start)
    (hd : deadline ≤ t) : t = lastLook tick deadline start :=
  (lastLook_of_le tick hd).symm.trans (lastLook_of_mem htick ht)

theorem lt_nextLook (htick : 0 < tick) (hi : 0 < interval) (hd : t < deadline) :
    t < nextLook tick deadline interval t := by
  rw [nextLook_of_lt hd]
  refine Nat.lt_of_lt_of_le ?_ (le_tickFrom htick _)
  exact Nat.lt_min.mpr ⟨Nat.lt_add_of_pos_right hi, hd⟩

theorem lastLook_mem (htick : 0 < tick) (hi : 0 < interval) (deadline start : Nanos) :
    lastLook tick deadline start ∈ looks tick deadline interval start := by
  -- by the time left to the deadline
  obtain ⟨n, hn⟩ : ∃ n, deadline ≤ start + n := ⟨deadline, Nat.le_add_left _ _⟩
  induction n generalizing start with
  | zero =>
    have hd : deadline ≤ start := hn
    rw [lastLook_of_le tick hd]
    exact self_mem_looks _ _ _ _
  | succ n ih =>
    rcases Nat.lt_or_ge start deadline with hd | hd
    · rw [mem_looks_iff, ← lastLook_nextLook htick interval]
      refine Or.inr (ih _ ?_)
      have hlt := lt_nextLook htick hi hd
      unfold Nanos at *
      omega
    · rw [lastLook_of_le tick hd]
      exact self_mem_looks _ _ _ _

/-- From any time up to the last look there is a look in about an interval: in less than one if both
that time and the first look are on ticks. -/
theorem exists_look (htick : 0 < tick) (hi : 0 < interval) (hs : start ≤ t)
    (ht : t ≤ lastLook tick deadline start) :
    ∃ look ∈ looks tick deadline interval start, t ≤ look ∧
      look < t + interval + (tick - 1) ∧
      (tick ∣ start → tick ∣ t → look < t + interval) := by
  classical
  have hreached : ∃ j : Nat, t ≤ (nextLook tick deadline interval)^[j] start := by
    obtain ⟨j, hj⟩ := lastLook_mem htick hi deadline start
    exact ⟨j, hj ▸ ht⟩
  have hfirst : ∀ i, i < Nat.find hreached → (nextLook tick deadline interval)^[i] start < t :=
    fun i hij => Nat.not_le.mp (Nat.find_min hreached hij)
  have hle := Nat.find_spec hreached
  generalize Nat.find hreached = j at hle hfirst
  refine ⟨_, ⟨j, rfl⟩, hle, ?_⟩
  cases j with
  | zero =>
    have heq : start = t := Nat.le_antisymm hs hle
    rw [Function.iterate_zero_apply, heq]
    unfold Nanos at *
    omega
  | succ j =>
    have hbefore := hfirst j (Nat.lt_succ_self j)
    have hmem : (nextLook tick deadline interval)^[j] start ∈
      looks tick deadline interval start := ⟨j, rfl⟩
    rw [Function.iterate_succ_apply'] at hle ⊢
    generalize (nextLook tick deadline interval)^[j] start = before at hle hbefore hmem ⊢
    have hd : before < deadline := by
      refine Nat.lt_of_not_le fun hd => ?_
      rw [nextLook_of_le hd] at hle
      exact Nat.not_le.mpr hbefore hle
    rw [nextLook_of_lt hd] at hle ⊢
    have hsoon := tickFrom_lt htick (min (before + interval) deadline)
    refine ⟨?_, fun hstart hdvd => ?_⟩
    · unfold Nanos at *
      omega
    · -- ticks that differ do so by a tick at least
      have hgap : before + tick ≤ t := by
        obtain ⟨k, rfl⟩ := dvd_of_mem_looks hstart hmem
        obtain ⟨m, rfl⟩ := hdvd
        rw [← Nat.mul_add_one]
        exact Nat.mul_le_mul_left _ (Nat.lt_of_mul_lt_mul_left hbefore)
      unfold Nanos at *
      omega

end Looks

/-- Every interval from the start, and the deadline. -/
def grid (start deadline interval : Nanos) : Set Nanos :=
  {t | ∃ j : Nat, t = min (start + j * interval) deadline}

/-- From a tick on, looks are as far apart as an interval of whole ticks, and end with the first
tick from the deadline on. -/
theorem looks_eq_grid (htick : 0 < tick) (hs : tick ∣ start) (hd : start ≤ deadline) :
    looks tick deadline interval start =
      grid start (tickFrom tick deadline) (tickFrom tick interval) := by
  have hstep : ∀ j : Nat, (nextLook tick deadline interval)^[j] start =
      min (start + j * tickFrom tick interval) (tickFrom tick deadline) := by
    intro j
    induction j with
    | zero =>
      rw [Nat.zero_mul, Nat.add_zero, Nat.min_eq_left (Nat.le_trans hd (le_tickFrom htick _))]
      rfl
    | succ j ih =>
      have hdvd : tick ∣ start + j * tickFrom tick interval :=
        Nat.dvd_add hs (Nat.dvd_mul_left_of_dvd (dvd_tickFrom tick interval) j)
      rw [Function.iterate_succ_apply', ih, Nat.add_one_mul, ← Nat.add_assoc]
      rcases Nat.lt_or_ge (start + j * tickFrom tick interval) (tickFrom tick deadline) with
        hlt | hge
      · -- a tick before the first one from the deadline on is before the deadline
        have hearly : start + j * tickFrom tick interval < deadline :=
          Nat.lt_of_not_le fun hle => Nat.not_le.mpr hlt (tickFrom_le htick hdvd hle)
        rw [Nat.min_eq_left (Nat.le_of_lt hlt), nextLook_of_lt hearly, tickFrom_min htick,
          tickFrom_add htick hdvd]
      · rw [Nat.min_eq_right hge, nextLook_of_le (le_tickFrom htick _),
          Nat.min_eq_right (Nat.le_trans hge (Nat.le_add_right _ _))]
  ext t
  exact exists_congr fun j => by rw [hstep j]

theorem le_of_mem_grid (hs : start ≤ deadline) (ht : t ∈ grid start deadline interval) :
    start ≤ t := by
  obtain ⟨j, rfl⟩ := ht
  exact Nat.le_min.mpr ⟨Nat.le_add_right _ _, hs⟩

theorem le_deadline_of_mem_grid (ht : t ∈ grid start deadline interval) : t ≤ deadline := by
  obtain ⟨j, rfl⟩ := ht
  exact Nat.min_le_right _ _

theorem add_mem_grid (c : Nanos) :
    c + t ∈ grid (c + start) (c + deadline) interval ↔ t ∈ grid start deadline interval := by
  have hadd : ∀ j : Nat, min (c + start + j * interval) (c + deadline) =
      c + min (start + j * interval) deadline := by
    intro j
    rw [Nat.add_assoc, Nat.add_min_add_left]
  constructor
  · rintro ⟨j, hj⟩
    exact ⟨j, Nat.add_left_cancel (hj.trans (hadd j))⟩
  · rintro ⟨j, rfl⟩
    exact ⟨j, (hadd j).symm⟩

end SandboxNet
