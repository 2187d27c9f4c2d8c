import Mathlib.Algebra.Order.Floor.Div
import SandboxNet.Proofs.Timing

/-! The schedule of a wait by a timer that keeps ticks: how many checks it makes, when each of them
starts, and when it gives up. -/
namespace SandboxNet

variable {S σ : Type} {b : PollBehaviour S σ} {tick deadline interval timeout : Nanos}
  {w w' : PollWorld S σ} {checks : List Check} {r : Bool}

open PollWorld

namespace Waits

/-- A wait that may make as many checks as it does is not ended by their number. -/
theorem run_waitFor {n : Nat} (hw : Waits b deadline interval w checks r w')
    (hn : checks.length ≤ n) : run b (Polling.waitFor deadline interval n) w = (.ok r, w') := by
  induction hw generalizing n with
  | passed hc =>
    obtain ⟨n, rfl⟩ := Nat.exists_eq_add_one_of_ne_zero (Nat.ne_zero_of_lt hn)
    rw [run_waitFor_succ, if_pos hc]
  | late hc hd =>
    obtain ⟨n, rfl⟩ := Nat.exists_eq_add_one_of_ne_zero (Nat.ne_zero_of_lt hn)
    rw [run_waitFor_succ, if_neg (Bool.not_eq_true _ ▸ hc), if_pos hd]
  | again hc hd rest ih =>
    obtain ⟨n, rfl⟩ := Nat.exists_eq_add_one_of_ne_zero (Nat.ne_zero_of_lt hn)
    rw [run_waitFor_succ, if_neg (Bool.not_eq_true _ ▸ hc), if_neg (Nat.not_le.mpr hd)]
    exact ih (Nat.le_of_succ_le_succ hn)

theorem first_start {c : Check} (hw : Waits b deadline interval w checks r w')
    (hc : checks[0]? = some c) : c.start = w.clock := by
  cases hw <;> cases hc <;> rfl

theorem next_start {i : Nat} {c next : Check} (hticks : b.timer.KeepsTicks tick)
    (hw : Waits b deadline interval w checks r w') (hc : checks[i]? = some c)
    (hnext : checks[i + 1]? = some next) :
    next.start = tickFrom tick (min (c.finish + min interval b.timer.longest) deadline) := by
  induction hw generalizing i with
  | passed => cases hnext
  | late => cases hnext
  | again _ hd rest ih =>
    cases i with
    | zero =>
      cases hc
      rw [rest.first_start hnext, clock_rested hticks (Nat.le_of_lt hd)]
    | succ i => exact ih hc hnext

theorem start_le (hticks : b.timer.KeepsTicks tick) (hw : Waits b deadline interval w checks r w')
    (hd : w.clock ≤ tickFrom tick deadline) : ∀ c ∈ checks, c.start ≤ tickFrom tick deadline := by
  induction hw with
  | passed => simpa using hd
  | late => simpa using hd
  | @again w _ _ _ _ hearly rest ih =>
    have hnext : ((w.checked b).rested b deadline interval).clock ≤ tickFrom tick deadline := by
      rw [clock_rested hticks (Nat.le_of_lt hearly)]
      exact tickFrom_mono hticks.positive (Nat.min_le_right _ _)
    simpa using ⟨hd, ih hnext⟩

theorem start_le_finish (hw : Waits b deadline interval w checks r w') :
    ∀ c ∈ checks, c.start ≤ c.finish := by
  induction hw with
  | @passed w _ => simpa using le_checked b w
  | @late w _ _ => simpa using le_checked b w
  | @again w _ _ _ _ _ _ ih => simpa using ⟨le_checked b w, ih⟩

theorem start_eq_finish (hw : Waits b deadline interval w checks r w')
    (hcheck : ∀ t x, (b.check t x).1 = 0) : ∀ c ∈ checks, c.start = c.finish := by
  induction hw with
  | passed => simp [clock_checked (hcheck _ _)]
  | late => simp [clock_checked (hcheck _ _)]
  | again _ _ _ ih => simpa [clock_checked (hcheck _ _)] using ih

/-- Whatever the checks take, there are no more of them than sleeps up to the deadline, and one at
the start. -/
theorem length_le {n : Nat} (hw : Waits b deadline interval w checks r w')
    (hn : deadline ≤ w.clock + n * min interval b.timer.longest) : checks.length ≤ n + 1 := by
  induction hw generalizing n with
  | passed => exact Nat.succ_le_succ (Nat.zero_le n)
  | late => exact Nat.succ_le_succ (Nat.zero_le n)
  | @again w _ _ _ _ hd rest ih =>
    have hle := le_checked b w
    cases n with
    | zero =>
      rw [Nat.zero_mul, Nat.add_zero] at hn
      exact absurd (Nat.le_trans hn hle) (Nat.not_le.mpr hd)
    | succ n =>
      refine Nat.succ_le_succ (ih ?_)
      have hslept := le_rested b interval (Nat.le_of_lt hd)
      rw [Nat.add_one_mul] at hn
      unfold Nanos at *
      omega

end Waits

theorem ceilDiv_eq_succ {x q : Nat} (hx : 0 < x) (hq : 0 < q) : x ⌈/⌉ q = (x - q) ⌈/⌉ q + 1 := by
  rw [Nat.ceilDiv_eq_add_pred_div, Nat.ceilDiv_eq_add_pred_div, ← Nat.add_div_right _ hq]
  rcases Nat.lt_or_ge x q with hlt | hle
  · have hone : (x + q - 1) / q = 1 := Nat.div_eq_of_lt_le (by omega) (by omega)
    have hone' : (x - q + q - 1 + q) / q = 1 := Nat.div_eq_of_lt_le (by omega) (by omega)
    rw [hone, hone']
  · congr 1
    omega

/-- From a tick on, checks that take no time are a sleep of whole ticks apart, so there is one for
each sleep up to the last look, and one at the start. -/
theorem Waits.length_eq (hticks : b.timer.KeepsTicks tick) (hcheck : ∀ t x, (b.check t x).1 = 0)
    (hi : 0 < interval) (hw : Waits b deadline interval w checks r w') (hr : r = false)
    (hclock : tick ∣ w.clock) :
    checks.length = (lastLook tick deadline w.clock - w.clock) ⌈/⌉
      tickFrom tick (min interval b.timer.longest) + 1 := by
  have hq : 0 < tickFrom tick (min interval b.timer.longest) :=
    tickFrom_pos hticks.positive (Nat.lt_min.mpr ⟨hi, b.timer.positive⟩)
  induction hw with
  | passed => cases hr
  | late hc hd =>
    rw [clock_checked (hcheck _ _)] at hd
    rw [lastLook_of_le tick hd, Nat.sub_self, zero_ceilDiv]
    rfl
  | @again w _ checks _ hc hd rest ih =>
    have hnext := clock_next interval hticks (hcheck w.clock w.state) hd
    rw [clock_checked (hcheck _ _)] at hd
    have hlast := lastLook_of_lt tick hd
    have hlook : nextLook tick deadline (min interval b.timer.longest) w.clock =
        min (w.clock + tickFrom tick (min interval b.timer.longest)) (tickFrom tick deadline) := by
      rw [nextLook_of_lt hd, tickFrom_min hticks.positive, tickFrom_add hticks.positive hclock]
    have hlater : tick ∣ nextLook tick deadline (min interval b.timer.longest) w.clock :=
      dvd_of_mem_looks hclock ⟨1, rfl⟩
    rw [List.length_cons, ih hr (hnext ▸ hlater), hnext, lastLook_nextLook hticks.positive, hlast,
      hlook]
    have hleft : 0 < tickFrom tick deadline - w.clock :=
      Nat.sub_pos_of_lt (Nat.lt_of_lt_of_le hd (le_tickFrom hticks.positive _))
    rw [ceilDiv_eq_succ hleft hq]
    congr 3
    unfold Nanos at *
    omega

/-- The checks of a wait that was called at `start` and ended at `finish`. The first starts at once,
and each further one on the first tick from an interval after the end of the one before, or from the
deadline if that is sooner. A check that passes is the last one, and the wait ends with it. -/
structure OnSchedule (tick start timeout interval : Nanos) (checks : List Check) (passed : Bool)
    (finish : Nanos) : Prop where
  made : checks ≠ []
  few : checks.length ≤ timeout ⌈/⌉ interval + 1
  first : ∀ c, checks[0]? = some c → c.start = start
  next : ∀ (i : Nat) (c next : Check), checks[i]? = some c → checks[i + 1]? = some next →
    next.start = tickFrom tick (min (c.finish + interval) (start + timeout))
  in_time : ∀ c ∈ checks, c.start ≤ tickFrom tick (start + timeout) ∧ c.start ≤ c.finish
  passes : passed = true ↔ ∃ c ∈ checks, c.passed = true
  decisive : ∀ c ∈ checks.dropLast, c.passed = false
  ends : ∀ last, checks.getLast? = some last → finish = last.finish
  late : passed = false → ∀ last, checks.getLast? = some last → start + timeout ≤ last.finish ∧
    last.finish ≤ tickFrom tick (start + timeout) + (last.finish - last.start)

theorem Waits.onSchedule (hticks : b.timer.KeepsTicks tick) (hi : 0 < interval)
    (hw : Waits b (w.clock + timeout) interval w checks r w') :
    OnSchedule tick w.clock timeout (min interval b.timer.longest) checks r w'.clock := by
  have hstart := hw.start_le hticks
    (Nat.le_trans (Nat.le_add_right _ _) (le_tickFrom hticks.positive _))
  have hlasts := hw.start_le_finish
  have hfew : checks.length ≤ timeout ⌈/⌉ min interval b.timer.longest + 1 := by
    apply hw.length_le
    rw [Nat.mul_comm]
    exact Nat.add_le_add_left ((ceilDiv_le_iff_le_mul
      (Nat.lt_min.mpr ⟨hi, b.timer.positive⟩)).mp (Nat.le_refl _)) _
  obtain ⟨earlier, last, rfl, hearlier, hpassed, hfinish⟩ := hw.last_decides
  refine ⟨by simp, hfew, fun c => hw.first_start, fun i c next => hw.next_start hticks,
    fun c hc => ⟨hstart c hc, hlasts c hc⟩, ⟨?_, ?_⟩, by simpa using hearlier, ?_, ?_⟩
  · rintro rfl
    exact ⟨last, by simp, hpassed⟩
  · rintro ⟨c, hc, hcp⟩
    cases r with
    | true => rfl
    | false =>
      rw [hw.none_passed c hc] at hcp
      cases hcp
  · intro c hc
    cases (List.getLast?_concat ..).symm.trans hc
    exact hfinish.symm
  · intro hr c hc
    cases (List.getLast?_concat ..).symm.trans hc
    have hlate := hw.deadline_le hr
    have hin := hstart last (by simp)
    rw [← hfinish] at hlate
    refine ⟨hlate, ?_⟩
    unfold Nanos at *
    omega

/-- From a tick on, a wait whose checks take no time gives up when its timeout is over in whole
ticks, with a check made just then. -/
theorem Waits.gives_up (hticks : b.timer.KeepsTicks tick) (hi : 0 < interval)
    (hw : Waits b (w.clock + timeout) interval w checks false w')
    (hcheck : ∀ t x, (b.check t x).1 = 0) (hclock : tick ∣ w.clock) :
    w'.clock = w.clock + tickFrom tick timeout ∧
      checks.length =
        tickFrom tick timeout ⌈/⌉ tickFrom tick (min interval b.timer.longest) + 1 ∧
      ∃ last, checks.getLast? = some last ∧ last.start = w.clock + tickFrom tick timeout := by
  have hs := hw.onSchedule hticks hi
  have hlength := hw.length_eq hticks hcheck hi rfl hclock
  have hend := hw.clock_eq_lastLook hticks hcheck
  rw [lastLook_add hticks.positive hclock] at hlength hend
  rw [Nat.add_sub_cancel_left] at hlength
  refine ⟨hend, hlength, ?_⟩
  obtain ⟨last, hlast⟩ := Option.isSome_iff_exists.mp (List.getLast?_isSome.mpr hs.made)
  refine ⟨last, hlast, ?_⟩
  rw [hw.start_eq_finish hcheck last (List.mem_of_getLast? hlast), ← hs.ends last hlast, hend]

/-- A wait whose deadline can be told keeps to its schedule, however long each check takes and
whatever it says, and ends by itself. If checks take no time and none passes, a wait from a tick on
ends with a check when its timeout is over in whole ticks. -/
theorem wait_on_schedule (b : PollBehaviour S σ) (hticks : b.timer.KeepsTicks tick)
    (timeout interval : Nanos) (hi : 0 < interval) (w : PollWorld S σ) :
    let ended := run b (Polling.waitUntil timeout interval) w
    let sleep := min interval b.timer.longest
    (b.timer.limit ≤ w.clock + timeout → ended = (.error .outOfRange, w)) ∧
    (w.clock + timeout < b.timer.limit → ∃ passed, ended.1 = .ok passed ∧
      (∀ n, timeout ⌈/⌉ sleep < n →
        run b (Polling.waitFor (w.clock + timeout) interval n) w = ended) ∧
      ∃ checks : List Check, ended.2.log = w.log ++ checks.map Check.event ∧
        OnSchedule tick w.clock timeout sleep checks passed ended.2.clock ∧
        ((∀ t x, (b.check t x).1 = 0) → tick ∣ w.clock → passed = false →
          ended.2.clock = w.clock + tickFrom tick timeout ∧
          checks.length = tickFrom tick timeout ⌈/⌉ tickFrom tick sleep + 1 ∧
          ∃ last, checks.getLast? = some last ∧ last.start = w.clock + tickFrom tick timeout)) := by
  intro ended sleep
  refine ⟨fun untold => run_waitUntil_untold untold interval, fun told => ?_⟩
  obtain ⟨checks, passed, w', hw, hrun⟩ := waits_run_waitUntil (b := b) hi told
  have hended : ended = (.ok passed, w') := hrun
  rw [hended]
  refine ⟨passed, rfl, fun n hn => hw.run_waitFor (Nat.le_trans (hw.onSchedule hticks hi).few hn),
    checks, hw.log_eq, hw.onSchedule hticks hi, fun hcheck hclock hfailed => ?_⟩
  subst hfailed
  exact hw.gives_up hticks hi hcheck hclock

/-- A last check that starts before the deadline and ends after it, and checks that take no time,
the last of them less than an interval after the one before. -/
theorem wait_on_schedule_slow :
    let never : Settle := ⟨none, none, none⟩
    let slow := run (never.behaviour 0 (millis 7)) (Polling.waitUntil (millis 20) (millis 10))
      ⟨millis 100, {}, []⟩
    let quick := run (.idle Int) (Polling.waitUntil (millis 25) (millis 10)) ⟨millis 100, (), []⟩
    Timer.simulated.KeepsTicks (millis 1) ∧ 0 < millis 10 ∧ millis 1 ∣ millis 100 ∧
    (∃ checks, slow.2.log = checks.map Check.event ∧
      OnSchedule (millis 1) (millis 100) (millis 20) (millis 10) checks false (millis 124)) ∧
    ∃ checks : List Check, quick.2.log = checks.map Check.event ∧ checks.length = 4 ∧
      ∃ last, checks.getLast? = some last ∧ last.start = millis 125 := by
  intro never slow quick
  have hslow : slow.1 = .ok false ∧ slow.2.clock = millis 124 := by decide +kernel
  have hquick : quick.1 = .ok false := by decide +kernel
  have hticks := Timer.simulated_keepsTicks
  obtain ⟨-, htold⟩ := wait_on_schedule (never.behaviour 0 (millis 7)) hticks
    (millis 20) (millis 10) (by decide) ⟨millis 100, {}, []⟩
  obtain ⟨passed, hpassed, -, checks, hlog, hs, -⟩ := htold (by decide)
  obtain ⟨-, htold'⟩ := wait_on_schedule (.idle Int) hticks (millis 25) (millis 10) (by decide)
    ⟨millis 100, (), []⟩
  obtain ⟨passed', hpassed', -, checks', hlog', -, hinstant⟩ := htold' (by decide)
  cases hslow.1.symm.trans hpassed
  cases hquick.symm.trans hpassed'
  obtain ⟨-, hlength, last, hlast, hstart⟩ := hinstant (fun _ _ => rfl) (by decide) rfl
  rw [List.nil_append] at hlog hlog'
  refine ⟨hticks, by decide, by decide, ⟨checks, ?_, ?_⟩, checks', ?_, hlength.trans ?_, last,
    hlast, hstart.trans ?_⟩
  · rw [← hlog]
  · rw [← hslow.2]
    exact hs
  · rw [← hlog']
  · decide +kernel
  · decide

/-- The schedule of sleeps that end on the nanosecond and are never cut short, by a clock that tells
every deadline. -/
def WaitsToTheDot (timeout interval : Nanos) : Prop :=
  let ended := run (.idle Int) (Polling.waitUntil timeout interval) ⟨0, (), []⟩
  ∃ passed checks, ended.1 = .ok passed ∧ ended.2.log = checks.map Check.event ∧
    OnSchedule 1 0 timeout interval checks passed ended.2.clock

/-- Half a millisecond is waited for until a whole one is over, an interval of more than thirty
years is cut to thirty, and no check is made before a deadline that cannot be told. -/
theorem waits_not_to_the_dot :
    ¬ WaitsToTheDot 500000 (millis 1) ∧
    ¬ WaitsToTheDot (Timer.thirtyYears + millis 1) (Timer.thirtyYears + millis 1) ∧
    ¬ WaitsToTheDot longestDuration (millis 1) := by
  refine ⟨?_, ?_, ?_⟩
  · rintro ⟨passed, checks, -, hlog, hs⟩
    have hlate : .check (millis 1) (millis 1) false ∈
        (run (.idle Int) (Polling.waitUntil 500000 (millis 1)) ⟨0, (), []⟩).2.log := by
      decide +kernel
    rw [hlog, List.mem_map] at hlate
    obtain ⟨c, hc, hevent⟩ := hlate
    obtain ⟨hstart, -⟩ := PollEvent.check.inj hevent
    exact absurd (hstart ▸ (hs.in_time c hc).1) (by decide)
  · rintro ⟨passed, checks, -, hlog, hs⟩
    have hthree : (run (.idle Int) (Polling.waitUntil (Timer.thirtyYears + millis 1)
        (Timer.thirtyYears + millis 1)) ⟨0, (), []⟩).2.log.length = 3 := by
      decide +kernel
    rw [hlog, List.length_map] at hthree
    have hfew := hs.few
    rw [hthree] at hfew
    exact absurd hfew (by decide +kernel)
  · rintro ⟨passed, checks, hok, -⟩
    have hfault : (run (.idle Int) (Polling.waitUntil longestDuration (millis 1))
        ⟨0, (), []⟩).1 = .error .outOfRange := by
      decide +kernel
    cases hfault.symm.trans hok

end SandboxNet
