import SandboxNet.Proofs.Timing
import Mathlib.Algebra.BigOperators.Ring.List
import Mathlib.Algebra.Ring.Nat

/-! How long an escalation takes if what it looks out for comes some time after an action that is
strong enough: which action is the last one, and at which look the escalation ends. Timeouts and the
time between looks are whole ticks of the timer. -/
namespace SandboxNet

variable {S σ : Type} {tick limit : Nanos}

/-- How long the first `n` stages are given together, in whole ticks. -/
def spent (tick : Nanos) (stages : List (Stage S)) (n : Nat) : Nanos :=
  ((stages.take n).map fun stage => tickFrom tick stage.timeout).sum

@[simp] theorem spent_zero (tick : Nanos) (stages : List (Stage S)) : spent tick stages 0 = 0 := by
  simp [spent]

@[simp] theorem spent_cons (tick : Nanos) (stage : Stage S) (rest : List (Stage S)) (n : Nat) :
    spent tick (stage :: rest) (n + 1) = tickFrom tick stage.timeout + spent tick rest n := by
  simp [spent]

theorem spent_add (tick : Nanos) (stages : List (Stage S)) (i n : Nat) :
    spent tick stages (i + n) = spent tick stages i + spent tick (stages.drop i) n := by
  simp [spent, List.take_add]

theorem spent_mono (tick : Nanos) (stages : List (Stage S)) {i n : Nat} (hle : i ≤ n) :
    spent tick stages i ≤ spent tick stages n := by
  obtain ⟨k, rfl⟩ := Nat.exists_eq_add_of_le hle
  rw [spent_add]
  exact Nat.le_add_right _ _

theorem dvd_spent (tick : Nanos) (stages : List (Stage S)) (n : Nat) :
    tick ∣ spent tick stages n := by
  refine List.dvd_sum fun t ht => ?_
  obtain ⟨stage, -, rfl⟩ := List.mem_map.mp ht
  exact dvd_tickFrom tick stage.timeout

/-- None of the first `n` stages would last beyond the limit if they end before it. -/
theorem not_beyond {stages : List (Stage S)} {start : Nanos} {c i n : Nat} (hle : c + i ≤ n)
    (hlimit : start + spent tick stages n < limit) :
    ¬ limit ≤ start + spent tick stages c + spent tick (stages.drop c) i := by
  rw [Nat.add_assoc, ← spent_add, Nat.not_le]
  exact Nat.lt_of_le_of_lt (Nat.add_le_add_left (spent_mono tick stages hle) start) hlimit

/-- Which signals an escalation sends and when it ends if what it looks out for comes at `time`: in
the first stage by whose end it has come, or never. The end is not told if a stage that has its turn
would last beyond the limit. -/
inductive Lookout (tick limit : Nanos) (stages : List (Stage S)) (interval start time : Nanos) :
    List S → Nanos → Bool → Prop where
  | found {finish : Nanos} (n : Nat)
    (hn : IsLeast {n | n < stages.length ∧ time ≤ start + spent tick stages (n + 1)} n)
    (hfinish : IsLeast {t | t ∈ grid (start + spent tick stages n)
      (start + spent tick stages (n + 1)) interval ∧ time ≤ t} finish) :
    Lookout tick limit stages interval start time ((stages.take (n + 1)).map (·.signal)) finish true
  | missed (hmissed : ∀ n < stages.length, start + spent tick stages (n + 1) < time) :
    Lookout tick limit stages interval start time (stages.map (·.signal))
      (start + spent tick stages stages.length) true
  | untold {sent : List S} {finish : Nanos} (n : Nat) (hn : n < stages.length)
    (hmissed : ∀ i < n, start + spent tick stages (i + 1) < time)
    (huntold : limit ≤ start + spent tick stages (n + 1)) :
    Lookout tick limit stages interval start time sent finish false

/-- The first look from some time on, counted from an earlier time. -/
theorem first_look_add {c start deadline interval time finish : Nanos}
    (hs : start ≤ deadline) (h : IsLeast
      {t | t ∈ grid (c + start) (c + deadline) interval ∧ c + time ≤ t} finish) :
    ∃ t, finish = c + t ∧ IsLeast {t | t ∈ grid start deadline interval ∧ time ≤ t} t := by
  have hc : c ≤ finish :=
    Nat.le_trans (Nat.le_add_right c start) (le_of_mem_grid (Nat.add_le_add_left hs c) h.1.1)
  obtain ⟨t, rfl⟩ := Nat.exists_eq_add_of_le hc
  refine ⟨t, rfl, ⟨(add_mem_grid c).mp h.1.1, Nat.add_le_add_iff_left.mp h.1.2⟩, ?_⟩
  rintro t' ⟨ht', hle⟩
  exact Nat.add_le_add_iff_left.mp (h.2 ⟨(add_mem_grid c).mpr ht', Nat.add_le_add_left hle c⟩)

namespace Lookout

variable {stage : Stage S} {interval start time finish : Nanos} {sent : List S} {told : Bool}

theorem here (rest : List (Stage S)) (hfinish : IsLeast
    {t | t ∈ grid start (start + tickFrom tick stage.timeout) interval ∧ time ≤ t} finish) :
    Lookout tick limit (stage :: rest) interval start time [stage.signal] finish true := by
  refine .found 0 ⟨⟨Nat.zero_lt_succ _, ?_⟩, fun _ _ => Nat.zero_le _⟩ ?_
  · rw [spent_cons, spent_zero, Nat.add_zero]
    exact Nat.le_trans hfinish.1.2 (le_deadline_of_mem_grid hfinish.1.1)
  · rw [spent_cons, spent_zero, spent_zero, Nat.add_zero, Nat.add_zero]
    exact hfinish

/-- One more stage in front, which ends too early. -/
theorem later {rest : List (Stage S)} (hlate : start + tickFrom tick stage.timeout < time)
    (h : Lookout tick limit rest interval (start + tickFrom tick stage.timeout) time sent finish
      told) :
    Lookout tick limit (stage :: rest) interval start time (stage.signal :: sent) finish told := by
  have hspent : ∀ n, start + spent tick (stage :: rest) (n + 1) =
      start + tickFrom tick stage.timeout + spent tick rest n := by
    intro n
    rw [spent_cons, Nat.add_assoc]
  have hearlier : ∀ {n : Nat}, (∀ i < n,
      start + tickFrom tick stage.timeout + spent tick rest (i + 1) < time) →
      ∀ i < n + 1, start + spent tick (stage :: rest) (i + 1) < time := by
    intro n hmissed i hi
    rw [hspent]
    cases i with
    | zero => exact (spent_zero tick rest).symm ▸ hlate
    | succ i => exact hmissed i (Nat.lt_of_succ_lt_succ hi)
  cases h with
  | found n hn hfinish =>
    refine .found (n + 1) ⟨⟨Nat.succ_lt_succ hn.1.1, ?_⟩, ?_⟩ ?_
    · rw [hspent]
      exact hn.1.2
    · rintro (_ | i) ⟨hlt, hle⟩
      · rw [hspent, spent_zero] at hle
        exact absurd hle (Nat.not_le.mpr hlate)
      · rw [hspent] at hle
        exact Nat.succ_le_succ (hn.2 ⟨Nat.lt_of_succ_lt_succ hlt, hle⟩)
    · rw [hspent, hspent]
      exact hfinish
  | missed hmissed =>
    rw [← hspent]
    exact .missed (hearlier hmissed)
  | untold n hn hmissed huntold =>
    exact .untold (n + 1) (Nat.succ_lt_succ hn) (hearlier hmissed) (hspent _ ▸ huntold)

variable {stages : List (Stage S)} {c n : Nat} {delay : Nanos}

/-- A look-out that begins with the stage after the `c`th and finds what it looks out for. -/
theorem in_time
    (h : Lookout tick limit (stages.drop c) interval (start + spent tick stages c)
      (start + spent tick stages c + delay) sent finish told)
    (hn : IsLeast {n | c < n ∧ n ≤ stages.length ∧ delay ≤ spent tick (stages.drop c) (n - c)} n)
    (hlimit : start + spent tick stages n < limit) :
    told = true ∧ (stages.take c).map (·.signal) ++ sent = (stages.take n).map (·.signal) ∧
      start + spent tick stages c + delay ≤ finish ∧
      ∃ t, finish = start + t ∧ IsLeast {t | t ∈ grid (spent tick stages (n - 1))
        (spent tick stages n) interval ∧ spent tick stages c + delay ≤ t} t := by
  obtain ⟨j, rfl⟩ : ∃ j, n = c + (j + 1) := Nat.exists_eq_add_of_lt hn.1.1
  obtain ⟨⟨-, hlength, hdelay⟩, hleast⟩ := hn
  rw [Nat.add_sub_cancel_left] at hdelay
  cases h with
  | missed hmissed =>
    have hj := hmissed j (by rw [List.length_drop]; omega)
    exact absurd (Nat.add_lt_add_iff_left.mp hj) (Nat.not_lt.mpr hdelay)
  | untold i hi hmissed huntold =>
    rcases Nat.lt_or_ge j i with hlt | hle
    · exact absurd (Nat.add_lt_add_iff_left.mp (hmissed j hlt)) (Nat.not_lt.mpr hdelay)
    · -- a stage before the one that finds it would have to last beyond the limit
      exact absurd huntold
        (not_beyond (Nat.add_le_add_left (Nat.succ_le_succ hle) c) hlimit)
  | found i hi hfinish =>
    -- both stages are the first by whose end there is time enough
    have hij : i = j := by
      have hle : i ≤ j := hi.2 ⟨by rw [List.length_drop]; omega, Nat.add_le_add_left hdelay _⟩
      have hlt := hi.1.1
      rw [List.length_drop] at hlt
      have hge : c + (j + 1) ≤ c + (i + 1) := by
        refine hleast ⟨by omega, by omega, ?_⟩
        rw [Nat.add_sub_cancel_left]
        exact Nat.add_le_add_iff_left.mp hi.1.2
      omega
    subst hij
    refine ⟨rfl, by rw [List.take_add (i := c), List.map_append], hfinish.1.2, ?_⟩
    have hle := spent_mono tick stages (Nat.le_succ (c + i))
    rw [Nat.add_assoc start, Nat.add_assoc start, ← spent_add, ← spent_add,
      Nat.add_assoc start] at hfinish
    exact first_look_add hle hfinish

/-- A look-out that begins with the stage after the `c`th and ends too early. -/
theorem too_late
    (h : Lookout tick limit (stages.drop c) interval (start + spent tick stages c)
      (start + spent tick stages c + delay) sent finish told) (hc : c < stages.length)
    (hnone : ∀ n, c < n → n ≤ stages.length → spent tick (stages.drop c) (n - c) < delay)
    (hlimit : start + spent tick stages stages.length < limit) :
    told = true ∧ (stages.take c).map (·.signal) ++ sent = stages.map (·.signal) ∧
      finish = start + spent tick stages stages.length ∧
      finish < start + spent tick stages c + delay := by
  cases h with
  | found i hi hfinish =>
    have hlt := hi.1.1
    rw [List.length_drop] at hlt
    have hi' := hnone (c + (i + 1)) (by omega) (by omega)
    rw [Nat.add_sub_cancel_left] at hi'
    exact absurd (Nat.add_le_add_iff_left.mp hi.1.2) (Nat.not_le.mpr hi')
  | untold i hi hmissed huntold =>
    rw [List.length_drop] at hi
    have hle : c + (i + 1) ≤ stages.length := by omega
    exact absurd huntold (not_beyond hle hlimit)
  | missed hmissed =>
    have hlength : c + (stages.drop c).length = stages.length := by
      rw [List.length_drop]
      omega
    refine ⟨rfl, ?_, ?_, Nat.add_lt_add_left ?_ _⟩
    · rw [← List.map_append, List.take_append_drop]
    · rw [Nat.add_assoc, ← spent_add, hlength]
    · rw [List.length_drop]
      exact hnone stages.length hc (Nat.le_refl _)

end Lookout

/-- What is acted on dies. An action that it heeds sets the time of its death unless that is set
already; nothing else does. A check passes from then on, and neither takes time. -/
structure Mortal (b : PollBehaviour S σ) (heeds : S → Bool) (delay : Nanos)
    (fate : σ → Option Nanos → Prop) : Prop where
  acted : ∀ signal t {x death}, fate x death → (b.act signal t x).1 = 0 ∧
    fate (b.act signal t x).2 (if heeds signal then some (death.getD (t + delay)) else death)
  checked : ∀ {t x death}, fate x death → (b.check t x).1 = 0 ∧
    (b.check t x).2.1 = death.any (· ≤ t) ∧ fate (b.check t x).2.2 death

section Escalations

variable {b : PollBehaviour S σ} {heeds : S → Bool} {delay interval timeout : Nanos}
  {fate : σ → Option Nanos → Prop} {death : Option Nanos} {w w' : PollWorld S σ}
  {stages : List (Stage S)} {logs : List (StageLog S)} {r : Except ClockFault (Option S)}

theorem Mortal.act (hb : Mortal b heeds delay fate) (hx : fate w.state death) (signal : S) :
    (w.acted b signal).clock = w.clock ∧ fate (w.acted b signal).state
      (if heeds signal then some (death.getD (w.clock + delay)) else death) := by
  obtain ⟨htaken, hfate⟩ := hb.acted signal w.clock hx
  exact ⟨PollWorld.clock_acted htaken, hfate⟩

theorem Mortal.act_heeded {signal : S} {time : Nanos} (hb : Mortal b heeds delay fate)
    (hx : fate w.state death) (hs : heeds signal = true)
    (htime : death.getD (w.clock + delay) = time) :
    (w.acted b signal).clock = w.clock ∧ fate (w.acted b signal).state (some time) := by
  obtain ⟨hclock, hfate⟩ := hb.act hx signal
  rw [hs, if_pos rfl, htime] at hfate
  exact ⟨hclock, hfate⟩

section OnTicks

variable (hb : Mortal b heeds delay fate) (hticks : b.timer.KeepsTicks tick) (hi : 0 < interval)
include hb hticks hi

/-- A wait passes if the death falls no later than its end, at the first look from then on. -/
theorem Mortal.wait {passed : Bool} {checks : List Check} (hw : tick ∣ w.clock)
    (hx : fate w.state death) (wait : Waits b (w.clock + timeout) interval w checks passed w') :
    fate w'.state death ∧
      (passed = true ∧ IsLeast {t | t ∈ grid w.clock (w.clock + tickFrom tick timeout)
        (tickFrom tick (min interval b.timer.longest)) ∧ death.any (· ≤ t) = true} w'.clock ∨
      passed = false ∧ w'.clock = w.clock + tickFrom tick timeout ∧
        death.any (· ≤ w.clock + tickFrom tick timeout) = false) := by
  have hend := wait.ends_at_first hticks (fun _ _ hx => hb.checked hx) hx
  have hlongest := Nat.lt_min.mpr ⟨hi, b.timer.positive⟩
  have hlast := lastLook_mem hticks.positive hlongest (w.clock + timeout) w.clock
  rw [lastLook_add hticks.positive hw] at hend hlast
  rw [looks_eq_grid hticks.positive hw (Nat.le_add_right _ _),
    tickFrom_add hticks.positive hw] at hend hlast
  obtain ⟨hfate, hpassed | ⟨hr, hclock, hnone⟩⟩ := hend
  · exact ⟨hfate, Or.inl hpassed⟩
  · exact ⟨hfate, Or.inr ⟨hr, hclock, hnone _ hlast⟩⟩

/-- Stages whose action is not heeded run out, every one. -/
theorem Mortal.unheeded {weak strong : List (Stage S)}
    (hweak : ∀ stage ∈ weak, heeds stage.signal = false)
    (he : Escalates b interval (weak ++ strong) w logs r w') (hw : tick ∣ w.clock)
    (hx : fate w.state none) (hlimit : w.clock + spent tick weak weak.length < b.timer.limit) :
    ∃ w₁ before after, Escalates b interval strong w₁ after r w' ∧ fate w₁.state none ∧
      w₁.clock = w.clock + spent tick weak weak.length ∧ logs = before ++ after ∧
      before.map (·.signal) = weak.map (·.signal) := by
  induction weak generalizing w logs with
  | nil => exact ⟨w, [], logs, he, hx, rfl, rfl, rfl⟩
  | cons stage weak ih =>
    obtain ⟨hclock, hfate⟩ := hb.act hx stage.signal
    rw [hweak stage (List.mem_cons_self ..)] at hfate
    rw [List.length_cons, spent_cons, ← Nat.add_assoc] at hlimit
    have hw' : tick ∣ (w.acted b stage.signal).clock := hclock.symm ▸ hw
    cases he with
    | settled wait =>
      obtain ⟨-, ⟨-, hleast⟩ | ⟨hr, -⟩⟩ := hb.wait hticks hi hw' hfate wait
      · cases hleast.1.2
      · cases hr
    | brokeOff untold =>
      have hle := le_tickFrom hticks.positive stage.timeout
      rw [hclock] at untold
      unfold Nanos at *
      omega
    | ranOut wait told next =>
      obtain ⟨hfate₁, ⟨hr, -⟩ | ⟨-, hclock₁, -⟩⟩ := hb.wait hticks hi hw' hfate wait
      · cases hr
      rw [hclock] at hclock₁
      have hw₁ : tick ∣ w.clock + tickFrom tick stage.timeout :=
        Nat.dvd_add hw (dvd_tickFrom _ _)
      obtain ⟨w₂, before, after, he₂, hfate₂, hclock₂, rfl, hsignals⟩ :=
        ih (fun stage hs => hweak stage (List.mem_cons_of_mem _ hs)) next (hclock₁ ▸ hw₁) hfate₁
          (hclock₁ ▸ hlimit)
      refine ⟨w₂, _ :: before, after, he₂, hfate₂, ?_, rfl, congrArg (stage.signal :: ·) hsignals⟩
      rw [hclock₂, hclock₁, List.length_cons, spent_cons, Nat.add_assoc]

/-- The first of the stages by whose end the death has come is the last one to act, and the
escalation ends at the first look of it after the death. -/
theorem Mortal.heeded {time : Nanos} (he : Escalates b interval stages w logs r w')
    (hstrong : ∀ stage ∈ stages, heeds stage.signal = true) (hw : tick ∣ w.clock)
    (hx : fate w.state death) (htime : death.getD (w.clock + delay) = time) :
    (stages = [] ∧ w' = w ∨ fate w'.state (some time)) ∧
      Lookout tick b.timer.limit stages (tickFrom tick (min interval b.timer.longest)) w.clock time
        (logs.map (·.signal)) w'.clock r.isOk := by
  induction he generalizing death with
  | exhausted => exact ⟨Or.inl ⟨rfl, rfl⟩, .missed nofun⟩
  | @settled stage rest w w' checks wait told =>
    obtain ⟨hclock, hfate⟩ := hb.act_heeded hx (hstrong stage (List.mem_cons_self ..)) htime
    obtain ⟨hfate', ⟨-, hleast⟩ | ⟨hr, -⟩⟩ := hb.wait hticks hi (hclock.symm ▸ hw) hfate wait
    · simp only [Option.any_some, decide_eq_true_eq, hclock] at hleast
      exact ⟨Or.inr hfate', .here rest hleast⟩
    · cases hr
  | @brokeOff stage rest w untold =>
    obtain ⟨hclock, hfate⟩ := hb.act_heeded hx (hstrong stage (List.mem_cons_self ..)) htime
    refine ⟨Or.inr hfate, .untold 0 (Nat.zero_lt_succ _) nofun ?_⟩
    rw [spent_cons, spent_zero, Nat.add_zero, ← hclock]
    exact Nat.le_trans untold (Nat.add_le_add_left (le_tickFrom hticks.positive _) _)
  | @ranOut stage rest w w₁ w' checks logs r wait told next ih =>
    obtain ⟨hclock, hfate⟩ := hb.act_heeded hx (hstrong stage (List.mem_cons_self ..)) htime
    obtain ⟨hfate₁, ⟨hr, -⟩ | ⟨-, hclock₁, hlate⟩⟩ :=
      hb.wait hticks hi (hclock.symm ▸ hw) hfate wait
    · cases hr
    rw [hclock] at hclock₁ hlate
    simp only [Option.any_some, decide_eq_false_iff_not, Nat.not_le] at hlate
    have hw₁ : tick ∣ w.clock + tickFrom tick stage.timeout := Nat.dvd_add hw (dvd_tickFrom _ _)
    obtain ⟨hend, hlook⟩ := ih (fun s hs => hstrong s (List.mem_cons_of_mem _ hs))
      (hclock₁ ▸ hw₁) hfate₁ rfl
    rw [hclock₁] at hlook
    refine ⟨Or.inr ?_, hlook.later hlate⟩
    rcases hend with ⟨-, rfl⟩ | hend
    · exact hfate₁
    · exact hend

end OnTicks

end Escalations

end SandboxNet
