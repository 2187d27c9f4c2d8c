import SandboxNet.Proofs.Waiting

/-! When waits and escalations end by a timer that keeps ticks, if actions and checks take no time
themselves. -/
namespace SandboxNet

variable {S σ : Type} {b : PollBehaviour S σ} {tick deadline interval : Nanos}
  {w w' : PollWorld S σ}

open PollWorld

/-- Nothing but sleep takes time, and no check ever passes. -/
def PollBehaviour.idle (S : Type) : PollBehaviour S Unit where
  timer := .simulated
  act _ _ _ := (0, ())
  check _ _ := (0, false, ())

theorem PollWorld.clock_rested (hticks : b.timer.KeepsTicks tick) (hd : w.clock ≤ deadline) :
    (w.rested b deadline interval).clock =
      tickFrom tick (min (w.clock + min interval b.timer.longest) deadline) :=
  hticks.wake_eq hd

/-- After a check that took no time, the next one is made at the next look. -/
theorem PollWorld.clock_next (interval : Nanos) (hticks : b.timer.KeepsTicks tick)
    (hcheck : (b.check w.clock w.state).1 = 0) (hd : (w.checked b).clock < deadline) :
    ((w.checked b).rested b deadline interval).clock =
      nextLook tick deadline (min interval b.timer.longest) w.clock := by
  rw [clock_rested hticks (Nat.le_of_lt hd)]
  rw [clock_checked hcheck] at hd ⊢
  rw [nextLook_of_lt hd]

namespace Waits

variable {checks : List Check} {r : Bool}

/-- A wait whose checks take no time ends with a look. -/
theorem clock_mem_looks (hticks : b.timer.KeepsTicks tick) (hcheck : ∀ t x, (b.check t x).1 = 0)
    (hw : Waits b deadline interval w checks r w') :
    w'.clock ∈ looks tick deadline (min interval b.timer.longest) w.clock := by
  induction hw with
  | @passed w hc =>
    rw [clock_checked (hcheck _ _)]
    exact self_mem_looks _ _ _ _
  | @late w hc hd =>
    rw [clock_checked (hcheck _ _)]
    exact self_mem_looks _ _ _ _
  | again hc hd rest ih =>
    rw [clock_next _ hticks (hcheck _ _) hd] at ih
    exact mem_looks_iff.mpr (Or.inr ih)

theorem clock_le_lastLook (hticks : b.timer.KeepsTicks tick)
    (hcheck : ∀ t x, (b.check t x).1 = 0) (hw : Waits b deadline interval w checks r w') :
    w'.clock ≤ lastLook tick deadline w.clock :=
  le_lastLook_of_mem hticks.positive (hw.clock_mem_looks hticks hcheck)

theorem clock_eq_lastLook (hticks : b.timer.KeepsTicks tick)
    (hcheck : ∀ t x, (b.check t x).1 = 0) (hw : Waits b deadline interval w checks false w') :
    w'.clock = lastLook tick deadline w.clock :=
  eq_lastLook_of_mem hticks.positive (hw.clock_mem_looks hticks hcheck) (hw.deadline_le rfl)

/-- A wait whose checks take no time and depend on nothing but the time ends with the first look
that finds things settled, or with the last look. -/
theorem ends_at_first {settled : Nanos → Bool} {steady : σ → Prop}
    (hticks : b.timer.KeepsTicks tick) (hw : Waits b deadline interval w checks r w')
    (hcheck : ∀ t x, steady x →
      (b.check t x).1 = 0 ∧ (b.check t x).2.1 = settled t ∧ steady (b.check t x).2.2)
    (hx : steady w.state) :
    steady w'.state ∧
      (r = true ∧ IsLeast {t | t ∈ looks tick deadline (min interval b.timer.longest) w.clock ∧
        settled t = true} w'.clock ∨
      r = false ∧ w'.clock = lastLook tick deadline w.clock ∧
        ∀ t ∈ looks tick deadline (min interval b.timer.longest) w.clock, settled t = false) := by
  -- a check leaves the clock alone and says whether it is settled now
  have hstep : ∀ w : PollWorld S σ, steady w.state → (w.checked b).clock = w.clock ∧
      w.passes b = settled w.clock ∧ steady (w.checked b).state := by
    intro w hx
    obtain ⟨htaken, hpassed, hkept⟩ := hcheck w.clock w.state hx
    exact ⟨clock_checked htaken, hpassed, hkept⟩
  induction hw with
  | @passed w hc =>
    obtain ⟨hclock, hpassed, hkept⟩ := hstep w hx
    refine ⟨hkept, Or.inl ⟨rfl, ?_⟩⟩
    rw [hclock]
    refine ⟨⟨self_mem_looks _ _ _ _, hpassed ▸ hc⟩, fun t ht => ?_⟩
    exact le_of_mem_looks hticks.positive ht.1
  | @late w hc hlate =>
    obtain ⟨hclock, hpassed, hkept⟩ := hstep w hx
    rw [hclock] at hlate
    have hlast := lastLook_of_le tick hlate
    refine ⟨hkept, Or.inr ⟨rfl, hclock.trans hlast.symm, fun t ht => ?_⟩⟩
    have hle := le_lastLook_of_mem hticks.positive ht
    rw [hlast] at hle
    rw [Nat.le_antisymm hle (le_of_mem_looks hticks.positive ht), ← hpassed, hc]
  | @again w w' checks r hc hearly rest ih =>
    obtain ⟨hclock, hpassed, hkept⟩ := hstep w hx
    have hnow : settled w.clock = false := hpassed ▸ hc
    have hnext := clock_next interval hticks (hcheck w.clock w.state hx).1 hearly
    obtain ⟨hend, hrest⟩ := ih hkept
    refine ⟨hend, ?_⟩
    rw [hnext] at hrest
    rcases hrest with ⟨hr, hleast⟩ | ⟨hr, hlast, hnone⟩
    · refine Or.inl ⟨hr, ⟨mem_looks_iff.mpr (Or.inr hleast.1.1), hleast.1.2⟩, ?_⟩
      rintro t ⟨ht, hst⟩
      rcases mem_looks_iff.mp ht with rfl | ht
      · rw [hnow] at hst
        cases hst
      · exact hleast.2 ⟨ht, hst⟩
    · rw [lastLook_nextLook hticks.positive] at hlast
      refine Or.inr ⟨hr, hlast, fun t ht => ?_⟩
      rcases mem_looks_iff.mp ht with rfl | ht
      · exact hnow
      · exact hnone t ht

end Waits

namespace Escalates

variable {stages : List (Stage S)} {logs : List (StageLog S)} {r : Except ClockFault (Option S)}

/-- The stages wait no longer than they may, but for less than a tick each. -/
theorem clock_le (hticks : b.timer.KeepsTicks tick) (hact : ∀ s t x, (b.act s t x).1 = 0)
    (hcheck : ∀ t x, (b.check t x).1 = 0) (he : Escalates b interval stages w logs r w') :
    w'.clock ≤ w.clock + (stages.map (·.timeout)).sum + stages.length * (tick - 1) := by
  have hwait : ∀ {stage : Stage S} {w w' : PollWorld S σ} {checks : List Check} {passed : Bool},
      Waits b ((w.acted b stage.signal).clock + stage.timeout) interval (w.acted b stage.signal)
        checks passed w' → w'.clock ≤ w.clock + stage.timeout + (tick - 1) := by
    intro stage w w' checks passed wait
    have hle := wait.clock_le_lastLook hticks hcheck
    rw [clock_acted (hact _ _ _)] at hle
    exact Nat.le_trans hle (lastLook_le hticks.positive (Nat.le_add_right _ _))
  induction he with
  | exhausted =>
    unfold Nanos at *
    omega
  | settled wait told =>
    have hle := hwait wait
    rw [List.map_cons, List.sum_cons, List.length_cons, Nat.add_one_mul]
    unfold Nanos at *
    omega
  | ranOut wait told next ih =>
    have hle := hwait wait
    rw [List.map_cons, List.sum_cons, List.length_cons, Nat.add_one_mul]
    unfold Nanos at *
    omega
  | brokeOff untold =>
    rw [clock_acted (hact _ _ _), Nat.add_assoc]
    exact Nat.le_add_right _ _

/-- From a tick on, the stages wait no longer than their timeouts in whole ticks, and just as long
if none of them settles things. -/
theorem clock_on_ticks (hticks : b.timer.KeepsTicks tick) (hact : ∀ s t x, (b.act s t x).1 = 0)
    (hcheck : ∀ t x, (b.check t x).1 = 0) (he : Escalates b interval stages w logs r w')
    (hw : tick ∣ w.clock) :
    w'.clock ≤ w.clock + (stages.map fun stage => tickFrom tick stage.timeout).sum ∧
      (r = .ok none →
        w'.clock = w.clock + (stages.map fun stage => tickFrom tick stage.timeout).sum) := by
  induction he with
  | exhausted => exact ⟨Nat.le_add_right _ _, fun _ => rfl⟩
  | @settled stage rest w w' checks wait told =>
    have hle := wait.clock_le_lastLook hticks hcheck
    rw [clock_acted (hact _ _ _), lastLook_add hticks.positive hw] at hle
    refine ⟨?_, nofun⟩
    rw [List.map_cons, List.sum_cons, ← Nat.add_assoc]
    exact Nat.le_trans hle (Nat.le_add_right _ _)
  | @ranOut stage rest w w₁ w' checks logs r wait told next ih =>
    have hclock := wait.clock_eq_lastLook hticks hcheck
    rw [clock_acted (hact _ _ _), lastLook_add hticks.positive hw] at hclock
    have hrest := ih (hclock ▸ Nat.dvd_add hw (dvd_tickFrom _ _))
    rw [hclock, Nat.add_assoc] at hrest
    rw [List.map_cons, List.sum_cons]
    exact hrest
  | brokeOff untold =>
    rw [clock_acted (hact _ _ _)]
    exact ⟨Nat.le_add_right _ _, nofun⟩

end Escalates

end SandboxNet
