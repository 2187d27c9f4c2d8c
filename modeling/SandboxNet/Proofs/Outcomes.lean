import SandboxNet.Proofs.HostInvariants
import SandboxNet.Proofs.Trace
import SandboxNet.Simulation.Network

/-! What a network program can end in when any of its calls, queries included, may fail and do
nothing. Every source of faults picks one of these outcomes. -/
namespace SandboxNet

variable {α β φ : Type} {h h' : Host}

/-- On this host the program may return `a` and leave the host `h'`. -/
def Yields : NetProgram α → Host → α → Host → Prop
  | .done a, h, a', h' => a' = a ∧ h' = h
  | .ask c next, h, a, h' =>
    (∃ e, Yields (next (.error e)) h a h') ∨ Yields (next (h.answer c).1) (h.answer c).2 a h'

theorem answer_struck {source : FaultSource φ} {c : NetCall} {w : NetWorld φ} {e : NetError}
    (hs : (source.strike c w.faults).1 = some e) : NetWorld.answer source c w =
      (.error e, ⟨w.host, (source.strike c w.faults).2, w.log ++ [⟨c, false⟩]⟩) := by
  rw [NetWorld.answer, ← Prod.eta (source.strike c w.faults), hs]

theorem answer_unstruck {source : FaultSource φ} {c : NetCall} {w : NetWorld φ}
    (hs : (source.strike c w.faults).1 = none) : NetWorld.answer source c w =
      ((w.host.answer c).1, ⟨(w.host.answer c).2, (source.strike c w.faults).2,
        w.log ++ [⟨c, (w.host.answer c).1.isOk⟩]⟩) := by
  rw [NetWorld.answer, ← Prod.eta (source.strike c w.faults), hs]

theorem yields_run (source : FaultSource φ) (p : NetProgram α) (w : NetWorld φ) :
    Yields p w.host (NetWorld.run source p w).1 (NetWorld.run source p w).2.host := by
  induction p generalizing w with
  | done a => exact ⟨rfl, rfl⟩
  | ask c next ih =>
    have hi := ih (NetWorld.answer source c w).1 (NetWorld.answer source c w).2
    simp only [NetWorld.run, Program.run_ask] at hi ⊢
    cases hs : (source.strike c w.faults).1 with
    | some e =>
      rw [answer_struck hs] at hi ⊢
      exact Or.inl ⟨e, hi⟩
    | none =>
      rw [answer_unstruck hs] at hi ⊢
      exact Or.inr hi

theorem Yields.reachable {p : NetProgram α} {a : α} (hy : Yields p h a h')
    (hr : h.Reachable) : h'.Reachable := by
  induction p generalizing h with
  | done b => exact hy.2 ▸ hr
  | ask c next ih =>
    obtain ⟨e, hy⟩ | hy := hy
    · exact ih _ hy hr
    · exact ih _ hy (.call c hr)

@[simp] theorem yields_done {a a' : α} : Yields (.done a) h a' h' ↔ a' = a ∧ h' = h := Iff.rfl

@[simp] theorem yields_bind {p : NetProgram α} {f : α → NetProgram β} {b : β} :
    Yields (p >>= f) h b h' ↔ ∃ a h₁, Yields p h a h₁ ∧ Yields (f a) h₁ b h' := by
  induction p generalizing h with
  | done a =>
    constructor
    · intro hy
      exact ⟨a, h, ⟨rfl, rfl⟩, hy⟩
    · rintro ⟨a', h₁, ⟨rfl, rfl⟩, hy⟩
      exact hy
  | ask c next ih =>
    simp only [Program.bind_ask, Yields, ih]
    constructor
    · rintro (⟨e, a, h₁, hp, hf⟩ | ⟨a, h₁, hp, hf⟩)
      · exact ⟨a, h₁, Or.inl ⟨e, hp⟩, hf⟩
      · exact ⟨a, h₁, Or.inr hp, hf⟩
    · rintro ⟨a, h₁, ⟨e, hp⟩ | hp, hf⟩
      · exact Or.inl ⟨e, a, h₁, hp, hf⟩
      · exact Or.inr ⟨a, h₁, hp, hf⟩

@[simp] theorem yields_map {p : NetProgram α} {f : α → β} {b : β} :
    Yields (f <$> p) h b h' ↔ ∃ a, b = f a ∧ Yields p h a h' := by
  rw [map_eq_pure_bind, yields_bind]
  constructor
  · rintro ⟨a, h₁, hp, rfl, rfl⟩
    exact ⟨a, rfl, hp⟩
  · rintro ⟨a, rfl, hp⟩
    exact ⟨a, h', hp, rfl, rfl⟩

@[simp] theorem yields_net_bind {p : Net α} {f : α → Net β} {r : Except NetError β} :
    Yields (p >>= f).run h r h' ↔
      (∃ e, r = .error e ∧ Yields p.run h (.error e) h') ∨
        ∃ a h₁, Yields p.run h (.ok a) h₁ ∧ Yields (f a).run h₁ r h' := by
  rw [ExceptT.run_bind, yields_bind]
  constructor
  · rintro ⟨r', h₁, hp, hf⟩
    cases r' with
    | ok a => exact Or.inr ⟨a, h₁, hp, hf⟩
    | error e =>
      obtain ⟨rfl, rfl⟩ := hf
      exact Or.inl ⟨e, rfl, hp⟩
  · rintro (⟨e, rfl, hp⟩ | ⟨a, h₁, hp, hf⟩)
    · exact ⟨.error e, h', hp, rfl, rfl⟩
    · exact ⟨.ok a, h₁, hp, hf⟩

/-- A sequence that succeeds went through both its parts. -/
theorem yields_net_ok {p : Net α} {f : α → Net β} {b : β}
    (hy : Yields (p >>= f).run h (.ok b) h') :
    ∃ a h₁, Yields p.run h (.ok a) h₁ ∧ Yields (f a).run h₁ (.ok b) h' := by
  obtain ⟨_, he, _⟩ | hok := yields_net_bind.mp hy
  · cases he
  · exact hok

@[simp] theorem yields_net_pure {a : α} {r : Except NetError α} :
    Yields (pure a : Net α).run h r h' ↔ r = .ok a ∧ h' = h := Iff.rfl

@[simp] theorem yields_throw {e : NetError} {r : Except NetError α} :
    Yields (throw e : Net α).run h r h' ↔ r = .error e ∧ h' = h := Iff.rfl

@[simp] theorem yields_lift {p : NetProgram α} {r : Except NetError α} :
    Yields (liftM p : Net α).run h r h' ↔ ∃ a, r = .ok a ∧ Yields p h a h' :=
  yields_map

@[simp] theorem yields_ofExcept {e r : Except NetError α} :
    Yields (Net.ofExcept e).run h r h' ↔ r = e ∧ h' = h := Iff.rfl

/-- A program that cannot fail only hands on what it returns. -/
theorem yields_lift_bind {p : NetProgram α} {f : α → Net β} {r : Except NetError β} :
    Yields (liftM p >>= f : Net β).run h r h' ↔
      ∃ a h₁, Yields p h a h₁ ∧ Yields (f a).run h₁ r h' := by
  simp only [yields_net_bind, yields_lift]
  constructor
  · rintro (⟨e, _, a, he, _⟩ | ⟨a, h₁, ⟨a', ha, hp⟩, hf⟩)
    · cases he
    · cases ha
      exact ⟨a, h₁, hp, hf⟩
  · rintro ⟨a, h₁, hp, hf⟩
    exact Or.inr ⟨a, h₁, ⟨a, rfl, hp⟩, hf⟩

/-- A check made without the host stops the program or lets it go on from the same host. -/
theorem yields_check_bind {x : Except NetError α} {f : α → Net β} {r : Except NetError β} :
    Yields (Net.ofExcept x >>= f).run h r h' ↔
      (∃ e, x = .error e ∧ r = .error e ∧ h' = h) ∨ ∃ a, x = .ok a ∧ Yields (f a).run h r h' := by
  simp only [yields_net_bind, yields_ofExcept]
  constructor
  · rintro (⟨e, rfl, rfl, rfl⟩ | ⟨a, h₁, ⟨rfl, rfl⟩, hf⟩)
    · exact Or.inl ⟨e, rfl, rfl, rfl⟩
    · exact Or.inr ⟨a, rfl, hf⟩
  · rintro (⟨e, rfl, rfl, rfl⟩ | ⟨a, rfl, hf⟩)
    · exact Or.inl ⟨e, rfl, rfl, rfl⟩
    · exact Or.inr ⟨a, h, ⟨rfl, rfl⟩, hf⟩

theorem yields_throw_bind {e : NetError} {f : α → Net β} {r : Except NetError β} :
    Yields (throw e >>= f).run h r h' ↔ r = .error e ∧ h' = h := Iff.rfl

@[simp] theorem yields_attempt {p : Net α} {r : Except NetError (Except NetError α)} :
    Yields (Net.attempt p).run h r h' ↔ ∃ r', r = .ok r' ∧ Yields p.run h r' h' :=
  yields_map

@[simp] theorem yields_discard {p : Net α} {u : Unit} :
    Yields (Net.discard p) h u h' ↔ ∃ r, Yields p.run h r h' := by
  simp [Net.discard]

/-- A call fails and does nothing, or the host answers it. -/
theorem yields_ask {c : NetCall} {r : Except NetError c.Answer} :
    Yields (Net.ask c).run h r h' ↔ (∃ e, r = .error e ∧ h' = h) ∨ h.answer c = (r, h') := by
  constructor
  · rintro (⟨e, rfl, rfl⟩ | ⟨rfl, rfl⟩)
    · exact Or.inl ⟨e, rfl, rfl⟩
    · exact Or.inr rfl
  · rintro (⟨e, rfl, rfl⟩ | ha)
    · exact Or.inl ⟨e, rfl, rfl⟩
    · refine Or.inr ⟨?_, ?_⟩ <;> rw [ha]

/-- A change is made in full or not at all. -/
theorem settled {x : Except NetError Host} {r : Except NetError Unit}
    (hy : (∃ e, r = .error e ∧ h' = h) ∨ h.change x = (r, h')) :
    (∃ e, r = .error e ∧ h' = h) ∨ (r = .ok () ∧ x = .ok h') := by
  obtain he | hc := hy
  · exact Or.inl he
  · cases x with
    | ok h₁ =>
      obtain ⟨rfl, rfl⟩ := Prod.mk.inj hc
      exact Or.inr ⟨rfl, rfl⟩
    | error e =>
      obtain ⟨rfl, rfl⟩ := Prod.mk.inj hc
      exact Or.inl ⟨e, rfl, rfl⟩

/-- What follows a change is reached only if the change was made. -/
theorem settled_bind {x : Except NetError Host} {p : Net Unit} {f : Unit → Net β}
    {r : Except NetError β} (hp : ∀ {r h'}, Yields p.run h r h' →
      (∃ e, r = .error e ∧ h' = h) ∨ h.change x = (r, h'))
    (hy : Yields (p >>= f).run h r h') :
    (∃ e, r = .error e ∧ h' = h) ∨ ∃ h₁, x = .ok h₁ ∧ Yields (f ()).run h₁ r h' := by
  obtain ⟨e, rfl, hc⟩ | ⟨_, h₁, hc, hf⟩ := yields_net_bind.mp hy
  · obtain ⟨_, _, rfl⟩ | ⟨he, _⟩ := settled (hp hc)
    · exact Or.inl ⟨e, rfl, rfl⟩
    · cases he
  · obtain ⟨_, he, _⟩ | ⟨_, ok⟩ := settled (hp hc)
    · cases he
    · exact Or.inr ⟨h₁, ok, hf⟩

end SandboxNet
