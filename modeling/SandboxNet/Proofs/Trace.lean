import SandboxNet.Program

/-! The calls a program makes, in order, where a sequence of steps first fails, and what holds of a
program whatever is replied to its calls. -/
namespace SandboxNet.Program

variable {I : Interface} {α β ε σ : Type} {answer : (c : I.Call) → σ → I.Reply c × σ}

/-- The calls a program makes, each with the state in which it is made. -/
def trace (answer : (c : I.Call) → σ → I.Reply c × σ) : Program I α → σ → List (σ × I.Call)
  | done _, _ => []
  | ask c next, s => (s, c) :: (next (answer c s).1).trace answer (answer c s).2

/-- The calls a program makes as far as it gets, each with the state in which it is made. -/
def attempted (answer : (c : I.Call) → σ → Except ε (I.Reply c) × σ) :
    Program I α → σ → List (σ × I.Call)
  | done _, _ => []
  | ask c next, s =>
    (s, c) ::
      match answer c s with
      | (.ok r, s') => (next r).attempted answer s'
      | (.error _, _) => []

/-- The error of the first step that fails, each being run on what the one before it leaves. -/
def firstError? (answer : (c : I.Call) → σ → I.Reply c × σ) :
    List (ExceptT ε (Program I) Unit) → σ → Option ε
  | [], _ => none
  | step :: rest, s =>
    match step.run.run answer s with
    | (.ok (), s') => firstError? answer rest s'
    | (.error e, _) => some e

/-- Whatever is replied, the program makes no calls but such, and returns such a value. -/
def Within (P : I.Call → Prop) (Q : α → Prop) : Program I α → Prop
  | done a => Q a
  | ask c next => P c ∧ ∀ r, (next r).Within P Q

@[simp] theorem trace_done (a : α) (s : σ) : (done a : Program I α).trace answer s = [] := rfl

theorem trace_bind (p : Program I α) (f : α → Program I β) (s : σ) :
    (p >>= f).trace answer s =
      p.trace answer s ++ (f (p.run answer s).1).trace answer (p.run answer s).2 := by
  induction p generalizing s with
  | done a => rfl
  | ask c next ih =>
    simp only [bind_ask, trace, run_ask, List.cons_append]
    rw [ih]

theorem trace_map (f : α → β) (p : Program I α) (s : σ) :
    (f <$> p).trace answer s = p.trace answer s := by
  rw [map_eq_pure_bind, trace_bind]
  simp

theorem run_map (f : α → β) (p : Program I α) (s : σ) :
    (f <$> p).run answer s = (f (p.run answer s).1, (p.run answer s).2) := by
  rw [map_eq_pure_bind, run_bind]
  rfl

/-- A sequence that may fail stops where its first part fails. -/
theorem run_except_bind (p : ExceptT ε (Program I) α) (f : α → ExceptT ε (Program I) β) (s : σ) :
    (p >>= f).run.run answer s =
      match p.run.run answer s with
      | (.ok a, s') => (f a).run.run answer s'
      | (.error e, s') => (.error e, s') := by
  rw [ExceptT.run_bind, run_bind]
  obtain ⟨r, s'⟩ := p.run.run answer s
  cases r <;> rfl

theorem trace_except_bind (p : ExceptT ε (Program I) α) (f : α → ExceptT ε (Program I) β)
    (s : σ) : (p >>= f).run.trace answer s = p.run.trace answer s ++
      match p.run.run answer s with
      | (.ok a, s') => (f a).run.trace answer s'
      | (.error _, _) => [] := by
  rw [ExceptT.run_bind, trace_bind]
  obtain ⟨r, s'⟩ := p.run.run answer s
  cases r <;> rfl

theorem attempted_ask_ok {answer : (c : I.Call) → σ → Except ε (I.Reply c) × σ} {c : I.Call}
    {r : I.Reply c} {s s' : σ} (h : answer c s = (.ok r, s')) (next : I.Reply c → Program I α) :
    (ask c next).attempted answer s = (s, c) :: (next r).attempted answer s' := by
  rw [attempted, h]

theorem attempted_ask_error {answer : (c : I.Call) → σ → Except ε (I.Reply c) × σ} {c : I.Call}
    {e : ε} {s s' : σ} (h : answer c s = (.error e, s')) (next : I.Reply c → Program I α) :
    (ask c next).attempted answer s = [(s, c)] := by
  rw [attempted, h]

theorem attempted_bind {answer : (c : I.Call) → σ → Except ε (I.Reply c) × σ} (p : Program I α)
    (f : α → Program I β) (s : σ) :
    (p >>= f).attempted answer s = p.attempted answer s ++
      match p.attempt answer s with
      | (.ok a, s') => (f a).attempted answer s'
      | (.error _, _) => [] := by
  induction p generalizing s with
  | done a => rfl
  | ask c next ih =>
    rw [bind_ask, attempted, attempted, attempt]
    obtain ⟨r, s'⟩ := answer c s
    cases r with
    | ok r => exact congrArg _ (ih r s')
    | error e => rfl

/-- If no call is answered otherwise than it is granted, a program that does not break off ends as
it would with no call refused. -/
theorem run_of_attempt {granting : (c : I.Call) → σ → Except ε (I.Reply c) × σ}
    (hgrant : ∀ c s r s', granting c s = (.ok r, s') → answer c s = (r, s')) {p : Program I α}
    {a : α} {s s' : σ} (h : p.attempt granting s = (.ok a, s')) : p.run answer s = (a, s') := by
  induction p generalizing s with
  | done a' =>
    cases h
    rfl
  | ask c next ih =>
    rw [attempt] at h
    rw [run_ask]
    split at h
    · rename_i r s₁ hc
      rw [hgrant c s r s₁ hc]
      exact ih r h
    · cases h

section Within

variable {P : I.Call → Prop} {Q : α → Prop} {p : Program I α}

theorem Within.mono {P' : I.Call → Prop} {Q' : α → Prop} (hp : p.Within P Q)
    (hP : ∀ c, P c → P' c) (hQ : ∀ a, Q a → Q' a) : p.Within P' Q' := by
  induction p with
  | done a => exact hQ a hp
  | ask c next ih => exact ⟨hP c hp.1, fun r => ih r (hp.2 r)⟩

theorem Within.bind {R : β → Prop} {f : α → Program I β} (hp : p.Within P Q)
    (hf : ∀ a, Q a → (f a).Within P R) : (p >>= f).Within P R := by
  induction p with
  | done a => exact hf a hp
  | ask c next ih => exact ⟨hp.1, fun r => ih r (hp.2 r)⟩

theorem Within.map {R : β → Prop} {f : α → β} (hp : p.Within P Q) (hf : ∀ a, Q a → R (f a)) :
    (f <$> p).Within P R := by
  rw [map_eq_pure_bind]
  exact hp.bind hf

theorem within_any (p : Program I α) : p.Within (fun _ => True) fun _ => True := by
  induction p with
  | done a => trivial
  | ask c next ih => exact ⟨trivial, ih⟩

theorem Within.returned (hp : p.Within P Q) (s : σ) : Q (p.run answer s).1 := by
  induction p generalizing s with
  | done a => exact hp
  | ask c next ih => exact ih _ (hp.2 _) _

theorem Within.called (hp : p.Within P Q) (s : σ) : ∀ made ∈ p.trace answer s, P made.2 := by
  induction p generalizing s with
  | done a => simp
  | ask c next ih =>
    rw [trace, List.forall_mem_cons]
    exact ⟨hp.1, ih _ (hp.2 _) _⟩

variable {granting : (c : I.Call) → σ → Except ε (I.Reply c) × σ}

/-- A program that makes no calls but such as are never refused does not break off. -/
theorem Within.attempt_eq (hp : p.Within P Q)
    (hgrant : ∀ c s, P c → granting c s = (.ok (answer c s).1, (answer c s).2)) (s : σ) :
    p.attempt granting s = (.ok (p.run answer s).1, (p.run answer s).2) ∧
      p.attempted granting s = p.trace answer s := by
  induction p generalizing s with
  | done a => exact ⟨rfl, rfl⟩
  | ask c next ih =>
    rw [attempt, attempted, hgrant c s hp.1]
    obtain ⟨hrun, hcalls⟩ := ih _ (hp.2 (answer c s).1) (answer c s).2
    exact ⟨hrun, congrArg _ hcalls⟩

/-- What every such call keeps holds of each state in which a call is made. -/
theorem Within.attempted_keeps {K : σ → Prop} (hp : p.Within P Q)
    (hkeep : ∀ c s, P c → K s → K (granting c s).2) {s : σ} (hs : K s) :
    ∀ made ∈ p.attempted granting s, K made.1 := by
  induction p generalizing s with
  | done a => simp [attempted]
  | ask c next ih =>
    have hnext := hkeep c s hp.1 hs
    rw [attempted, List.forall_mem_cons]
    refine ⟨hs, ?_⟩
    generalize granting c s = answered at hnext
    obtain ⟨r, s'⟩ := answered
    cases r with
    | ok r => exact ih r (hp.2 r) hnext
    | error e => simp

end Within

section Only

variable {P : I.Call → Prop}

/-- Whatever is replied, the program makes no calls but such. -/
def Only (P : I.Call → Prop) (p : Program I α) : Prop :=
  p.Within P fun _ => True

theorem Only.bind {p : Program I α} {f : α → Program I β} (hp : p.Only P)
    (hf : ∀ a, (f a).Only P) : (p >>= f).Only P :=
  Within.bind hp fun a _ => hf a

theorem Only.map {p : Program I α} (hp : p.Only P) (f : α → β) : (f <$> p).Only P :=
  Within.map hp fun _ _ => trivial

theorem Only.except_bind {p : ExceptT ε (Program I) α} {f : α → ExceptT ε (Program I) β}
    (hp : p.run.Only P) (hf : ∀ a, (f a).run.Only P) : (p >>= f).run.Only P := by
  rw [ExceptT.run_bind]
  refine hp.bind fun r => ?_
  cases r with
  | ok a => exact hf a
  | error e => trivial

theorem Only.lift_bind {p : Program I α} {f : α → ExceptT ε (Program I) β} (hp : p.Only P)
    (hf : ∀ a, (f a).run.Only P) : (liftM p >>= f : ExceptT ε (Program I) β).run.Only P :=
  Only.except_bind (hp.map Except.ok) hf

end Only

end SandboxNet.Program
