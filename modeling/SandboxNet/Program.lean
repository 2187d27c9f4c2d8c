/-!
Programs as trees of calls. An interface lists the calls a program may make and the type of the
reply to each; a program is finished or makes one call and goes on with the reply. What a call does
is left to the interpretation, so one program runs on a simulated host and on a real one.
-/
namespace SandboxNet

structure Interface where
  Call : Type
  Reply : Call → Type

inductive Program (I : Interface) (α : Type) : Type where
  | done (a : α)
  | ask (c : I.Call) (next : I.Reply c → Program I α)

namespace Program

variable {I J : Interface} {α β : Type}

def bind : Program I α → (α → Program I β) → Program I β
  | done a, f => f a
  | ask c next, f => ask c fun r => (next r).bind f

instance : Monad (Program I) where
  pure := done
  bind := bind

/-- The program that makes one call and returns its reply. -/
def call (c : I.Call) : Program I (I.Reply c) :=
  ask c done

/-- Carries out a program in a monad that answers its calls. -/
def interpret {m : Type → Type} [Monad m] (answer : (c : I.Call) → m (I.Reply c)) :
    Program I α → m α
  | done a => pure a
  | ask c next => answer c >>= fun r => (next r).interpret answer

/-- Carries out a program against a state that answers its calls. -/
def run {σ : Type} (answer : (c : I.Call) → σ → I.Reply c × σ) : Program I α → σ → α × σ
  | done a, s => (a, s)
  | ask c next, s =>
    let (r, s') := answer c s
    (next r).run answer s'

/-- Carries out a program against a state that may refuse a call. The program breaks off there. -/
def attempt {σ ε : Type} (answer : (c : I.Call) → σ → Except ε (I.Reply c) × σ) :
    Program I α → σ → Except ε α × σ
  | done a, s => (.ok a, s)
  | ask c next, s =>
    match answer c s with
    | (.ok r, s') => (next r).attempt answer s'
    | (.error e, s') => (.error e, s')

@[simp] theorem pure_eq_done (a : α) : (pure a : Program I α) = done a := rfl

@[simp] theorem bind_done (a : α) (f : α → Program I β) : (done a >>= f) = f a := rfl

@[simp] theorem bind_ask (c : I.Call) (next : I.Reply c → Program I α) (f : α → Program I β) :
    (ask c next >>= f) = ask c fun r => next r >>= f := rfl

theorem bind_pure_self (p : Program I α) : p >>= pure = p := by
  induction p with
  | done a => rfl
  | ask c next ih => simp only [bind_ask, ih]

theorem bind_assoc_self {γ : Type} (p : Program I α) (f : α → Program I β) (g : β → Program I γ) :
    p >>= f >>= g = p >>= fun a => f a >>= g := by
  induction p with
  | done a => rfl
  | ask c next ih => simp only [bind_ask, ih]

instance : LawfulMonad (Program I) :=
  LawfulMonad.mk' (Program I) bind_pure_self (fun _ _ => rfl) bind_assoc_self

@[simp] theorem run_done {σ : Type} (answer : (c : I.Call) → σ → I.Reply c × σ) (a : α) (s : σ) :
    (done a).run answer s = (a, s) := rfl

@[simp] theorem run_ask {σ : Type} (answer : (c : I.Call) → σ → I.Reply c × σ) (c : I.Call)
    (next : I.Reply c → Program I α) (s : σ) :
    (ask c next).run answer s = (next (answer c s).1).run answer (answer c s).2 := rfl

/-- A sequence runs its second part on the state the first one leaves. -/
theorem run_bind {σ : Type} (answer : (c : I.Call) → σ → I.Reply c × σ) (p : Program I α)
    (f : α → Program I β) (s : σ) :
    (p >>= f).run answer s = (f (p.run answer s).1).run answer (p.run answer s).2 := by
  induction p generalizing s with
  | done a => rfl
  | ask c next ih => simp only [bind_ask, run_ask, ih]

section Attempt

variable {σ ε : Type} {answer : (c : I.Call) → σ → Except ε (I.Reply c) × σ} {s s' : σ}

@[simp] theorem attempt_done (a : α) (s : σ) : (done a).attempt answer s = (.ok a, s) := rfl

theorem attempt_ask_ok {c : I.Call} {r : I.Reply c} (h : answer c s = (.ok r, s'))
    (next : I.Reply c → Program I α) :
    (ask c next).attempt answer s = (next r).attempt answer s' := by
  rw [attempt, h]

theorem attempt_ask_error {c : I.Call} {e : ε} (h : answer c s = (.error e, s'))
    (next : I.Reply c → Program I α) : (ask c next).attempt answer s = (.error e, s') := by
  rw [attempt, h]

/-- A sequence goes on with its second part if the first one does not break off. -/
theorem attempt_bind (p : Program I α) (f : α → Program I β) (s : σ) :
    (p >>= f).attempt answer s =
      match p.attempt answer s with
      | (.ok a, s') => (f a).attempt answer s'
      | (.error e, s') => (.error e, s') := by
  induction p generalizing s with
  | done a => rfl
  | ask c next ih =>
    rw [bind_ask, attempt, attempt]
    obtain ⟨r, s'⟩ := answer c s
    cases r with
    | ok r => exact ih r s'
    | error e => rfl

end Attempt

end Program

end SandboxNet
