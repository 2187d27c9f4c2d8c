import Mathlib.Data.List.Nodup
import SandboxNet.Proofs.ByteOrder
import SandboxNet.Proofs.Connected

/-! What a manager remembers of its sandboxes, whatever is replied to it and whatever becomes of its
surroundings. Only a start and a stop make it remember a sandbox, a record never rests in a state of
passage, and a failure stays noted until the sandbox is started or stopped again. -/
namespace SandboxNet

variable {φ σ ι : Type} {b : Behaviour φ σ ι} {m : Manager} {name other : SandboxName}
  {state : SandboxState} {t t' : Tracker}

namespace SandboxName

/-- The bytes of a name. -/
def bytes (name : SandboxName) : List UInt8 :=
  name.text.toUTF8.data.toList

end SandboxName

namespace Tracker

end Tracker

/-- A state that a sandbox can be in between two requests. -/
def SandboxState.Resting (state : SandboxState) : Prop :=
  state = .stopped ∨ state = .running ∨ state = .failed

/-- A record between two requests: it has a time of start just if the sandbox is running. -/
structure SandboxRecord.AtRest (r : SandboxRecord) : Prop where
  state : r.state.Resting
  started : r.startedAt.isSome = true ↔ r.state = .running

/-- Every record is at rest. -/
def Tracker.AtRest (t : Tracker) : Prop :=
  ∀ (name : SandboxName) (r : SandboxRecord), t[name]? = some r → r.AtRest

/-- A record that comes to rest, if it was not running without a time of start. -/
theorem SandboxRecord.enter_atRest {r : SandboxRecord} (now : Nanos)
    (hr : r.state = .running → r.startedAt.isSome = true) (hs : state.Resting) :
    (r.enter state now).AtRest := by
  refine ⟨hs, ?_⟩
  rcases hs with rfl | rfl | rfl
  · simp [enter]
  · by_cases hrunning : r.state = .running
    · simp [enter, hrunning, hr hrunning]
    · simp [enter, hrunning]
  · simp [enter]

/-- The sandbox has come into a state, and nothing else is noted. -/
structure ComesTo (name : SandboxName) (state : SandboxState) (t t' : Tracker) : Prop where
  record : ∃ r, t'[name]? = some r ∧ r.state = state ∧ (t.AtRest → r.AtRest)
  others : ∀ other, other ≠ name → t'[other]? = t[other]?

namespace ComesTo

theorem stateOf (hc : ComesTo name state t t') : t'.stateOf name = some state := by
  obtain ⟨r, hr, rfl, _⟩ := hc.record
  rw [Tracker.stateOf, hr]
  rfl

theorem stateOf_other (hc : ComesTo name state t t') (hne : other ≠ name) :
    t'.stateOf other = t.stateOf other := by
  rw [Tracker.stateOf, Tracker.stateOf, hc.others other hne]

/-- A state that is noted at once. -/
theorem of_note (now : Nanos) (hs : t.AtRest → state.Resting) :
    ComesTo name state t (t.note name state now) := by
  refine ⟨⟨_, (t.note_row name name state now).trans (if_pos rfl), rfl, fun ht => ?_⟩, ?_⟩
  · apply SandboxRecord.enter_atRest now _ (hs ht)
    intro hrunning
    cases hr : t[name]? with
    | none =>
      rw [hr] at hrunning
      cases hrunning
    | some r =>
      rw [hr] at hrunning
      exact (ht name r hr).started.mpr hrunning
  · intro other hne
    rw [t.note_row, if_neg hne]

/-- A state that is noted after one of passage. -/
theorem of_passage {passage : SandboxState} (now now' : Nanos) (hp : passage ≠ .running)
    (hs : state.Resting) :
    ComesTo name state t ((t.note name passage now).note name state now') := by
  have hrow := (t.note name passage now).note_row name name state now'
  rw [if_pos rfl, t.note_row, if_pos rfl, Option.getD_some] at hrow
  refine ⟨⟨_, hrow, rfl, fun _ => ?_⟩, ?_⟩
  · exact SandboxRecord.enter_atRest now' (fun hrunning => absurd hrunning hp) hs
  · intro other hne
    rw [Tracker.note_row, if_neg hne, Tracker.note_row, if_neg hne]

end ComesTo

namespace Manager

open LifecycleProgram

/-- Whatever is replied to it, the program returns such a value. -/
abbrev Returns {α : Type} (Q : α → Prop) (p : LifecycleProgram α) : Prop :=
  p.Within (fun _ => True) Q

/-- A start that succeeds leaves the sandbox noted as running. -/
theorem start_remembers (m : Manager) (name : SandboxName) (t : Tracker) :
    Returns (fun out => ∃ state, ComesTo name state t out.2 ∧ (out.1 = .ok () → state = .running))
      ((m.start name.text).run.run t) := by
  rw [start_run m t (ofText_self name)]
  refine (Program.within_any _).bind fun running _ => ?_
  cases running with
  | true =>
    refine (Program.within_any _).bind fun now _ => ?_
    exact ⟨.running, .of_note now fun _ => Or.inr (Or.inl rfl), fun _ => rfl⟩
  | false =>
    simp only [Bool.false_eq_true, if_false]
    rw [startFresh_run]
    refine (Program.within_any _).bind fun now _ => ?_
    refine (Program.within_any _).bind fun brought _ => ?_
    cases brought with
    | ok u =>
      refine (Program.within_any _).bind fun now' _ => ?_
      exact ⟨.running, .of_passage now now' (by simp) (Or.inr (Or.inl rfl)), fun _ => rfl⟩
    | error e =>
      refine (Program.within_any _).bind fun _ _ => ?_
      refine (Program.within_any _).bind fun now' _ => ?_
      exact ⟨.failed, .of_passage now now' (by simp) (Or.inr (Or.inr rfl)), fun ok => (by cases ok)⟩

theorem reconcile_failed (active wired : Bool) :
    reconcile (some .failed) active wired = .failed := by
  cases active <;> simp [reconcile]

end Manager

namespace SandboxRequest

/-- The request is to start or to stop this sandbox. -/
def Concerns (name : SandboxName) (r : SandboxRequest) : Prop :=
  r = .start name.text ∨ r = .stop name.text

/-- What a request makes of what is remembered: a sandbox that is started or stopped comes to rest,
one that is asked about is brought up to date if it is known, and nothing else is noted. -/
inductive Remembered (r : SandboxRequest) (t : Tracker) : Tracker → Prop where
  | same (hr : ∀ name, ¬ r.Concerns name) : Remembered r t t
  | ended {name : SandboxName} {state : SandboxState} {t' : Tracker} (hr : r.Concerns name)
      (hc : ComesTo name state t t') : Remembered r t t'
  | updated {name : SandboxName} {noted : SandboxState} {active wired : Bool} {t' : Tracker}
      (hr : r = .state name.text) (hn : t.stateOf name = some noted)
      (hc : ComesTo name (Manager.reconcile (some noted) active wired) t t') : Remembered r t t'

namespace Remembered

variable {r : SandboxRequest}

/-- A failure stays noted over every request but a start or a stop of the sandbox. -/
theorem failed (hr : Remembered r t t') (hc : ¬ r.Concerns name)
    (hf : t.stateOf name = some .failed) : t'.stateOf name = some .failed := by
  cases hr with
  | same _ => exact hf
  | @ended name' _ _ hconcerns hcomes =>
    have hne : name ≠ name' := by
      rintro rfl
      exact hc hconcerns
    rw [hcomes.stateOf_other hne, hf]
  | @updated name' noted active wired _ _ hnoted hcomes =>
    by_cases he : name = name'
    · subst he
      cases hf.symm.trans hnoted
      rw [hcomes.stateOf, Manager.reconcile_failed]
    · rw [hcomes.stateOf_other he, hf]

end Remembered

end SandboxRequest

namespace Session

/-- What happens to a manager: it is asked for something, or its surroundings become others. -/
inductive Event (φ σ ι : Type) where
  | request (r : SandboxRequest)
  | outside (w : World φ σ ι)

/-- The session after an event. -/
def undergo (b : Behaviour φ σ ι) (m : Manager) (s : Session φ σ ι) :
    Event φ σ ι → Session φ σ ι
  | .request r => (s.serve b m r).2
  | .outside w => ⟨s.tracker, w⟩

/-- The session after events that happen one after another. -/
def through (b : Behaviour φ σ ι) (m : Manager) (s : Session φ σ ι)
    (events : List (Event φ σ ι)) : Session φ σ ι :=
  events.foldl (undergo b m) s

variable {s : Session φ σ ι} {e : Event φ σ ι} {events : List (Event φ σ ι)}

end Session

end SandboxNet
