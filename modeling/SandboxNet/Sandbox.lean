import SandboxNet.Attachment
import SandboxNet.Error

/-! Sandboxes: their names, their states, and what is remembered about each. -/
namespace SandboxNet

/-- A text that the rule for sandbox names accepts. -/
structure SandboxName where
  text : String
  accepted : NameRule.sandbox.fault? text = none
deriving DecidableEq

namespace SandboxName

def ofText (text : String) : Except SandboxError SandboxName :=
  match h : NameRule.sandbox.fault? text with
  | some fault => .error (.invalidName text fault)
  | none => .ok ⟨text, h⟩

/-- The host resources of the sandbox. -/
def wire (name : SandboxName) : WireNames :=
  .of name.text

/-- The unit that supervises the sandbox. -/
def unit (name : SandboxName) : String :=
  "corral-" ++ name.text ++ ".service"

end SandboxName

inductive SandboxState where
  | stopped
  | starting
  | running
  | stopping
  | failed
deriving DecidableEq

def SandboxState.label : SandboxState → String
  | .stopped => "STOPPED"
  | .starting => "STARTING"
  | .running => "RUNNING"
  | .stopping => "STOPPING"
  | .failed => "FAILED"

/-- What is remembered about a sandbox, with the time it last began to run. -/
structure SandboxRecord where
  name : SandboxName
  state : SandboxState
  startedAt : Option Nanos
deriving DecidableEq

namespace SandboxRecord

/-- A sandbox that nothing was noted of yet counts as stopped. -/
def fresh (name : SandboxName) : SandboxRecord :=
  ⟨name, .stopped, none⟩

/-- The record after the sandbox has come into a state at a time. -/
def enter (r : SandboxRecord) (state : SandboxState) (now : Nanos) : SandboxRecord where
  name := r.name
  state := state
  startedAt := match state with
    | .running => if r.state = .running then r.startedAt else some now
    | .stopped | .failed => none
    | .starting | .stopping => r.startedAt

/-- The records after a sandbox has come into a state, with a new one for it if there was none. -/
def enterIn (name : SandboxName) (state : SandboxState) (now : Nanos) :
    List SandboxRecord → List SandboxRecord
  | [] => [(fresh name).enter state now]
  | r :: rest =>
    if r.name = name then r.enter state now :: rest else r :: enterIn name state now rest

theorem mem_names_enterIn {name other : SandboxName} {state : SandboxState} {now : Nanos}
    {records : List SandboxRecord} : other ∈ (enterIn name state now records).map (·.name) ↔
      other = name ∨ other ∈ records.map (·.name) := by
  induction records with
  | nil => simp [enterIn, fresh, enter]
  | cons r rest ih =>
    rw [enterIn]
    split
    · rename_i hname
      simp [enter, hname]
    · rw [List.map_cons, List.mem_cons, ih, List.map_cons, List.mem_cons]
      exact or_left_comm

theorem nodup_names_enterIn (name : SandboxName) (state : SandboxState) (now : Nanos)
    {records : List SandboxRecord} (hn : (records.map (·.name)).Nodup) :
    ((enterIn name state now records).map (·.name)).Nodup := by
  induction records with
  | nil => simp [enterIn]
  | cons r rest ih =>
    obtain ⟨hnew, hrest⟩ := List.nodup_cons.mp hn
    rw [enterIn]
    split
    · exact hn
    · rename_i hname
      refine List.nodup_cons.mpr ⟨?_, ih hrest⟩
      rw [mem_names_enterIn]
      exact not_or.mpr ⟨hname, hnew⟩

theorem find?_enterIn (name other : SandboxName) (state : SandboxState) (now : Nanos)
    (records : List SandboxRecord) :
    (enterIn name state now records).find? (·.name = other) =
      if other = name then
        some (((records.find? (·.name = name)).getD (fresh name)).enter state now)
      else records.find? (·.name = other) := by
  induction records with
  | nil =>
    by_cases he : other = name
    · simp [enterIn, enter, fresh, he]
    · simp [enterIn, enter, fresh, he, Ne.symm he]
  | cons r rest ih =>
    rw [enterIn]
    by_cases hname : r.name = name
    · by_cases he : other = name
      · simp [hname, he, enter]
      · simp [hname, he, enter, Ne.symm he]
    · by_cases hother : r.name = other
      · have hne : other ≠ name := hother ▸ hname
        simp [hother, hne]
      · simp [hname, hother, ih]

end SandboxRecord

/-- The sandboxes a manager remembers: one record for each, in no order that matters. -/
@[ext] structure Tracker where
  records : List SandboxRecord
  distinct : (records.map (·.name)).Nodup

namespace Tracker

instance : EmptyCollection Tracker :=
  ⟨⟨[], List.nodup_nil⟩⟩

/-- What is remembered about a sandbox. -/
def find? (t : Tracker) (name : SandboxName) : Option SandboxRecord :=
  t.records.find? (·.name = name)

instance : GetElem? Tracker SandboxName SandboxRecord fun t name => (t.find? name).isSome where
  getElem t name known := (t.find? name).get known
  getElem? := find?

@[simp] theorem empty_row (name : SandboxName) : (∅ : Tracker)[name]? = none := rfl

/-- Notes that a sandbox has come into a state. -/
def note (t : Tracker) (name : SandboxName) (state : SandboxState) (now : Nanos) : Tracker :=
  ⟨SandboxRecord.enterIn name state now t.records,
    SandboxRecord.nodup_names_enterIn name state now t.distinct⟩

theorem note_row (t : Tracker) (name other : SandboxName) (state : SandboxState) (now : Nanos) :
    (t.note name state now)[other]? =
      if other = name then some ((t[name]?.getD (.fresh name)).enter state now)
      else t[other]? :=
  SandboxRecord.find?_enterIn name other state now t.records

/-- The records in order of name. -/
def sorted (t : Tracker) : List SandboxRecord :=
  t.records.mergeSort fun r r' => (compare r.name.text r'.name.text).isLE

end Tracker

end SandboxNet
