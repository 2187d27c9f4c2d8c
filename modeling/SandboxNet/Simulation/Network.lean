import SandboxNet.Host.Call

/-!
A simulated host whose calls can be made to fail. A source of faults decides call by call; a call
that it strikes does nothing. Every call is logged.
-/
namespace SandboxNet

/-- Decides which calls fail, and with what error. -/
structure FaultSource (φ : Type) where
  strike : NetCall → φ → Option NetError × φ

/-- The source that lets every call through. -/
def FaultSource.quiet : FaultSource Unit :=
  ⟨fun _ s => (none, s)⟩

/-- A call made, and whether it succeeded. -/
structure NetEvent where
  call : NetCall
  succeeded : Bool
deriving DecidableEq

structure NetWorld (φ : Type) where
  host : Host
  faults : φ
  log : List NetEvent

namespace NetWorld

variable {φ : Type}

def answer (source : FaultSource φ) (c : NetCall) (w : NetWorld φ) :
    Except NetError c.Answer × NetWorld φ :=
  match source.strike c w.faults with
  | (some e, faults) => (.error e, ⟨w.host, faults, w.log ++ [⟨c, false⟩]⟩)
  | (none, faults) =>
    let (reply, host) := w.host.answer c
    (reply, ⟨host, faults, w.log ++ [⟨c, reply.isOk⟩]⟩)

/-- Carries out a network program in a simulated world. -/
def run {α : Type} (source : FaultSource φ) (p : NetProgram α) (w : NetWorld φ) :
    α × NetWorld φ :=
  p.run (answer source) w

end NetWorld

/-- A call that is to fail: after it was let through `skip` times, `times` times or for ever. -/
structure Fault where
  call : String
  skip : Nat
  times : Option Nat
deriving DecidableEq

namespace Fault

/-- The name of a call in a script of faults. -/
def callName : NetCall → String
  | .link .. => "link"
  | .links _ => "links"
  | .addVeth .. => "add_veth"
  | .addBridge _ => "add_bridge"
  | .deleteLink _ => "delete_link"
  | .setAdmin .. => "set_admin"
  | .setMaster .. => "set_master"
  | .setNetns .. => "set_netns"
  | .addresses _ => "addresses"
  | .addAddress .. => "add_address"
  | .namespaces => "namespaces"
  | .addNamespace _ => "add_namespace"
  | .deleteNamespace _ => "delete_namespace"

/-- One use of a fault for its call: whether it strikes, and what is left of it. -/
def use (f : Fault) : Bool × Option Fault :=
  match f.skip, f.times with
  | skip + 1, _ => (false, some { f with skip := skip })
  | 0, none => (true, some f)
  | 0, some n => (true, if n ≤ 1 then none else some { f with times := some (n - 1) })

/-- Uses the first fault of the list that is for a call. -/
def useFirst (call : String) : List Fault → Bool × List Fault
  | [] => (false, [])
  | f :: rest =>
    if f.call = call then
      let (struck, left) := f.use
      (struck, left.toList ++ rest)
    else
      let (struck, rest) := useFirst call rest
      (struck, f :: rest)

/-- Faults taken from a list. -/
def script : FaultSource (List Fault) where
  strike c faults :=
    let name := callName c
    let (struck, faults) := useFirst name faults
    (if struck then some (.command "ip" [name] "injected") else none, faults)

end Fault

end SandboxNet
