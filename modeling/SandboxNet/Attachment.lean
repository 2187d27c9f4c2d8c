import SandboxNet.Bridge

/-!
The wire of a sandbox: a namespace of its own, and a veth pair from a bridge of the host into that
namespace. The names of all three follow from the name of the sandbox.
-/
namespace SandboxNet

/-- The host resources of one sandbox. -/
structure WireNames where
  hostVeth : String
  sandboxVeth : String
  netns : String
deriving DecidableEq

/-- The names made from a text, whether or not it is a sandbox name. -/
def WireNames.of (sandbox : String) : WireNames where
  hostVeth := "vh-" ++ sandbox
  sandboxVeth := "host0"
  netns := "corral-" ++ sandbox

/-- The names made from a sandbox name. -/
def WireNames.forSandbox (sandbox : String) : Except NetError WireNames := do
  NameRule.sandbox.check sandbox
  return .of sandbox

namespace Attachment

/-- Wires a fresh pair: the host end into the bridge, the bridge up, the other end inside. -/
def connect (bridge : String) (names : WireNames) : Net Unit := do
  Veth.attachTo names.hostVeth (.bridge bridge)
  Bridge.setUp bridge true
  Veth.attachTo names.sandboxVeth (.netns names.netns)

/-- Deletes a pair that could not be wired; what fails in doing so is not reported. -/
def rollback (names : WireNames) : NetProgram Unit :=
  Net.discard (Veth.deletePair names.hostVeth names.sandboxVeth)

/-- Wires a sandbox into a bridge. If the pair cannot be wired it is deleted again. -/
def attach (bridge sandbox : String) : Net Unit := do
  let names ← Net.ofExcept (WireNames.forSandbox sandbox)
  Bridge.create bridge none
  let _ ← Namespace.ensure names.netns
  Veth.create names.hostVeth names.sandboxVeth
  match ← Net.attempt (connect bridge names) with
  | .ok () => return
  | .error e =>
    rollback names
    throw e

/-- Deletes the pair of a sandbox if it is there. The bridge has to exist. -/
def detach (bridge sandbox : String) : Net Unit := do
  let names ← Net.ofExcept (WireNames.forSandbox sandbox)
  if !(← Bridge.present bridge) then
    throw (.notFound .bridge bridge)
  if ← Veth.present names.hostVeth then
    Veth.delete names.hostVeth

/-- Deletes the namespace of a sandbox if it is there. -/
def dropNamespace (netns : String) : NetProgram Unit := do
  if ← Namespace.present netns then
    Net.discard (Namespace.delete netns)

/-- Takes away all that a sandbox has on the host; says whether nothing is left. Never fails. -/
def cleanup (sandbox bridge : String) : NetProgram Bool := do
  match WireNames.forSandbox sandbox with
  | .error _ => return false
  | .ok names =>
    Net.discard (detach bridge sandbox)
    dropNamespace names.netns
    let vethLeft ← Veth.present names.hostVeth
    let netnsLeft ← Namespace.present names.netns
    return !(vethLeft || netnsLeft)

end Attachment

end SandboxNet
