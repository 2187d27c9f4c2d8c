import SandboxNet.Name
import SandboxNet.Time

/-! Why an operation on the host network or on a sandbox fails. -/
namespace SandboxNet

inductive NetError where
  | invalidName (kind : ResourceKind) (name : String) (fault : NameFault)
  | alreadyExists (kind : ResourceKind) (name : String)
  | notFound (kind : ResourceKind) (name : String)
  | invalidTarget (name : String)
  | invalidAddress (text : String)
  | command (program : String) (arguments : List String) (stderr : String)
  | notStarted (reason : String)
  | unreadable (reason : String)
deriving DecidableEq

namespace NetError

def message : NetError → String
  | invalidName kind name fault =>
    "invalid " ++ kind.label ++ " name " ++ Text.quoteName name ++ ": " ++ fault.message
  | alreadyExists kind name => kind.label ++ " already exists: " ++ name
  | notFound kind name => kind.label ++ " not found: " ++ name
  | invalidTarget name => name ++ " is neither an existing bridge nor a network namespace"
  | invalidAddress text => "invalid address: " ++ text
  | command program arguments stderr =>
    "`" ++ program ++ " " ++ String.intercalate " " arguments ++ "` failed: " ++ stderr
  | notStarted reason => "I/O error: " ++ reason
  | unreadable reason => "JSON error: " ++ reason

/-- The message, followed by that of the cause beneath it if it has one. -/
def chain (e : NetError) : List String :=
  match e with
  | notStarted reason | unreadable reason => [e.message, reason]
  | _ => [e.message]

def isNotFound : NetError → Bool
  | notFound .. => true
  | _ => false

def isAlreadyExists : NetError → Bool
  | alreadyExists .. => true
  | _ => false

end NetError

/-- Refuses a name that breaks the rule. -/
def NameRule.check (rule : NameRule) (name : String) : Except NetError Unit :=
  match rule.fault? name with
  | some fault => .error (.invalidName rule.kind name fault)
  | none => .ok ()

/-- What is wrong with a configuration. -/
inductive ConfigFault where
  | bridgeName (name : String)
  | bridgeAddress (text : String)
  | zeroInterval
  | other (reason : String)
deriving DecidableEq

def ConfigFault.message : ConfigFault → String
  | bridgeName name => "invalid bridge name " ++ Text.quoteName name
  | bridgeAddress text => (NetError.invalidAddress text).message
  | zeroInterval => "poll interval must be > 0"
  | other reason => reason

inductive SandboxError where
  | net (cause : NetError)
  | invalidName (name : String) (fault : NameFault)
  | launchFailed (reason : String)
  | stillActive (unit : String) (elapsed : Nanos)
  | imageMissing (path : String)
  | invalidConfig (fault : ConfigFault)
  | supervisor (reason : String)
  | notStarted (reason : String)
deriving DecidableEq

namespace SandboxError

def message : SandboxError → String
  | net cause => "network error: " ++ cause.message
  | invalidName name fault =>
    "invalid sandbox name " ++ Text.quoteName name ++ ": " ++ fault.message
  | launchFailed reason => "launch failed: " ++ reason
  | stillActive unit elapsed =>
    "stop failed: " ++ unit ++ " still active after " ++ durationText elapsed
  | imageMissing path => "sandbox image not found: " ++ path
  | invalidConfig fault => "invalid configuration: " ++ fault.message
  | supervisor reason => "supervisor error: " ++ reason
  | notStarted reason => "I/O error: " ++ reason

/-- The message, followed by those of the causes beneath it. -/
def chain (e : SandboxError) : List String :=
  match e with
  | net cause => e.message :: cause.chain
  | notStarted reason => [e.message, reason]
  | _ => [e.message]

end SandboxError

end SandboxNet
