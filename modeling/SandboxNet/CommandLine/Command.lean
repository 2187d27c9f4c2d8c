/-! The commands of the command line, in their five groups. -/
namespace SandboxNet.CommandLine

inductive NetnsCommand where
  | create (name : String)
  | delete (name : String)
  | present (name : String)
  | list
deriving DecidableEq

inductive VethCommand where
  | create (name peer : String)
  | delete (name : String)
  | deletePair (name peer : String)
  | attach (name target : String)
  | detach (name : String) (bridge : Option String)
  | up (name : String)
  | down (name : String)
  | present (name : String)
  | status (name : String)
  | list (pairs : Bool)
  | info (name : String)
deriving DecidableEq

inductive BridgeCommand where
  | create (name : String) (address : Option String)
  | delete (name : String)
  | up (name : String)
  | down (name : String)
  | present (name : String)
  | status (name : String)
  | list
  | members (name : String)
  | addresses (name : String)
  | attach (name veth : String)
  | detach (name veth : String)
deriving DecidableEq

/-- The bridge is that of the settings unless one is given. -/
inductive NetCommand where
  | attach (sandbox : String) (bridge : Option String)
  | detach (sandbox : String) (bridge : Option String)
  | cleanup (sandbox : String) (bridge : Option String)
deriving DecidableEq

inductive SandboxCommand where
  | start (name : String)
  | stop (name : String)
  | status (name : String)
  | cleanup (name : String)
deriving DecidableEq

inductive Command where
  | netns (c : NetnsCommand)
  | veth (c : VethCommand)
  | bridge (c : BridgeCommand)
  | net (c : NetCommand)
  | sandbox (c : SandboxCommand)
deriving DecidableEq

/-- What a command line asks for. -/
inductive Request where
  | run (command : Command)
  | version
  | help (path : List String)
  | misuse
deriving DecidableEq

end SandboxNet.CommandLine
