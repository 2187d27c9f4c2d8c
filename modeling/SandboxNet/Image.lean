import SandboxNet.Machine
import SandboxNet.Sandbox

/-!
Root file systems of sandboxes: one directory each, made on demand if there is a template of a shell
command that makes one.
-/
namespace SandboxNet.Shell

/-- A character inside single quotes. A quote closes them, stands escaped, and opens them again. -/
def quoteChar (c : Char) : List Char :=
  if c = '\'' then ['\'', '\\', '\'', '\''] else [c]

/-- A text as one word of the shell. -/
def quote (cs : List Char) : List Char :=
  '\'' :: (cs.flatMap quoteChar ++ ['\''])

/-- A template with each of its braced `dir` replaced. -/
def fill (word : List Char) : List Char → List Char
  | '\x7b' :: 'd' :: 'i' :: 'r' :: '\x7d' :: rest => word ++ fill word rest
  | c :: rest => c :: fill word rest
  | [] => []

/-- The command of a template for a directory. -/
def command (template directory : String) : String :=
  String.ofList (fill (quote directory.toList) template.toList)

end SandboxNet.Shell

namespace SandboxNet

/-- The directory of the images, and the template of the command that makes one. -/
structure ImageDirectory where
  root : String
  bootstrap : Option String
deriving DecidableEq

namespace ImageDirectory

/-- A path below another: a slash goes between them unless one is there or the first is empty. -/
def join (root name : String) : String :=
  if root.isEmpty || root.toList.getLast? = some '/' then root ++ name else root ++ "/" ++ name

/-- Where the image of a sandbox is, or would be. -/
def path (d : ImageDirectory) (name : SandboxName) : String :=
  join d.root name.text

/-- Makes an image by the template. -/
def make (d : ImageDirectory) (template path : String) :
    MachineProgram (Except SandboxError Unit) := do
  match ← MachineProgram.ask (.makeDirectories d.root) with
  | .error reason => return .error (.notStarted reason)
  | .ok () =>
    match ← MachineProgram.ask (.execute "sh" ["-c", Shell.command template path]) with
    | .error reason => return .error (.notStarted reason)
    | .ok output => return if output.succeeded then .ok () else .error (.imageMissing path)

/-- The image of a sandbox if it is there. -/
def find (path : String) : MachineProgram (Except SandboxError String) := do
  return if ← MachineProgram.ask (.isDirectory path) then .ok path else .error (.imageMissing path)

/-- The image of a sandbox, made by the template if it is not there. -/
def ensure (d : ImageDirectory) (name : SandboxName) :
    MachineProgram (Except SandboxError String) := do
  let path := d.path name
  match ← find path, d.bootstrap with
  | .error _, some template =>
    match ← d.make template path with
    | .ok () => find path
    | .error e => return .error e
  | result, _ => return result

end ImageDirectory

end SandboxNet
