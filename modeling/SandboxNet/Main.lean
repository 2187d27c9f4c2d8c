import SandboxNet.CommandLine.Run

/-!
The command line as a program. It starts no other program itself: a command is written to standard
error as a line for the shell, and its outcome is read from standard input as a JSON object with
the fields `exit`, `stdout` and `stderr`.
-/
namespace SandboxNet.Main

open Json in
/-- The outcome of a command. -/
def outcome? (line : String) : Option ProcessOutput := do
  match ← fields? ["exit", "stdout", "stderr"] (← read? line) with
  | [code, stdout, stderr] =>
    let code ← optional? (asNat? 255) 0 code
    let stdout ← optional? asText? "" stdout
    let stderr ← optional? asText? "" stderr
    return ⟨code = 0, stdout.toUTF8.toList, stderr.toUTF8.toList⟩
  | _ => none

/-- A command as a line for the shell. -/
def shellLine (words : List String) : String :=
  String.intercalate " " (words.map fun word => String.ofList (Shell.quote word.toList))

def execute (words : List String) : IO (Except String ProcessOutput) := do
  IO.eprintln ("$ " ++ shellLine words)
  match outcome? (← (← IO.getStdin).getLine) with
  | some output => return .ok output
  | none => return .error "No such file or directory (os error 2)"

def pathExists (path : String) : IO Bool := do
  try
    let _ ← IO.FS.Handle.mk path .read
    return true
  catch _ => return false

/-- Only a directory has an entry for itself. -/
def isDirectory (path : String) : IO Bool :=
  if path.isEmpty then return false else pathExists (path ++ "/.")

def makeDirectories (path : String) : IO (Except String Unit) := do
  try
    IO.FS.createDirAll path
    return .ok ()
  catch e => return .error (toString e)

def answer : (c : MachineCall) → IO c.Reply
  | .execute program arguments => execute (program :: arguments)
  | .isDirectory path => isDirectory path
  | .pathExists path => pathExists path
  | .makeDirectories path => makeDirectories path
  | .now => IO.monoNanosNow
  | .sleep d => IO.sleep (min ((d + 999999) / 1000000) (UInt32.size - 1)).toUInt32

/-- The settings found in the environment. -/
def environment : IO (String → Option String) := do
  let found ← Settings.variableNames.mapM fun key => do return (key, ← IO.getEnv key)
  return fun key => ((found.find? (·.1 = key)).map (·.2)).join

end SandboxNet.Main

def main (arguments : List String) : IO UInt32 := do
  let env ← SandboxNet.Main.environment
  let exit ← (SandboxNet.CommandLine.run env arguments).interpret SandboxNet.Main.answer
  for warning in exit.warnings do
    IO.eprintln (" WARN corral: " ++ warning)
  if let some line := exit.error then
    IO.eprintln ("ERROR corral: " ++ line)
  IO.print exit.output
  return exit.code.toUInt32
