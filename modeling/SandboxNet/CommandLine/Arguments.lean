import SandboxNet.CommandLine.Grammar
import SandboxNet.Text

/-!
Reading arguments. Flags may stand anywhere, an option takes the argument after it or the text
after an equals sign, and after two dashes every argument is an operand. The first request for help
or for the version, or the first mistake, decides.
-/
namespace SandboxNet.CommandLine

/-- The form of an argument. -/
inductive Argument where
  | word (text : String)
  | long (name : String) (value : Option String)
  | short (flags : List Char)
  | endOfFlags
deriving DecidableEq

/-- A dash on its own is a word like any other. -/
def Argument.ofText (text : String) : Argument :=
  match text.toList with
  | ['-', '-'] => endOfFlags
  | '-' :: '-' :: rest =>
    match Text.cutAt '=' rest with
    | some (name, value) => long (String.ofList name) (some (String.ofList value))
    | none => long (String.ofList rest) none
  | '-' :: c :: rest => short (c :: rest)
  | _ => word text

/-- Reading stops with a request, or gives what was read. -/
abbrev Reading := Except Request

/-- Flags in one argument, `verbose` telling whether the verbose flag was given at this level. -/
def readShort (path : List String) (atRoot : Bool) : Bool → List Char → Reading Bool
  | verbose, [] => .ok verbose
  | verbose, c :: rest =>
    if c = 'v' then
      if verbose then .error .misuse else readShort path atRoot true rest
    else if c = 'h' then .error (.help path)
    else if atRoot && c = 'V' then .error .version
    else .error .misuse

/-- A flag that every level has. -/
def readLong (path : List String) (atRoot verbose : Bool) (name : String) (value : Option String) :
    Reading Bool :=
  if value.isSome then .error .misuse
  else if name = "verbose" then if verbose then .error .misuse else .ok true
  else if name = "help" then .error (.help path)
  else if atRoot && name = "version" then .error .version
  else .error .misuse

/-- One more operand, if there is room for it. -/
def Given.operand (g : Given) (leaf : Leaf) (text : String) : Reading Given :=
  if g.operands.length < leaf.operands then .ok { g with operands := g.operands ++ [text] }
  else .error .misuse

/-- The value of an option, which may be given once. -/
def Given.option (g : Given) (name value : String) : Reading Given :=
  if (g.value? name).isSome then .error .misuse
  else .ok { g with values := g.values ++ [(name, value)] }

/-- A switch, which may be given once. -/
def Given.switch (g : Given) (name : String) : Reading Given :=
  if g.switches.contains name then .error .misuse
  else .ok { g with switches := g.switches ++ [name] }

/-- Only operands are left. -/
def readOperands (leaf : Leaf) (g : Given) (arguments : List String) : Reading Given :=
  arguments.foldlM (fun g text => g.operand leaf text) g

/-- The arguments of a command. -/
def readGiven (path : List String) (leaf : Leaf) : Bool → Given → List String → Reading Given
  | _, g, [] => .ok g
  | verbose, g, text :: rest =>
    match Argument.ofText text with
    | .endOfFlags => readOperands leaf g rest
    | .word text => do readGiven path leaf verbose (← g.operand leaf text) rest
    | .short flags => do readGiven path leaf (← readShort path false verbose flags) g rest
    | .long name value =>
      if leaf.options.contains name then
        match value, rest with
        | some value, rest => do readGiven path leaf verbose (← g.option name value) rest
        | none, next :: rest =>
          match Argument.ofText next with
          | .word value => do readGiven path leaf verbose (← g.option name value) rest
          | _ => .error .misuse
        | none, [] => .error .misuse
      else if leaf.switches.contains name then
        if value.isSome then .error .misuse
        else do readGiven path leaf verbose (← g.switch name) rest
      else do readGiven path leaf (← readLong path false verbose name value) g rest

def readLeaf (path : List String) (leaf : Leaf) (arguments : List String) : Reading Command := do
  let g ← readGiven path leaf false {} arguments
  match leaf.make g with
  | some command => return command
  | none => throw .misuse

/-- Flags up to the first word, then what `next` makes of that word and the rest. -/
def readWord {α : Type} (path : List String) (atRoot : Bool)
    (next : String → List String → Reading α) : Bool → List String → Reading α
  | _, [] => .error .misuse
  | verbose, text :: rest =>
    match Argument.ofText text with
    | .endOfFlags => .error .misuse
    | .word text => next text rest
    | .short flags => do readWord path atRoot next (← readShort path atRoot verbose flags) rest
    | .long name value => do
      readWord path atRoot next (← readLong path atRoot verbose name value) rest

/-- Help about a command of a group, named by the words that follow. -/
def helpInGroup (group : Group) : List String → Request
  | [] => .help [group.word]
  | [word] =>
    if word = "help" || group.leaves.any (·.word = word) then .help [group.word, word] else .misuse
  | _ => .misuse

/-- Help about what the words that follow name. -/
def helpAtRoot : List String → Request
  | [] => .help []
  | word :: rest =>
    match groups.find? (·.word = word) with
    | some group => helpInGroup group rest
    | none => if word = "help" && rest.isEmpty then .help ["help"] else .misuse

def readInGroup (group : Group) (word : String) (rest : List String) : Reading Command :=
  match group.leaves.find? (·.word = word) with
  | some leaf => readLeaf [group.word, word] leaf rest
  | none => .error (if word = "help" then helpInGroup group rest else .misuse)

def readAtRoot (word : String) (rest : List String) : Reading Command :=
  match groups.find? (·.word = word) with
  | some group => readWord [group.word] false (readInGroup group) false rest
  | none => .error (if word = "help" then helpAtRoot rest else .misuse)

/-- What a list of arguments asks for. -/
def Request.ofArguments (arguments : List String) : Request :=
  match readWord [] true readAtRoot false arguments with
  | .ok command => .run command
  | .error request => request

end SandboxNet.CommandLine
