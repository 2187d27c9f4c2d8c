import SandboxNet.Text
import Std.Data.ExtTreeSet

/-!
Directories and empty files around a working directory. Every directory above the working directory
exists, and no absolute path leads anywhere. A path is followed name by name, as a system does it:
each name but the last has to lead to a directory.
-/
namespace SandboxNet

/-- Why a path cannot be used: a name in it is not there, or something else stands in the way. -/
inductive PathFault where
  | missing
  | blocked
deriving DecidableEq

def PathFault.message : PathFault → String
  | missing => "No such file or directory (os error 2)"
  | blocked => "Not a directory (os error 20)"

/-- What a directory holds: files and directories, one after the other. -/
inductive Entries where
  | none
  | file (name : String) (rest : Entries)
  | directory (name : String) (inside rest : Entries)

namespace Entries

/-- The entry of a name: a file, or a directory and what it holds. -/
def find? (name : String) : Entries → Option (Option Entries)
  | none => Option.none
  | file n rest => if n = name then some Option.none else rest.find? name
  | directory n inside rest => if n = name then some (some inside) else rest.find? name

/-- Changes what the directory at the end of some names holds. -/
def update (change : Entries → Entries) : List String → Entries → Entries
  | [], es => change es
  | _, none => none
  | path, file n rest => file n (rest.update change path)
  | name :: path, directory n inside rest =>
    if n = name then directory n (inside.update change path) rest
    else directory n inside (rest.update change (name :: path))

/-- The paths of all directories, each with the text before it. -/
def paths (before : String) : Entries → List String
  | none => []
  | file _ rest => rest.paths before
  | directory n inside rest =>
    (before ++ n) :: (inside.paths (before ++ n ++ "/") ++ rest.paths before)

end Entries

/-- What the working directory holds, then what those above it hold besides the way down. -/
structure FileTree where
  levels : List Entries

/-- A directory: how far to go up from the working directory, and the directories passed through
from there, the innermost first, with what they hold. -/
structure Directory where
  level : Nat
  trail : List (String × Entries)

namespace Directory

/-- The working directory. -/
def working : Directory := ⟨0, []⟩

def above (d : Directory) : Directory :=
  match d.trail with
  | [] => ⟨d.level + 1, []⟩
  | _ :: trail => ⟨d.level, trail⟩

def holds (d : Directory) (t : FileTree) : Entries :=
  match d.trail with
  | [] => t.levels.getD d.level .none
  | (_, inside) :: _ => inside

end Directory

namespace FileTree

def empty : FileTree := ⟨[]⟩

/-- Changes what is at a level; levels not mentioned so far hold nothing. -/
def updateLevel (change : Entries → Entries) : Nat → List Entries → List Entries
  | 0, [] => [change .none]
  | 0, es :: rest => change es :: rest
  | n + 1, [] => .none :: updateLevel change n []
  | n + 1, es :: rest => es :: updateLevel change n rest

/-- Adds an entry to a directory. -/
def add (t : FileTree) (d : Directory) (entry : Entries → Entries) : FileTree :=
  ⟨updateLevel (Entries.update entry (d.trail.reverse.map (·.1))) d.level t.levels⟩

/-- No name is longer, in bytes. -/
def longestName : Nat := 255

/-- Every path is shorter, in bytes. -/
def pathEnd : Nat := 4096

/-- The names in a relative path, blank ones included. No path holds a NUL. -/
def namesOf (path : String) : Except PathFault (List String) :=
  let cs := path.toList
  if cs.contains '\x00' || pathEnd ≤ path.utf8ByteSize then .error .blocked
  else if cs.isEmpty || cs.head? = some '/' then .error .missing
  else .ok ((Text.splitOn '/' cs).map String.ofList)

/-- What a path leads to. -/
inductive Spot where
  | file
  | directory (d : Directory)

/-- One name further. -/
def step (t : FileTree) : Spot → String → Except PathFault Spot
  | .file, _ => .error .blocked
  | .directory d, name =>
    if name = "" || name = "." then .ok (.directory d)
    else if name = ".." then .ok (.directory d.above)
    else if longestName < name.utf8ByteSize then .error .blocked
    else match (d.holds t).find? name with
      | none => .error .missing
      | some none => .ok .file
      | some (some inside) => .ok (.directory ⟨d.level, (name, inside) :: d.trail⟩)

/-- What names lead to from the working directory. -/
def follow (t : FileTree) (names : List String) : Except PathFault Spot :=
  names.foldlM t.step (.directory .working)

def leadsToDirectory (t : FileTree) (names : List String) : Bool :=
  match t.follow names with
  | .ok (.directory _) => true
  | _ => false

def isDirectory (t : FileTree) (path : String) : Bool :=
  match namesOf path with
  | .ok names => t.leadsToDirectory names
  | .error _ => false

def pathExists (t : FileTree) (path : String) : Bool :=
  (namesOf path >>= t.follow).isOk

/-- Makes a directory in another. What is there already, or is no name, stands in the way. -/
def makeIn (t : FileTree) (spot : Spot) (name : String) : Except PathFault FileTree :=
  match spot, t.step spot name with
  | .directory d, .error .missing => .ok (t.add d (.directory name .none))
  | _, _ => .error .blocked

/-- Names without the blank ones at their end. -/
def trimBlank (names : List String) : List String :=
  (names.reverse.dropWhile (· = "")).reverse

/-- Makes the last of some names where the others lead to. -/
def makeOne (t : FileTree) (names : List String) : Except PathFault FileTree :=
  let names := trimBlank names
  match names.getLast? with
  | some name => do t.makeIn (← t.follow names.dropLast) name
  | none => .error .missing

/-- The names that count: a dot counts only at the beginning. -/
def components : List String → List String
  | [] => []
  | first :: rest => first :: rest.filter fun name => !(name = "" || name = ".")

/-- Names, then the shorter paths above them, down to their first component. -/
def upward (names : List String) : List (List String) :=
  let parts := components names
  names :: ((List.range parts.length).drop 1).reverse.map parts.take

/-- Makes the first of some paths, and before it those after it that are missing. A path that
cannot be made is good enough if it is a directory. What was made on the way stays if a later step
fails. -/
def makeUpward (t : FileTree) : List (List String) → Except PathFault Unit × FileTree
  | [] => (.ok (), t)
  | names :: shorter =>
    let settle (t : FileTree) (e : PathFault) : Except PathFault Unit × FileTree :=
      (if t.leadsToDirectory names then .ok () else .error e, t)
    match t.makeOne names with
    | .ok t => (.ok (), t)
    | .error .blocked => settle t .blocked
    | .error .missing =>
      match t.makeUpward shorter with
      | (.error e, t) => (.error e, t)
      | (.ok (), t) =>
        match t.makeOne names with
        | .ok t => (.ok (), t)
        | .error e => settle t e

/-- Makes a directory with those above it. The empty path is there already. -/
def makeDirectories (t : FileTree) (path : String) : Except PathFault Unit × FileTree :=
  if path.isEmpty then (.ok (), t)
  else match namesOf path with
    | .ok names => t.makeUpward (upward names)
    | .error e => (.error e, t)

/-- Makes an empty file, with the directories above it. -/
def makeFile (t : FileTree) (path : String) : FileTree :=
  match (namesOf path).map components with
  | .error _ => t
  | .ok names =>
    let t := (t.makeUpward (upward names.dropLast)).2
    match t.follow names.dropLast, names.getLast? with
    | .ok (.directory d), some name => t.add d (.file name)
    | _, _ => t

/-- The paths of all directories below the working directory, in byte order. -/
def directoryPaths (t : FileTree) : List String :=
  (Std.ExtTreeSet.ofList ((t.levels.getD 0 .none).paths "")).toList

end FileTree

end SandboxNet
