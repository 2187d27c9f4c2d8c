import SandboxNet.Error
import SandboxNet.Text

/-!
Interface addresses: an IP address, a slash and a prefix length. A dotted quad has four decimal
numbers without leading zeros. An IPv6 text has eight groups of one to four hexadecimal digits; its
last two may be a dotted quad, and one double colon may stand for a run of zero groups.
-/
namespace SandboxNet

/-- An IP address by its value: four octets, or eight groups of sixteen bits. -/
inductive IpAddress where
  | v4 (octets : List Nat)
  | v6 (groups : List Nat)
deriving DecidableEq

/-- The longest prefix an address of this family has. -/
def IpAddress.width : IpAddress → Nat
  | .v4 _ => 32
  | .v6 _ => 128

/-- An address with the length of its network prefix. -/
structure Address where
  ip : IpAddress
  length : Nat
deriving DecidableEq

namespace Address

/-- A number from 0 to 255 without leading zeros. -/
def octet? (cs : List Char) : Option Nat :=
  if cs.length ≤ 3 ∧ (cs.head? = some '0' → cs.length = 1) then
    (Text.digits? cs).filter (· ≤ 255)
  else none

/-- The octets of a dotted quad. -/
def quad? (cs : List Char) : Option (List Nat) :=
  match Text.splitOn '.' cs with
  | [a, b, c, d] => [a, b, c, d].mapM octet?
  | _ => none

def hexDigit? (c : Char) : Option Nat :=
  if '0' ≤ c ∧ c ≤ '9' then some (c.toNat - '0'.toNat)
  else if 'a' ≤ c ∧ c ≤ 'f' then some (c.toNat - 'a'.toNat + 10)
  else if 'A' ≤ c ∧ c ≤ 'F' then some (c.toNat - 'A'.toNat + 10)
  else none

/-- The value of a sequence of hexadecimal digits read after `acc`. -/
def hexFrom (acc : Nat) : List Char → Option Nat
  | [] => some acc
  | c :: rest => (hexDigit? c).bind fun d => hexFrom (16 * acc + d) rest

/-- A group of one to four hexadecimal digits. -/
def group? (cs : List Char) : Option Nat :=
  if cs.isEmpty ∨ 4 < cs.length then none else hexFrom 0 cs

/-- The groups of pieces that stand before a double colon: no dotted quad among them. -/
def headGroups? (pieces : List (List Char)) : Option (List Nat) :=
  pieces.mapM group?

/-- The groups of pieces at the end of the text, where the last piece may be a dotted quad. -/
def tailGroups? : List (List Char) → Option (List Nat)
  | [] => some []
  | [last] =>
    match quad? last with
    | some [a, b, c, d] => some [256 * a + b, 256 * c + d]
    | _ => (group? last).map ([·])
  | piece :: rest => (group? piece).bind fun g => (tailGroups? rest).map (g :: ·)

/-- The pieces between single colons; an empty text has none. -/
def pieces (cs : List Char) : List (List Char) :=
  if cs.isEmpty then [] else Text.splitOn ':' cs

/-- The eight groups of an IPv6 text. -/
def groups? (cs : List Char) : Option (List Nat) :=
  match Text.cutAtDouble ':' cs with
  | none => (tailGroups? (pieces cs)).filter (·.length = 8)
  | some (before, after) => do
    let front ← headGroups? (pieces before)
    let back ← tailGroups? (pieces after)
    if front.length + back.length ≤ 7 then
      some (front ++ List.replicate (8 - front.length - back.length) 0 ++ back)
    else none

/-- An IP address in either family. -/
def ip? (cs : List Char) : Option IpAddress :=
  match quad? cs with
  | some octets => some (.v4 octets)
  | none => (groups? cs).map .v6

/-- Reads an address, its prefix length being at most the width of its family. -/
def parse? (text : String) : Option Address := do
  let (left, right) ← Text.cutAt '/' text.toList
  let ip ← ip? left
  let length ← Text.readNat 255 right
  if length ≤ ip.width then some ⟨ip, length⟩ else none

/-- Refuses a text that is no address. -/
def check (text : String) : Except NetError Unit :=
  if (parse? text).isSome then .ok () else .error (.invalidAddress text)

end Address

end SandboxNet
