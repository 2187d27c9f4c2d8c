/-!
Reading bytes as UTF-8. Where the bytes are no UTF-8, each longest start of a character that is cut
short, and each other byte, is read as one replacement character.
-/
namespace SandboxNet.Text

def replacement : Char := Char.ofNat 0xFFFD

def isContinuation (b : UInt8) : Bool :=
  0x80 ≤ b && b ≤ 0xBF

/-- Which bytes may follow the first of three: no overlong forms, no surrogates. -/
def secondOfThree (a b : UInt8) : Bool :=
  if a = 0xE0 then 0xA0 ≤ b && b ≤ 0xBF
  else if a = 0xED then 0x80 ≤ b && b ≤ 0x9F
  else isContinuation b

/-- Which bytes may follow the first of four: no overlong forms, nothing past the last plane. -/
def secondOfFour (a b : UInt8) : Bool :=
  if a = 0xF0 then 0x90 ≤ b && b ≤ 0xBF
  else if a = 0xF4 then 0x80 ≤ b && b ≤ 0x8F
  else isContinuation b

/-- The character whose lead bits are `lead`, followed by continuation bytes. -/
def assemble (lead : Nat) (rest : List UInt8) : Char :=
  Char.ofNat (rest.foldl (fun acc b => acc * 64 + b.toNat % 64) lead)

/-- Reads one character, or one replacement; gives it and the number of bytes read. -/
def readOne (a : UInt8) (rest : List UInt8) : Char × Nat :=
  if a < 0x80 then (Char.ofNat a.toNat, 1)
  else if 0xC2 ≤ a && a ≤ 0xDF then
    match rest with
    | b :: _ => if isContinuation b then (assemble (a.toNat % 32) [b], 2) else (replacement, 1)
    | [] => (replacement, 1)
  else if 0xE0 ≤ a && a ≤ 0xEF then
    match rest with
    | b :: c :: _ =>
      if !secondOfThree a b then (replacement, 1)
      else if !isContinuation c then (replacement, 2)
      else (assemble (a.toNat % 16) [b, c], 3)
    | [b] => (replacement, if secondOfThree a b then 2 else 1)
    | [] => (replacement, 1)
  else if 0xF0 ≤ a && a ≤ 0xF4 then
    match rest with
    | b :: c :: d :: _ =>
      if !secondOfFour a b then (replacement, 1)
      else if !isContinuation c then (replacement, 2)
      else if !isContinuation d then (replacement, 3)
      else (assemble (a.toNat % 8) [b, c, d], 4)
    | [b, c] => (replacement, if !secondOfFour a b then 1 else if isContinuation c then 3 else 2)
    | [b] => (replacement, if secondOfFour a b then 2 else 1)
    | [] => (replacement, 1)
  else (replacement, 1)

/-- Reads on after `skip` bytes that belong to the character before. -/
def readAll (skip : Nat) : List UInt8 → List Char
  | [] => []
  | a :: rest =>
    match skip with
    | skip + 1 => readAll skip rest
    | 0 =>
      let (c, n) := readOne a rest
      c :: readAll (n - 1) rest

/-- The text of a sequence of bytes. -/
def ofUtf8 (bytes : List UInt8) : String :=
  String.ofList (readAll 0 bytes)

end SandboxNet.Text
