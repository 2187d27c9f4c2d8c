import SandboxNet.Text.Numbered

/-!
Texts: blank characters, decimal numbers, cutting at separators, and texts as they stand quoted in
messages and safe in the log.
-/
namespace SandboxNet.Text

/-- The characters with the Unicode property White_Space. -/
def isBlank (c : Char) : Bool :=
  let n := c.toNat
  (9 ≤ n && n ≤ 13) || n == 0x20 || n == 0x85 || n == 0xA0 || n == 0x1680 ||
    (0x2000 ≤ n && n ≤ 0x200A) || n == 0x2028 || n == 0x2029 || n == 0x202F || n == 0x205F ||
    n == 0x3000

/-- A text without the blanks at its two ends. -/
def trim (s : String) : String :=
  String.ofList ((s.toList.dropWhile isBlank).reverse.dropWhile isBlank).reverse

/-- Whether a text holds nothing but blanks. -/
def allBlank (s : String) : Bool :=
  s.toList.all isBlank

/-- The value of an ASCII decimal digit. -/
def digit? (c : Char) : Option Nat :=
  if '0' ≤ c ∧ c ≤ '9' then some (c.toNat - '0'.toNat) else none

/-- The value of a sequence of digits read after `acc`; fails at anything else. -/
def digitsFrom (acc : Nat) : List Char → Option Nat
  | [] => some acc
  | c :: rest => (digit? c).bind fun d => digitsFrom (10 * acc + d) rest

/-- A plain sequence of one or more digits. -/
def digits? (cs : List Char) : Option Nat :=
  if cs.isEmpty then none else digitsFrom 0 cs

/-- A number of at most `max`: an optional plus sign, then digits, leading zeros allowed. -/
def readNat (max : Nat) (cs : List Char) : Option Nat :=
  let body := match cs with
    | '+' :: rest => rest
    | _ => cs
  (digits? body).filter (· ≤ max)

/-- Decimal text of a number. -/
def natText (n : Nat) : String :=
  String.ofList (Nat.toDigits 10 n)

/-- The pieces between the separators: one more than there are separators. -/
def splitOn (sep : Char) : List Char → List (List Char)
  | [] => [[]]
  | c :: rest =>
    if c = sep then [] :: splitOn sep rest
    else match splitOn sep rest with
      | [] => [[c]]
      | piece :: pieces => (c :: piece) :: pieces

/-- What stands before and after the first separator, if there is one. -/
def cutAt (sep : Char) : List Char → Option (List Char × List Char)
  | [] => none
  | c :: rest =>
    if c = sep then some ([], rest)
    else (cutAt sep rest).map fun (before, after) => (c :: before, after)

/-- What stands before and after the first two separators in a row. -/
def cutAtDouble (sep : Char) : List Char → Option (List Char × List Char)
  | c :: d :: rest =>
    if c = sep ∧ d = sep then some ([], rest)
    else (cutAtDouble sep (d :: rest)).map fun (before, after) => (c :: before, after)
  | _ => none

/-- Whether `part` stands somewhere in the text. -/
def contains (part : List Char) : List Char → Bool
  | [] => part.isEmpty
  | c :: rest => part.isPrefixOf (c :: rest) || contains part rest

/-- Braced lower-case hexadecimal escape, without leading zeros. -/
def numberEscape (c : Char) : List Char :=
  ['\\', 'u', '\x7b'] ++ Nat.toDigits 16 c.toNat ++ ['\x7d']

/-- One character of a text between marks. Of the two quotes only the mark itself is escaped. -/
def escape (mark c : Char) : List Char :=
  if c = '\x00' then ['\\', '0']
  else if c = '\t' then ['\\', 't']
  else if c = '\r' then ['\\', 'r']
  else if c = '\n' then ['\\', 'n']
  else if c = '\\' then ['\\', '\\']
  else if c = mark then ['\\', c]
  else if isNumbered c then numberEscape c
  else [c]

/-- A text between marks, with what cannot stand there escaped. -/
def quoted (mark : Char) (s : String) : String :=
  String.ofList (mark :: (s.toList.flatMap (escape mark) ++ [mark]))

/-- A name or a path between double quotes. -/
def quoteName (s : String) : String :=
  quoted '"' s

/-- A character between single quotes. -/
def quoteChar (c : Char) : String :=
  quoted '\'' (String.singleton c)

/-- Controls that ring, move back, feed, begin an escape sequence or delete. -/
def steersTerminal (c : Char) : Bool :=
  c = '\x07' || c = '\x08' || c = '\x0c' || c = '\x1b' || c = '\x7f'

/-- Controls of the second set, which are escape sequences in one character. -/
def isSecondControl (c : Char) : Bool :=
  0x80 ≤ c.toNat && c.toNat ≤ 0x9F

/-- A number in two hexadecimal digits. -/
def twoDigits (n : Nat) : List Char :=
  [Nat.digitChar (n / 16), Nat.digitChar (n % 16)]

/-- One character of a message. -/
def logChar (c : Char) : List Char :=
  if steersTerminal c then ['\\', 'x'] ++ twoDigits c.toNat
  else if isSecondControl c then ['\\', 'u', '\x7b'] ++ twoDigits c.toNat ++ ['\x7d']
  else [c]

/-- A message in the log. -/
def logged (s : String) : String :=
  String.ofList (s.toList.flatMap logChar)

end SandboxNet.Text
