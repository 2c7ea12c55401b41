import CiteRender.Decimal.Shortest

/-!
# JSON Values

Values of JSON with the numbers kept as they were meant: an integer that
fits 64 bits is exact, every other number is a binary number. The members of
an object are in the order of their names, each name once, so an object read
from text does not remember the order it was written in.

A value is printed on one line without blanks. A binary number is printed
with the fewest digits that read back, and always with a decimal point or an
exponent, so that it stays apart from an integer.

## Main definitions

* `Json.Number`, `Json.Value`: Numbers and values.
* `Json.setMember`: Puts a member in its place among sorted members.
* `Json.Value.member?`, `Json.Value.asText?`: Looking into a value.
* `Json.Value.print`: The text of a value on one line.
-/

namespace CiteRender

namespace Json

/-- A number: an integer that fits 64 bits, or a binary number. -/
inductive Number where
  | natural (n : Nat)
  | negative (n : Nat)
  | binary (x : Binary64)
  deriving DecidableEq

/-- A JSON value. -/
inductive Value where
  | null
  | bool (b : Bool)
  | number (n : Number)
  | text (s : String)
  | array (items : List Value)
  | object (members : List (String × Value))

/-- Members in the order of their names with one more put in its place. A
    member of the same name is replaced. -/
def setMember (name : String) (value : Value) :
    List (String × Value) → List (String × Value)
  | [] => [(name, value)]
  | member :: rest =>
    match compare name member.1 with
    | .lt => (name, value) :: member :: rest
    | .eq => (name, value) :: rest
    | .gt => member :: setMember name value rest

/-- The object of members in any order; the last of each name wins. -/
def Value.ofMembers (members : List (String × Value)) : Value :=
  .object (members.foldl (fun sorted member => setMember member.1 member.2 sorted) [])

/-- The member of an object under a name. -/
def Value.member? (name : String) : Value → Option Value
  | .object members => members.lookup name
  | _ => none

/-- The text of a text value. -/
def Value.asText? : Value → Option String
  | .text s => some s
  | _ => none

/-- Whether the value is an object. -/
def Value.isObject : Value → Bool
  | .object _ => true
  | _ => false

/-- Exponents from -5 to 15 are written out. -/
def numberLayout : DecimalLayout :=
  ⟨-5, 16⟩

/-- The text of a number. -/
def Number.print : Number → List Char
  | .natural n => Nat.toDigits 10 n
  | .negative n => '-' :: Nat.toDigits 10 n
  | .binary x => x.text numberLayout

/-- How one character is written inside a text value: quotes, backslashes and
    control characters are escaped, all else stands for itself. -/
def escapeChar (c : Char) : List Char :=
  if c = '"' then ['\\', '"']
  else if c = '\\' then ['\\', '\\']
  else if c = '\n' then ['\\', 'n']
  else if c = '\r' then ['\\', 'r']
  else if c = '\t' then ['\\', 't']
  else if c = '\x08' then ['\\', 'b']
  else if c = '\x0c' then ['\\', 'f']
  else if c.toNat < 0x20 then
    ['\\', 'u', '0', '0'] ++ (if c.toNat < 16 then ['0'] else []) ++ Nat.toDigits 16 c.toNat
  else [c]

/-- A text value as written. -/
def printText (s : String) : List Char :=
  '"' :: s.toList.flatMap escapeChar ++ ['"']

mutual

/-- The text of a value on one line, without blanks. -/
def Value.print : Value → List Char
  | .null => "null".toList
  | .bool b => (if b then "true" else "false").toList
  | .number n => n.print
  | .text s => printText s
  | .array items => '[' :: printItems items ++ [']']
  | .object members => '\x7b' :: printMembers members ++ ['\x7d']

/-- The items of an array, separated by commas. -/
def printItems : List Value → List Char
  | [] => []
  | [item] => item.print
  | item :: rest => item.print ++ ',' :: printItems rest

/-- The members of an object, separated by commas. -/
def printMembers : List (String × Value) → List Char
  | [] => []
  | [(name, value)] => printText name ++ ':' :: value.print
  | (name, value) :: rest => printText name ++ ':' :: value.print ++ ',' :: printMembers rest

end

end Json

end CiteRender
