import CiteRender.Json.Value
import CiteRender.Text.Digit

/-!
# Reading JSON

A reader takes the text that is left and gives what it read with the rest,
or a problem: the text ended too early, or it is malformed. Blanks between
tokens are the four ASCII ones. Arrays and objects may be nested 127 deep.

The digits of a number are kept as long as they fit 64 bits. What remains of
a longer integer counts as zeros, and what remains of a longer fraction is
dropped; a number beyond the binary format is malformed.

The readers of values call each other with `fuel`, a bound on the tokens
still to come. Every call consumes a character, so the length of the text is
enough, and running out of it would mean the text has ended.

## Main definitions

* `Json.Problem`: Why a text is no JSON.
* `Json.readNumber`, `Json.readText`: Numbers and texts.
* `Json.readValue`: A value, with the text after it.
* `Json.read`: The value that a whole text is.
-/

namespace CiteRender

namespace Json

/-- Why a text is no JSON: it ends too early, or it is malformed. -/
inductive Problem where
  | ended
  | malformed
  deriving DecidableEq

/-- The blanks between tokens. -/
def isGap (c : Char) : Bool :=
  c == ' ' || c == '\t' || c == '\n' || c == '\r'

/-- The text after the blanks at its start. -/
def skipGap (s : List Char) : List Char :=
  s.dropWhile isGap

/-- The problem of a text that does not go on as it should. -/
def unexpected : List Char → Problem
  | [] => .ended
  | _ :: _ => .malformed

/-- Passes over a fixed word. -/
def readWord : List Char → List Char → Except Problem (List Char)
  | [], s => .ok s
  | _ :: _, [] => .error .ended
  | c :: word, d :: s => if c = d then readWord word s else .error .malformed

/-- Appends digits to a significand as long as it fits 64 bits, and gives the
    digits that did not fit. -/
def absorb : Nat → List Char → Nat × List Char
  | significand, [] => (significand, [])
  | significand, c :: digits =>
    let next := significand * 10 + Text.digitValue c
    if next < Nat.pow 2 64 then absorb next digits else (significand, c :: digits)

/-- Reads the exponent of a number, if it has one. -/
def readExponent : List Char → Except Problem (Option Int × List Char)
  | c :: s =>
    if c = 'e' ∨ c = 'E' then
      let signed := match s with
        | '+' :: s => (false, s)
        | '-' :: s => (true, s)
        | s => (false, s)
      let digits := signed.2.takeWhile Char.isDigit
      if digits.isEmpty then .error (unexpected signed.2)
      else
        let n : Int := Text.decimalValue digits
        .ok (some (if signed.1 then -n else n), signed.2.dropWhile Char.isDigit)
    else .ok (none, c :: s)
  | [] => .ok (none, [])

/-- The binary number of a decimal, or a problem when it is too large. -/
def binaryNumber (negative : Bool) (significand : Nat) (exponent : Int) :
    Except Problem Number :=
  match Binary64.ofDecimal negative significand exponent with
  | some x => .ok (.binary x)
  | none => .error .malformed

/-- An integer that fits 64 bits. Zero with a sign, and what is too low, is binary. -/
def integerNumber (negative : Bool) (n : Nat) : Except Problem Number :=
  if !negative then .ok (.natural n)
  else if 0 < n ∧ n ≤ Nat.pow 2 63 then .ok (.negative n)
  else binaryNumber true n 0

/-- Reads the digits of a number after its sign. -/
def readUnsigned (negative : Bool) (s : List Char) : Except Problem (Number × List Char) := do
  let whole := s.takeWhile Char.isDigit
  let rest := s.dropWhile Char.isDigit
  if whole.isEmpty then throw (unexpected s)
  if whole.head? = some '0' ∧ 1 < whole.length then throw .malformed
  let kept := absorb 0 whole
  match rest with
  | '.' :: tail =>
    let part := tail.takeWhile Char.isDigit
    let rest := tail.dropWhile Char.isDigit
    if part.isEmpty then throw (unexpected tail)
    let all := absorb kept.1 part
    let shift : Int := (kept.2.length : Int) - ((part.length : Int) - all.2.length)
    let (exponent, rest) ← readExponent rest
    let n ← binaryNumber negative all.1 (shift + exponent.getD 0)
    return (n, rest)
  | rest =>
    let (exponent, rest) ← readExponent rest
    match exponent with
    | some e =>
      let n ← binaryNumber negative kept.1 ((kept.2.length : Int) + e)
      return (n, rest)
    | none =>
      if kept.2.isEmpty then
        let n ← integerNumber negative kept.1
        return (n, rest)
      else
        let n ← binaryNumber negative kept.1 kept.2.length
        return (n, rest)

/-- Reads a number. -/
def readNumber : List Char → Except Problem (Number × List Char)
  | '-' :: s => readUnsigned true s
  | s => readUnsigned false s

/-- Whether a text has fewer than four bytes in UTF-8. -/
def fewBytes (s : List Char) : Bool :=
  (s.take 4).foldl (fun bytes c => bytes + c.utf8Size) 0 < 4

/-- Reads the four hexadecimal digits of an escape. -/
def readHex (s : List Char) : Except Problem (Nat × List Char) :=
  if fewBytes s then .error .ended
  else
    match s with
    | a :: b :: c :: d :: rest =>
      match Text.hexValue? a, Text.hexValue? b, Text.hexValue? c, Text.hexValue? d with
      | some a, some b, some c, some d => .ok (((a * 16 + b) * 16 + c) * 16 + d, rest)
      | _, _, _, _ => .error .malformed
    | _ => .error .malformed

/-- Reads the code point of a `\u` escape. A high surrogate needs the escape
    of a low one behind it. -/
def readCodePoint (s : List Char) : Except Problem (Char × List Char) := do
  let (n, rest) ← readHex s
  if 0xDC00 ≤ n ∧ n ≤ 0xDFFF then throw .malformed
  if n < 0xD800 ∨ 0xDBFF < n then return (Char.ofNat n, rest)
  let rest ← readWord ['\\', 'u'] rest
  let (low, rest) ← readHex rest
  if low < 0xDC00 ∨ 0xDFFF < low then throw .malformed
  return (Char.ofNat ((n - 0xD800) * 0x400 + (low - 0xDC00) + 0x10000), rest)

/-- The character of a one-letter escape. -/
def simpleEscape? (c : Char) : Option Char :=
  match c with
  | '"' => some '"'
  | '\\' => some '\\'
  | '/' => some '/'
  | 'b' => some '\x08'
  | 'f' => some '\x0c'
  | 'n' => some '\n'
  | 'r' => some '\r'
  | 't' => some '\t'
  | _ => none

/-- Reads the characters of a text up to its closing quote. -/
def readChars : (fuel : Nat) → List Char → Except Problem (List Char × List Char)
  | 0, _ => .error .ended
  | _ + 1, [] => .error .ended
  | fuel + 1, c :: s =>
    if c = '"' then .ok ([], s)
    else if c = '\\' then
      match s with
      | [] => .error .ended
      | 'u' :: s => do
        let (c, s) ← readCodePoint s
        let (cs, s) ← readChars fuel s
        return (c :: cs, s)
      | c :: s =>
        match simpleEscape? c with
        | none => .error .malformed
        | some c => do
          let (cs, s) ← readChars fuel s
          return (c :: cs, s)
    else if c.toNat < 0x20 then .error .malformed
    else do
      let (cs, s) ← readChars fuel s
      return (c :: cs, s)

/-- Reads a text after its opening quote. -/
def readText (s : List Char) : Except Problem (String × List Char) := do
  let (cs, rest) ← readChars (s.length + 1) s
  return (String.ofList cs, rest)

/-- Reads the colon between a name and its value. -/
def readColon (s : List Char) : Except Problem (List Char) :=
  match skipGap s with
  | ':' :: rest => .ok rest
  | rest => .error (unexpected rest)

/-- Reads the start of a further item after a comma, which must not be the
    closing character. -/
def startOfNext (close : Char) (s : List Char) : Except Problem (List Char) :=
  match skipGap s with
  | [] => .error .ended
  | c :: rest => if c = close then .error .malformed else .ok (c :: rest)

mutual

/-- Reads a value. `depth` is how many arrays and objects may still be opened. -/
def readValue : (fuel depth : Nat) → List Char → Except Problem (Value × List Char)
  | 0, _, _ => .error .ended
  | fuel + 1, depth, s =>
    match skipGap s with
    | [] => .error .ended
    | 'n' :: rest => (readWord "ull".toList rest).map fun rest => (.null, rest)
    | 't' :: rest => (readWord "rue".toList rest).map fun rest => (.bool true, rest)
    | 'f' :: rest => (readWord "alse".toList rest).map fun rest => (.bool false, rest)
    | '"' :: rest => (readText rest).map fun r => (.text r.1, r.2)
    | '[' :: rest =>
      if depth = 0 then .error .malformed
      else
        match skipGap rest with
        | ']' :: rest => .ok (.array [], rest)
        | [] => .error .ended
        | rest => (readItems fuel (depth - 1) rest).map fun r => (.array r.1, r.2)
    | '\x7b' :: rest =>
      if depth = 0 then .error .malformed
      else
        match skipGap rest with
        | '\x7d' :: rest => .ok (.object [], rest)
        | rest => (readMembers fuel (depth - 1) rest).map fun r => (Value.ofMembers r.1, r.2)
    | c :: rest =>
      if c = '-' ∨ c.isDigit then (readNumber (c :: rest)).map fun r => (.number r.1, r.2)
      else .error .malformed

/-- Reads the items of an array up to its closing bracket. -/
def readItems : (fuel depth : Nat) → List Char → Except Problem (List Value × List Char)
  | 0, _, _ => .error .ended
  | fuel + 1, depth, s =>
    match readValue fuel depth s with
    | .error problem => .error problem
    | .ok (item, rest) =>
      match skipGap rest with
      | ']' :: rest => .ok ([item], rest)
      | ',' :: rest =>
        match startOfNext ']' rest with
        | .error problem => .error problem
        | .ok rest => (readItems fuel depth rest).map fun r => (item :: r.1, r.2)
      | rest => .error (unexpected rest)

/-- Reads the members of an object, from the name of the first, up to its
    closing brace. -/
def readMembers : (fuel depth : Nat) → List Char →
    Except Problem (List (String × Value) × List Char)
  | 0, _, _ => .error .ended
  | fuel + 1, depth, s =>
    match s with
    | '"' :: rest =>
      match readText rest with
      | .error problem => .error problem
      | .ok (name, rest) =>
        match readColon rest with
        | .error problem => .error problem
        | .ok rest =>
          match readValue fuel depth rest with
          | .error problem => .error problem
          | .ok (value, rest) =>
            match skipGap rest with
            | '\x7d' :: rest => .ok ([(name, value)], rest)
            | ',' :: rest =>
              match startOfNext '\x7d' rest with
              | .error problem => .error problem
              | .ok rest =>
                (readMembers fuel depth rest).map fun r => ((name, value) :: r.1, r.2)
            | rest => .error (unexpected rest)
    | rest => .error (unexpected rest)

end

/-- How deep arrays and objects may be nested. -/
def maxDepth : Nat := 127

/-- The value that a whole text is, blanks around it aside. -/
def read (s : List Char) : Except Problem Value :=
  match readValue (2 * s.length + 2) maxDepth s with
  | .error problem => .error problem
  | .ok (value, rest) => if (skipGap rest).isEmpty then .ok value else .error .malformed

end Json

end CiteRender
