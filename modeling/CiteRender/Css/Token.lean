import CiteRender.Text.Blank
import CiteRender.Text.Digit

/-!
# CSS Tokens

The tokens of a selector. Names may hold escapes: a backslash with up to six
hexadecimal digits and one blank stands for a code point, before any other
character for that character. A comment is no token, but it ends one. A
string that the text breaks off in is closed there, one that meets a line end
is broken. Tokens that no selector can hold are not told apart.

## Main definitions

* `Css.Token`: The tokens of a selector.
* `Css.readName`: A name with its escapes resolved.
* `Css.readNumber`: A number, with its unit.
* `Css.tokens`: The tokens of a text.
-/

namespace CiteRender

namespace Css

/-- A token of a selector. -/
inductive Token where
  | name (s : List Char)
  /-- a name with an opening parenthesis -/
  | function (s : List Char)
  /-- a hash sign with a name -/
  | hash (s : List Char)
  | text (s : List Char)
  /-- a number; `whole` is its value if it is an integer -/
  | number (signed : Bool) (whole : Option Int)
  /-- a number with a unit -/
  | dimension (whole : Option Int) (unit : List Char)
  | blank
  | mark (c : Char)
  /-- one of the marks `~ | ^ $ *` with an equals sign -/
  | operator (c : Char)
  | other
  deriving DecidableEq

/-- The blanks of CSS. -/
def isBlank (c : Char) : Bool :=
  c == ' ' || c == '\t' || c == '\n' || c == '\r' || c == '\x0c'

/-- The line ends of CSS. -/
def isLineEnd (c : Char) : Bool :=
  c == '\n' || c == '\r' || c == '\x0c'

/-- The replacement character. -/
def replacement : Char := '\ufffd'

/-- The character of an escaped code point. -/
def escapedChar (n : Nat) : Char :=
  if n = 0 ∨ 0x10FFFF < n ∨ (0xD800 ≤ n ∧ n ≤ 0xDFFF) then replacement else Char.ofNat n

/-- The text behind one blank, which a line end of two characters counts as. -/
def skipOneBlank : List Char → List Char
  | '\r' :: '\n' :: rest => rest
  | c :: rest => if isBlank c then rest else c :: rest
  | [] => []

/-- Reads an escape behind its backslash. -/
def readEscape (s : List Char) : Char × List Char :=
  match s with
  | [] => (replacement, [])
  | c :: rest =>
    if Text.isHexDigit c then
      let digits := (s.take 6).takeWhile Text.isHexDigit
      (escapedChar (Text.hexadecimalValue digits), skipOneBlank (s.drop digits.length))
    else if c = '\x00' then (replacement, rest)
    else (c, rest)

/-- Whether a line end stands at the start of a text. -/
def atLineEnd (s : List Char) : Bool :=
  s.head?.any isLineEnd

/-- Whether a character stands for itself inside a name. -/
def isNameChar (c : Char) : Bool :=
  c.isAlphanum || c == '_' || c == '-' || 0x80 ≤ c.toNat

/-- Whether a character stands for itself at the start of a name. -/
def isNameStart (c : Char) : Bool :=
  c.isAlpha || c == '_' || c == '\x00' || 0x80 ≤ c.toNat

/-- Whether a name begins here. -/
def startsName (s : List Char) : Bool :=
  match s with
  | [] => false
  | '-' :: rest =>
    match rest with
    | [] => false
    | '\\' :: rest => !atLineEnd rest
    | c :: _ => isNameStart c || c == '-'
  | '\\' :: rest => !atLineEnd rest
  | c :: _ => isNameStart c

/-- Reads a name. `fuel` bounds its length. -/
def readNameWith : (fuel : Nat) → List Char → List Char × List Char
  | 0, s => ([], s)
  | _ + 1, [] => ([], [])
  | fuel + 1, c :: s =>
    if isNameChar c then
      let r := readNameWith fuel s
      (c :: r.1, r.2)
    else if c = '\x00' then
      let r := readNameWith fuel s
      (replacement :: r.1, r.2)
    else if c = '\\' ∧ !atLineEnd s then
      let e := readEscape s
      let r := readNameWith fuel e.2
      (e.1 :: r.1, r.2)
    else ([], c :: s)

/-- Reads a name with its escapes resolved. -/
def readName (s : List Char) : List Char × List Char :=
  readNameWith (s.length + 1) s

/-- Reads a string behind its quote; nothing if it is broken. -/
def readTextWith (quote : Char) : (fuel : Nat) → List Char → Option (List Char × List Char)
  | 0, s => some ([], s)
  | _ + 1, [] => some ([], [])
  | fuel + 1, c :: s =>
    if c = quote then some ([], s)
    else if isLineEnd c then none
    else if c = '\\' then
      if s.isEmpty then some ([], [])
      else if atLineEnd s then readTextWith quote fuel (skipOneBlank s)
      else
        let e := readEscape s
        (readTextWith quote fuel e.2).map fun r => (e.1 :: r.1, r.2)
    else
      let c := if c = '\x00' then replacement else c
      (readTextWith quote fuel s).map fun r => (c :: r.1, r.2)

/-- Whether a number begins here, its sign aside. -/
def startsUnsigned (s : List Char) : Bool :=
  match s with
  | '.' :: c :: _ => c.isDigit
  | c :: _ => c.isDigit
  | [] => false

/-- The text behind the fraction of a number, if it has one. -/
def skipFraction (s : List Char) : Option (List Char) :=
  match s with
  | '.' :: c :: rest => if c.isDigit then some (rest.dropWhile Char.isDigit) else none
  | _ => none

/-- The text behind the exponent of a number, if it has one. -/
def skipExponent (s : List Char) : Option (List Char) :=
  match s with
  | e :: rest =>
    if e = 'e' ∨ e = 'E' then
      let digits := match rest with
        | '+' :: digits => digits
        | '-' :: digits => digits
        | digits => digits
      if digits.head?.any Char.isDigit then some (digits.dropWhile Char.isDigit) else none
    else none
  | [] => none

/-- An integer of the 32-bit range nearest to another. -/
def clampInteger (n : Int) : Int :=
  max (-2147483648) (min 2147483647 n)

/-- Reads a number behind its sign, with its unit. -/
def readNumber (signed negative : Bool) (s : List Char) : Token × List Char :=
  let digits := s.takeWhile Char.isDigit
  let rest := s.dropWhile Char.isDigit
  let n : Int := Text.decimalValue digits
  let behindFraction := (skipFraction rest).getD rest
  let behind := (skipExponent behindFraction).getD behindFraction
  let isWhole := (skipFraction rest).isNone && (skipExponent behindFraction).isNone
  let whole := if isWhole then some (clampInteger (if negative then -n else n)) else none
  match behind with
  | '%' :: rest => (.other, rest)
  | behind =>
    if startsName behind then
      let unit := readName behind
      (.dimension whole unit.1, unit.2)
    else (.number signed whole, behind)

/-- Reads a name, or a function with its parenthesis. -/
def readNamed (s : List Char) : Token × List Char :=
  let r := readName s
  match r.2 with
  | '(' :: rest => (.function r.1, rest)
  | rest => (.name r.1, rest)

/-- The text behind the end of a comment. -/
def skipComment : List Char → List Char
  | [] => []
  | '*' :: '/' :: rest => rest
  | _ :: rest => skipComment rest

/-- Reads the token at the start of a text that is neither blank nor a comment. -/
def readToken (c : Char) (s : List Char) : Token × List Char :=
  if c = '"' ∨ c = '\x27' then
    match readTextWith c (s.length + 1) s with
    | some r => (.text r.1, r.2)
    | none => (.other, [])
  else if c = '#' then
    if startsName s then
      let r := readName s
      (.hash r.1, r.2)
    else (.other, s)
  else if c = '+' ∧ startsUnsigned s then readNumber true false s
  else if c = '-' ∧ startsUnsigned s then readNumber true true s
  else if startsUnsigned (c :: s) then readNumber false false (c :: s)
  else if "-->".toList.isPrefixOf (c :: s) then (.other, s.drop 2)
  else if startsName (c :: s) then readNamed (c :: s)
  else if "~|^$*".toList.contains c ∧ s.head? = some '=' then (.operator c, s.drop 1)
  else (.mark c, s)

/-- The tokens of a text. `fuel` bounds its length. -/
def tokensWith : (fuel : Nat) → List Char → List Token
  | 0, _ => []
  | _ + 1, [] => []
  | fuel + 1, c :: s =>
    if isBlank c then .blank :: tokensWith fuel (s.dropWhile isBlank)
    else
      match c, s with
      | '/', '*' :: rest => tokensWith fuel (skipComment rest)
      | c, s =>
        let r := readToken c s
        r.1 :: tokensWith fuel r.2

/-- The tokens of a text. -/
def tokens (s : List Char) : List Token :=
  tokensWith (s.length + 1) s

end Css

end CiteRender
