import CiteRender.Html.Reference.Capitals
import CiteRender.Html.Reference.SmallAtoL
import CiteRender.Html.Reference.SmallMtoZ
import CiteRender.Text.Digit

/-!
# Character References

What stands behind an ampersand. A numeric reference names a code point; the
code points of C1 controls mean the characters that the legacy encoding of
Western texts has there, and a number that is no character means the
replacement character. A named reference is the longest name of the table
that the text begins with. In an attribute value a name without a semicolon
counts only if no letter, digit or equals sign follows, so that queries in
addresses stay what they are.

## Main definitions

* `Html.characterOf`: The character of a number.
* `Html.longestName`: The longest name that a text begins with.
* `Html.readReference`: The characters of a reference, with the text behind.
* `Html.lacksSemicolon`: Whether a numeric reference has no semicolon.
-/

namespace CiteRender

namespace Html

/-- The characters that the legacy encoding has for the numbers from 128 on. -/
def legacyCodes : List Nat :=
  [0x20AC, 0x81, 0x201A, 0x192, 0x201E, 0x2026, 0x2020, 0x2021, 0x2C6, 0x2030, 0x160, 0x2039,
    0x152, 0x8D, 0x17D, 0x8F, 0x90, 0x2018, 0x2019, 0x201C, 0x201D, 0x2022, 0x2013, 0x2014,
    0x2DC, 0x2122, 0x161, 0x203A, 0x153, 0x9D, 0x17E, 0x178]

/-- The replacement character. -/
def replacement : Char := '\ufffd'

/-- The character of the number in a reference. -/
def characterOf (n : Nat) : Char :=
  if n = 0 ∨ 0x10FFFF < n ∨ (0xD800 ≤ n ∧ n ≤ 0xDFFF) then replacement
  else if 0x80 ≤ n ∧ n ≤ 0x9F then Char.ofNat ((legacyCodes[n - 0x80]?).getD n)
  else Char.ofNat n

/-- The names of the table that begin with a letter. -/
def namesFor (first : Char) : List (String × List Nat) :=
  if first.isUpper then capitalNames first
  else if first ≤ 'l' then smallNamesToL first
  else smallNamesFromM first

/-- The longest name that a text begins with, and its characters. -/
def longestName (s : List Char) : Option (List Char × List Char) :=
  match s with
  | [] => none
  | first :: _ =>
    (namesFor first).foldl (fun best entry =>
      let name := entry.1.toList
      if name.isPrefixOf s && (best.elim true fun b => b.1.length < name.length) then
        some (name, entry.2.map Char.ofNat)
      else best) none

/-- Reads digits and the semicolon that may follow, as a character. -/
def readDigits (isDigit : Char → Bool) (value : List Char → Nat) (s : List Char) :
    Option (List Char × List Char) :=
  let digits := s.takeWhile isDigit
  if digits.isEmpty then none
  else
    let rest := s.dropWhile isDigit
    some ([characterOf (value digits)], if rest.head? = some ';' then rest.drop 1 else rest)

/-- The text behind the digits of a numeric reference, if that is what stands
    behind an ampersand. -/
def behindNumber (s : List Char) : Option (List Char) :=
  let behind (isDigit : Char → Bool) (digits : List Char) : Option (List Char) :=
    if digits.head?.any isDigit then some (digits.dropWhile isDigit) else none
  match s with
  | '#' :: c :: rest =>
    if c = 'x' ∨ c = 'X' then behind Text.isHexDigit rest else behind Char.isDigit (c :: rest)
  | _ => none

/-- Whether a numeric reference without its semicolon stands behind an
    ampersand. -/
def lacksSemicolon (s : List Char) : Bool :=
  (behindNumber s).any fun rest => rest.head? ≠ some ';'

/-- Reads what stands behind an ampersand. Nothing if that is no reference,
    and the ampersand stands for itself. -/
def readReference (inValue : Bool) (s : List Char) : Option (List Char × List Char) :=
  match s with
  | '#' :: c :: rest =>
    if c = 'x' ∨ c = 'X' then readDigits Text.isHexDigit Text.hexadecimalValue rest
    else readDigits Char.isDigit Text.decimalValue (c :: rest)
  | s =>
    match longestName s with
    | none => none
    | some (name, cs) =>
      let rest := s.drop name.length
      let goesOn := match rest with
        | [] => false
        | c :: _ => c = '=' || c.isAlphanum
      if inValue && name.getLast? ≠ some ';' && goesOn then none
      else some (cs, rest)

end Html

end CiteRender
