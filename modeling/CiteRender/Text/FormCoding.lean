/-!
# Form Coding

The coding `application/x-www-form-urlencoded` of one value. Letters,
digits and four marks stand for themselves, a plus sign for a space, and
every other character for the bytes of its UTF-8 form, each as a percent
sign with two hexadecimal digits. A coded value therefore holds no
character that could end it inside a query.

## Main definitions

* `isFormPlain`: The characters that stand for themselves.
* `percentByte`: One byte as a percent triple.
* `formEncode`: The coded form of a text.
-/

namespace CiteRender

namespace Text

/-- The characters that a coded value keeps: ASCII letters, digits and `*-._`. -/
def isFormPlain (c : Char) : Bool :=
  c.isAlphanum || c == '*' || c == '-' || c == '.' || c == '_'

/-- The upper-case hexadecimal digit of a number below sixteen. -/
def upperHexDigit (n : Nat) : Char :=
  if n < 10 then Char.ofNat ('0'.toNat + n) else Char.ofNat ('A'.toNat + (n - 10))

/-- One byte as a percent sign and two hexadecimal digits. -/
def percentByte (b : UInt8) : List Char :=
  ['%', upperHexDigit (b.toNat / 16), upperHexDigit (b.toNat % 16)]

/-- How one character is coded. -/
def formEncodeChar (c : Char) : List Char :=
  if isFormPlain c then [c]
  else if c = ' ' then ['+']
  else (String.utf8EncodeChar c).flatMap percentByte

/-- The coded form of a text. -/
def formEncode (cs : List Char) : List Char :=
  cs.flatMap formEncodeChar

end Text

end CiteRender
