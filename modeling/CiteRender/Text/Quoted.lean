import CiteRender.Text.Hidden

/-!
# Quoted Text

A text written between double quotes on one line, so that every character
of it can be seen. Quotes and backslashes are escaped, four control
characters have letters, and every other character without a glyph of its
own is spelled out by its code point in hexadecimal.

## Main definitions

* `quoteChar`: How one character is written between the quotes.
* `quote`: A text between double quotes.
* `quoteList`: A list of texts between brackets.
-/

namespace CiteRender

namespace Text

/-- The digits of `n` in base sixteen, in lower case. -/
def hexDigits (n : Nat) : List Char :=
  Nat.toDigits 16 n

/-- How one character is written between double quotes. -/
def quoteChar (c : Char) : List Char :=
  if c = '"' then ['\\', '"']
  else if c = '\\' then ['\\', '\\']
  else if c = '\n' then ['\\', 'n']
  else if c = '\r' then ['\\', 'r']
  else if c = '\t' then ['\\', 't']
  else if c = '\x00' then ['\\', '0']
  else if isHidden c then ['\\', 'u', '\x7b'] ++ hexDigits c.toNat ++ ['\x7d']
  else [c]

/-- A text between double quotes. -/
def quote (cs : List Char) : List Char :=
  '"' :: cs.flatMap quoteChar ++ ['"']

/-- A list of texts between brackets, each between double quotes. -/
def quoteList (items : List (List Char)) : List Char :=
  '[' :: [',', ' '].intercalate (items.map quote) ++ [']']

end Text

end CiteRender
