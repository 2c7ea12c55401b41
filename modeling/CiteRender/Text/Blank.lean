/-!
# Blanks, Trimming and Splitting

Text is handled as a list of characters. `isBlank` is the Unicode property
`White_Space`; every trim, split and collapse of an article's text uses it,
so a no-break space separates words just as a plain space does.

Splitting keeps empty pieces, as a list of pieces with the separators put
back must give the text again. `words` drops them.

## Main definitions

* `isBlank`: The Unicode `White_Space` property.
* `trim`, `trimEnd`: A text without its outer blanks.
* `splitWhere`: The pieces between the characters that satisfy a test.
* `splitText`: The pieces between the occurrences of a text.
* `words`: The maximal runs without blanks.
* `collapse`: A text with each run of blanks turned into one space.

## Theorems

* `splitWhere_ne_nil`: Splitting always gives a piece.
-/

namespace CiteRender

namespace Text

/-- Unicode `White_Space`. -/
def isBlank (c : Char) : Bool :=
  let n := c.toNat
  (9 ≤ n && n ≤ 13) || n == 0x20 || n == 0x85 || n == 0xA0 || n == 0x1680 ||
    (0x2000 ≤ n && n ≤ 0x200A) || n == 0x2028 || n == 0x2029 || n == 0x202F ||
    n == 0x205F || n == 0x3000

/-- The text without the blanks at its end. -/
def trimEnd (cs : List Char) : List Char :=
  (cs.reverse.dropWhile isBlank).reverse

/-- The text without the blanks at its ends. -/
def trim (cs : List Char) : List Char :=
  trimEnd (cs.dropWhile isBlank)

/-- The pieces between the characters that satisfy `p`, empty ones included. -/
def splitWhere (p : Char → Bool) : List Char → List (List Char)
  | [] => [[]]
  | c :: cs =>
    if p c then [] :: splitWhere p cs else (splitWhere p cs).modifyHead (c :: ·)

theorem splitWhere_ne_nil (p : Char → Bool) (cs : List Char) : splitWhere p cs ≠ [] := by
  induction cs with
  | nil => simp [splitWhere]
  | cons c cs ih =>
    unfold splitWhere
    split
    · simp
    · cases h : splitWhere p cs with
      | nil => exact absurd h ih
      | cons s ss => simp

/-- The pieces between the occurrences of `sep`, read from the left without
    overlap. `skip` counts the characters of an occurrence still to pass. -/
def splitTextFrom (sep : List Char) : Nat → List Char → List (List Char)
  | _, [] => [[]]
  | skip + 1, _ :: cs => splitTextFrom sep skip cs
  | 0, c :: cs =>
    if sep.isPrefixOf (c :: cs) then [] :: splitTextFrom sep (sep.length - 1) cs
    else (splitTextFrom sep 0 cs).modifyHead (c :: ·)

/-- The pieces between the occurrences of the non-empty text `sep`. -/
def splitText (sep cs : List Char) : List (List Char) :=
  splitTextFrom sep 0 cs

/-- The maximal runs without blanks. -/
def words (cs : List Char) : List (List Char) :=
  (splitWhere isBlank cs).filter (· ≠ [])

/-- The text with each run of blanks turned into one space; `inRun` says
    that the character before was a blank. -/
def collapseFrom : Bool → List Char → List Char
  | _, [] => []
  | inRun, c :: cs =>
    if isBlank c then
      if inRun then collapseFrom true cs else ' ' :: collapseFrom true cs
    else c :: collapseFrom false cs

/-- The text with each run of blanks turned into one space. -/
def collapse (cs : List Char) : List Char :=
  collapseFrom false cs

/-- Whether `part` occurs in the text. -/
def contains (part : List Char) : List Char → Bool
  | [] => part.isEmpty
  | c :: cs => part.isPrefixOf (c :: cs) || contains part cs

/-- The text with ASCII letters lowered. -/
def lower (cs : List Char) : List Char :=
  cs.map Char.toLower

end Text

end CiteRender
