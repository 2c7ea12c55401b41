import CiteRender.Bibtex.Reader
import CiteRender.Proofs.Text.Words

/-!
# The Grammar of BibTeX

What a BibTeX text is and what it says, with no word on how it is read. Every
relation below pairs a text with its meaning, and a text has a meaning only if
it can be taken apart completely: there is no rest, no lookahead and no order
in which alternatives are tried.

The two kinds of delimited text are not alike. In a brace group the braces
pair off, and a backslash takes the character behind it out of the pairing, so
`Balanced` is a nested grammar. Between quotes a closing brace may come
without an opening one and counts for nothing then, which no nested grammar
says; `Quotable` counts the braces that are open instead.

Abbreviations are a function from names to what they stand for. A definition
changes that function for the text behind it and for nothing before it.

## Main definitions

* `IsGap`, `IsRun`: Blanks, and runs of a class of characters.
* `Balanced`: The text inside a brace group.
* `Quotable`: The text between quotes.
* `IsPiece`, `IsValue`: A value, and the pieces it is joined from.
* `plainText`: A value as it is kept.
* `IsField`, `AreFields`: The fields of a record.
* `IsBlock`: A block and what it says.
* `Says`: A text and its records.
-/

namespace CiteRender

namespace Bibtex

/-- What abbreviations stand for, by their names in lower case. -/
abbrev Meanings := List Char → Option (List Char)

/-- A run of blanks, which may be empty. -/
def IsGap (s : List Char) : Prop :=
  ∀ c ∈ s, isGap c = true

/-- A run of characters of one class, which may not be empty. -/
def IsRun (p : Char → Bool) (s : List Char) : Prop :=
  s ≠ [] ∧ ∀ c ∈ s, p c = true

/-- The text inside a brace group: its braces pair off, not counting any that
    a backslash stands before. -/
inductive Balanced : List Char → Prop
  | nil : Balanced []
  | plain (c : Char) (s : List Char) (hc : c ≠ '{' ∧ c ≠ '}' ∧ c ≠ '\\') (hs : Balanced s) :
      Balanced (c :: s)
  | hidden (c : Char) (s : List Char) (hs : Balanced s) : Balanced ('\\' :: c :: s)
  | group (inner s : List Char) (hi : Balanced inner) (hs : Balanced s) :
      Balanced ('{' :: inner ++ '}' :: s)

/-- The text between quotes, with a number of braces open before it and none
    open behind it. Only an open brace lets a quote stand inside. -/
inductive Quotable : Nat → List Char → Prop
  | nil : Quotable 0 []
  | plain (depth : Nat) (c : Char) (s : List Char) (hc : c ≠ '{' ∧ c ≠ '}' ∧ c ≠ '"')
      (hs : Quotable depth s) : Quotable depth (c :: s)
  | quote (depth : Nat) (s : List Char) (hs : Quotable (depth + 1) s) :
      Quotable (depth + 1) ('"' :: s)
  | opening (depth : Nat) (s : List Char) (hs : Quotable (depth + 1) s) : Quotable depth ('{' :: s)
  | closing (depth : Nat) (s : List Char) (hs : Quotable depth s) : Quotable (depth + 1) ('}' :: s)
  | excess (s : List Char) (hs : Quotable 0 s) : Quotable 0 ('}' :: s)

/-- A piece of a value. A name stands for its abbreviation, in any letter
    case, or else for itself. -/
inductive IsPiece (m : Meanings) : List Char → List Char → Prop
  | group (inner : List Char) (h : Balanced inner) : IsPiece m ('{' :: inner ++ ['}']) inner
  | quoted (inner : List Char) (h : Quotable 0 inner) : IsPiece m ('"' :: inner ++ ['"']) inner
  | number (s : List Char) (h : IsRun Char.isDigit s) : IsPiece m s s
  | name (c : Char) (s : List Char) (h : IsRun isNameChar (c :: s)) (hc : c.isDigit = false) :
      IsPiece m (c :: s) ((m (Text.lower (c :: s))).getD (c :: s))

/-- A value: pieces joined by `#`, with blanks around each. -/
inductive IsValue (m : Meanings) : List Char → List Char → Prop
  | last (a p b v : List Char) (ha : IsGap a) (hp : IsPiece m p v) (hb : IsGap b) :
      IsValue m (a ++ p ++ b) v
  | joined (a p b v e w : List Char) (ha : IsGap a) (hp : IsPiece m p v) (hb : IsGap b)
      (he : IsValue m e w) : IsValue m (a ++ p ++ b ++ '#' :: e) (v ++ w)

/-- A value as it is kept: its braces are dropped, and its words stand with one
    space between them. -/
def plainText (v : List Char) : List Char :=
  Text.joinWords (v.filter fun c => c != '{' && c != '}')

/-- A field: a name, an equals sign and a value. -/
inductive IsField (m : Meanings) : List Char → List Char × List Char → Prop
  | mk (a word b e v : List Char) (ha : IsGap a) (hw : IsRun isNameChar word) (hb : IsGap b)
      (he : IsValue m e v) :
      IsField m (a ++ word ++ b ++ '=' :: e) (Text.lower word, plainText v)

/-- The fields of a record, each behind a comma. One more comma may stand
    behind the last. -/
inductive AreFields (m : Meanings) : List Char → List (List Char × List Char) → Prop
  | none (a : List Char) (ha : IsGap a) : AreFields m a []
  | comma (a b : List Char) (ha : IsGap a) (hb : IsGap b) : AreFields m (a ++ ',' :: b) []
  | cons (a f s : List Char) (pair : List Char × List Char)
      (pairs : List (List Char × List Char)) (ha : IsGap a) (hf : IsField m f pair)
      (hs : AreFields m s pairs) : AreFields m (a ++ ',' :: f ++ s) (pair :: pairs)

/-- The types of blocks that are passed over. -/
def IsPassedOver (kind : List Char) : Prop :=
  kind = "comment".toList ∨ kind = "preamble".toList

instance (kind : List Char) : Decidable (IsPassedOver kind) :=
  inferInstanceAs (Decidable (_ ∨ _))

/-- A block and what it says. Its type decides what may stand in its braces. -/
inductive IsBlock (m : Meanings) : List Char → Block → Prop
  | skipped (a word b inner : List Char) (ha : IsGap a) (hw : IsRun Char.isAlphanum word)
      (hkind : IsPassedOver (Text.lower word)) (hb : IsGap b) (hi : Balanced inner) :
      IsBlock m ('@' :: a ++ word ++ b ++ '{' :: inner ++ ['}']) .skipped
  | abbreviation (a word b f c : List Char) (pair : List Char × List Char) (ha : IsGap a)
      (hw : IsRun Char.isAlphanum word) (hkind : Text.lower word = "string".toList)
      (hb : IsGap b) (hf : IsField m f pair) (hc : IsGap c) :
      IsBlock m ('@' :: a ++ word ++ b ++ '{' :: f ++ c ++ ['}']) (.abbreviation pair.1 pair.2)
  | record (a word b c key s : List Char) (pairs : List (List Char × List Char)) (ha : IsGap a)
      (hw : IsRun Char.isAlphanum word) (hpass : ¬ IsPassedOver (Text.lower word))
      (hkind : Text.lower word ≠ "string".toList) (hb : IsGap b) (hc : IsGap c)
      (hkey : IsRun isNameChar key) (hs : AreFields m s pairs) :
      IsBlock m ('@' :: a ++ word ++ b ++ '{' :: c ++ key ++ s ++ ['}'])
        (.record ⟨String.ofList (Text.lower word), String.ofList key, pairs.map pairOfChars⟩)

/-- A text and its records, in source order: blocks with text between them
    that has no `@`. -/
inductive Says : Meanings → List Char → List Record → Prop
  | free (m : Meanings) (s : List Char) (hs : '@' ∉ s) : Says m s []
  | skipped (m : Meanings) (free block rest : List Char) (records : List Record)
      (hf : '@' ∉ free) (hb : IsBlock m block .skipped) (hr : Says m rest records) :
      Says m (free ++ block ++ rest) records
  | abbreviation (m : Meanings) (free block rest word v : List Char) (records : List Record)
      (hf : '@' ∉ free) (hb : IsBlock m block (.abbreviation word v))
      (hr : Says (Function.update m word (some v)) rest records) :
      Says m (free ++ block ++ rest) records
  | record (m : Meanings) (free block rest : List Char) (record : Record)
      (records : List Record) (hf : '@' ∉ free) (hb : IsBlock m block (.record record))
      (hr : Says m rest records) : Says m (free ++ block ++ rest) (record :: records)

end Bibtex

end CiteRender
