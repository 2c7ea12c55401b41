import CiteRender.Citation.Ledger

/-!
# Inline Citations

The two short forms of a citation. The numeric form shows the numbers of the
cited keys in brackets, as in `[1, 3]`; the author-year form shows family
names and a year for each, as in `Smith & Doe, 2020`. A key that cannot be
resolved becomes the placeholder `?` in both and never stops a render.

## Main definitions

* `Reference`: A resolved reference, or the placeholder.
* `Ledger.numericReference`, `Ledger.numeric`: The numeric form.
* `Ledger.neverCited`: The keys that have an entry but no number.
* `Entry.authorYear`: The author-year form of one entry.
* `Ledger.authorYearReference`, `Ledger.authorYear`: The author-year form.
* `numericText`, `authorYearText`: How the two forms are shown.
-/

namespace CiteRender

/-- One formatted reference, or the placeholder for one that is unresolved. -/
inductive Reference (α : Type) where
  | resolved (value : α)
  | missing
  deriving DecidableEq

namespace Reference

/-- Whether the reference is the placeholder. -/
def isMissing {α : Type} : Reference α → Bool
  | resolved _ => false
  | missing => true

/-- The value of a resolved reference. -/
def value? {α : Type} : Reference α → Option α
  | resolved value => some value
  | missing => none

/-- The reference as shown; the placeholder is a question mark. -/
def text {α : Type} (shown : α → List Char) : Reference α → List Char
  | resolved value => shown value
  | missing => ['?']

end Reference

/-- Whether some reference of a citation is the placeholder. -/
def isDegraded {α : Type} (references : List (Reference α)) : Bool :=
  references.any Reference.isMissing

/-- The separator between the references of one citation. -/
def referenceSeparator : List Char :=
  [',', ' ']

/-- A number in decimal. -/
def decimal (n : Nat) : List Char :=
  Nat.toDigits 10 n

/-- The numeric form as shown, in brackets. -/
def numericText (references : List (Reference Nat)) : String :=
  String.ofList <|
    '[' :: referenceSeparator.intercalate (references.map (Reference.text decimal)) ++ [']']

/-- The author-year form as shown. -/
def authorYearText (references : List (Reference String)) : String :=
  String.ofList <|
    referenceSeparator.intercalate (references.map (Reference.text String.toList))

/-- Family names and year of an entry: one name, two names joined by `&`, or
    the first name of more. -/
def Entry.authorYear (entry : Entry) : String :=
  let year := entry.year.getD ""
  match entry.surnames with
  | [] => year
  | [only] => only ++ ", " ++ year
  | [first, second] => first ++ " & " ++ second ++ ", " ++ year
  | first :: _ => first ++ ", et al., " ++ year

namespace Ledger

/-- The number shown for a key: its place in the order of citation, if it
    has an entry. -/
def numericReference (ledger : Ledger) (key : String) : Reference Nat :=
  match ledger.entry key, ledger.number key with
  | some _, some n => .resolved n
  | _, _ => .missing

/-- The numeric form of a list of keys. -/
def numeric (ledger : Ledger) (keys : List String) : List (Reference Nat) :=
  keys.map ledger.numericReference

/-- The keys of the list that have an entry but were never cited. -/
def neverCited (ledger : Ledger) (keys : List String) : List String :=
  keys.filter fun key => (ledger.entry key).isSome && (ledger.number key).isNone

/-- The author-year reference for a key. -/
def authorYearReference (ledger : Ledger) (key : String) : Reference String :=
  match ledger.entry key with
  | some entry => .resolved entry.authorYear
  | none => .missing

/-- The author-year form of a list of keys. -/
def authorYear (ledger : Ledger) (keys : List String) : List (Reference String) :=
  keys.map ledger.authorYearReference

end Ledger

end CiteRender
