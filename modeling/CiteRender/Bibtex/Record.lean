import CiteRender.Bibliography.Basic
import CiteRender.Text.Quoted

/-!
# BibTeX Records

A record is what one `@type{key, name = value, ...}` block of a BibTeX text
says, with its fields in source order. A bibliography built from records
keeps the last record of each key and nothing of the earlier ones.

A text that is no BibTeX has a first malformed block. The error names the
line of that block's `@`, what the reader looked for, and the text at the
place where it was not found.

## Main definitions

* `Record`: A key, a type and named fields.
* `Record.entry`: The bibliography entry that a record describes.
* `bibliographyOf`: The bibliography of a list of records.
* `SyntaxError`: Where and why a text is no BibTeX.
-/

namespace CiteRender

namespace Bibtex

/-- One `@type{key, name = value, ...}` block. Type and field names are in
    lower case, and values are normalised. -/
structure Record where
  kind : String
  key : String
  fields : List (String × String)
  deriving DecidableEq

/-- The bibliography entry that a record describes. -/
def Record.entry (record : Record) : Entry :=
  Entry.ofFields (some record.kind) record.fields

/-- The bibliography of a list of records; the last record of a key wins. -/
def bibliographyOf (records : List Record) : Bibliography :=
  Bibliography.ofList (records.map fun record => (record.key, record.entry))

/-- What a reader looked for and did not find. -/
inductive Expected
  /-- one particular character -/
  | symbol
  /-- a non-empty run of characters of one class -/
  | run
  /-- the brace that closes a group -/
  | closing
  deriving DecidableEq

/-- The word for an expectation in an error message. -/
def Expected.label : Expected → String
  | symbol => "Char"
  | run => "TakeWhile1"
  | closing => "TakeUntil"

/-- A place where a reader did not find what it looked for. -/
structure Fault where
  expected : Expected
  rest : List Char
  deriving DecidableEq

/-- The wording of a fault, with the first twenty characters of the text there. -/
def Fault.message (fault : Fault) : String :=
  String.ofList <|
    "expected ".toList ++ fault.expected.label.toList ++ " near ".toList ++
      Text.quote (fault.rest.take 20)

/-- The first malformed block of a text, by the line of its `@`. -/
structure SyntaxError where
  line : Nat
  fault : Fault
  deriving DecidableEq

/-- The wording of a syntax error. -/
def SyntaxError.message (error : SyntaxError) : String :=
  "Invalid BibTeX at line " ++ toString error.line ++ ": " ++ error.fault.message

end Bibtex

end CiteRender
