import CiteRender.Bibliography.Json
import CiteRender.Bibtex.Reader

/-!
# Reference Files

A file of references is BibTeX when its name ends in `.bib`, and JSON
otherwise. JSON comes in three layouts: an array of entries that each have an
`id`, an object of entries by key, and lines that each are an entry with an
`id`. A text that begins with a brace is an object of entries if all its
members are objects, one entry with an `id` if it is any other object, and
lines if it is no value as a whole.

When an entry of a list is bad, the first bad one decides the error, and a
missing `id` comes before anything wrong with its fields.

## Main definitions

* `References.Error`: Why a file gives no references.
* `References.keyedById`: The bibliography of a list of entries with an `id`.
* `References.readLines`: The values of a text with one on each line.
* `References.readJson`: References in any of the three JSON layouts.
* `References.read`: References in a file of some name.
-/

namespace CiteRender

namespace References

/-- Why a text gives no references. -/
inductive Error where
  /-- the file could not be read -/
  | unreadable (reason : String)
  | json (fault : Json.Fault)
  /-- the line with this number, counted from one, is no JSON -/
  | badLine (line : Nat) (problem : Json.Problem)
  /-- the item with this index, counted from zero, has no text `id` -/
  | missingId (index : Nat)
  | bibtex (error : Bibtex.SyntaxError)
  /-- the text is JSON, but neither an array nor an object -/
  | notCollection
  deriving DecidableEq

/-- The wording of an error. -/
def Error.message : Error → String
  | unreadable reason => "Failed to read file: " ++ reason
  | json fault => "Invalid JSON: " ++ fault.message
  | badLine line problem =>
    "Invalid JSONL at line " ++ toString line ++ ": " ++ problem.message
  | missingId index => "Reference #" ++ toString index ++ " has no string \"id\""
  | bibtex error => error.message
  | notCollection => "References must be a JSON array or object"

/-- The text `id` of an item. -/
def idOf (item : Json.Value) : Option String :=
  (item.member? "id").bind Json.Value.asText?

/-- The key and entry of the item with an index. -/
def keyedItem (index : Nat) (item : Json.Value) : Except Error (String × Entry) :=
  match idOf item with
  | none => .error (.missingId index)
  | some id =>
    match Entry.ofJson item with
    | .error mismatch => .error (.json (.mismatch mismatch))
    | .ok entry => .ok (id, entry)

/-- The keys and entries of items, the first with the index `index`. -/
def keyedItems : (index : Nat) → List Json.Value → Except Error (List (String × Entry))
  | _, [] => .ok []
  | index, item :: rest =>
    match keyedItem index item with
    | .error error => .error error
    | .ok pair => (keyedItems (index + 1) rest).map (pair :: ·)

/-- The bibliography of a list of entries with an `id`. -/
def keyedById (items : List Json.Value) : Except Error Bibliography :=
  (keyedItems 0 items).map Bibliography.ofList

/-- The values on some lines, the first of them with the number `number`.
    Blank lines are passed over. -/
def readLinesFrom : (number : Nat) → List (List Char) → Except Error (List Json.Value)
  | _, [] => .ok []
  | number, line :: rest =>
    if (Text.trim line).isEmpty then readLinesFrom (number + 1) rest
    else
      match Json.read (Text.trim line) with
      | .error problem => .error (.badLine number problem)
      | .ok value => (readLinesFrom (number + 1) rest).map (value :: ·)

/-- The values of a text with one on each line. -/
def readLines (cs : List Char) : Except Error (List Json.Value) :=
  readLinesFrom 1 (Text.splitWhere (· == '\n') cs)

/-- The references of an object: by key if all members are objects, or one
    entry with an `id`. -/
def readObject (members : List (String × Json.Value)) : Except Error Bibliography :=
  if members.all fun member => member.2.isObject then
    match Bibliography.ofMembers members with
    | .error mismatch => .error (.json (.mismatch mismatch))
    | .ok entries => .ok entries
  else keyedById [.object members]

/-- References in any of the three JSON layouts. A blank text has none. -/
def readJson (text : String) : Except Error Bibliography :=
  let cs := text.toList
  let trimmed := Text.trim cs
  match trimmed with
  | [] => .ok Bibliography.empty
  | '\x7b' :: _ =>
    match Json.read trimmed with
    | .ok (.object members) => readObject members
    | _ => (readLines cs).bind keyedById
  | _ =>
    match Json.read trimmed with
    | .error problem => .error (.json (.problem problem))
    | .ok (.array items) => keyedById items
    | .ok _ => .error .notCollection

/-- The last component of a path. -/
def fileName (path : List Char) : List Char :=
  let parts := (Text.splitWhere (· == '/') path).filter fun part => part ≠ [] ∧ part ≠ ['.']
  parts.getLast?.getD []

/-- What follows the last full stop of a file's name. A name that begins with
    its only full stop has no extension. -/
def extension (path : List Char) : Option (List Char) :=
  match (Text.splitWhere (· == '.') (fileName path)).reverse with
  | _ :: [[]] => none
  | last :: _ :: _ => some last
  | _ => none

/-- Whether a file of this name holds BibTeX. -/
def isBibtexName (path : String) : Bool :=
  ((extension path.toList).map Text.lower) = some "bib".toList

/-- References in a file of some name and content. -/
def read (path text : String) : Except Error Bibliography :=
  if isBibtexName path then
    match Bibtex.readBibliography text with
    | .error error => .error (.bibtex error)
    | .ok entries => .ok entries
  else readJson text

end References

end CiteRender
