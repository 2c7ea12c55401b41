import CiteRender.Bibliography.Basic
import CiteRender.Json.Fault

/-!
# Entries as JSON

An entry is an object with a member for each field, or an array of the fields
from the first on. The author line and the fields that are often numbers take
a number as its text; every field but the author line may be null for absent.
Members that no entry has are passed over.

The members of an object are read in the order of their names, the items of
an array in theirs, and the first that does not fit decides the error.

## Main definitions

* `Entry.ofJson`: The entry that a value describes.
* `Entry.toJson`: The object of an entry, absent fields left out.
* `Bibliography.ofJson`: The bibliography that an object of entries describes.
-/

namespace CiteRender

namespace Entry

/-- A text, or a number as its text. -/
def textOrNumber : Json.Value → Except Json.Mismatch String
  | .text s => .ok s
  | .number n => .ok (String.ofList n.print)
  | _ => .error .neitherTextNorNumber

/-- A text or a number, or null for absent. -/
def optionalTextOrNumber : Json.Value → Except Json.Mismatch (Option String)
  | .null => .ok none
  | value => (textOrNumber value).map some

/-- A text, or null for absent. -/
def optionalText : Json.Value → Except Json.Mismatch (Option String)
  | .null => .ok none
  | .text s => .ok (some s)
  | value => .error (value.mismatch "a string")

/-- The entry with the field of one member set. -/
def setMember (entry : Entry) (name : String) (value : Json.Value) :
    Except Json.Mismatch Entry :=
  match name with
  | "type" => (optionalText value).map fun v => { entry with kind := v }
  | "author" => (textOrNumber value).map fun v => { entry with author := v }
  | "year" => (optionalTextOrNumber value).map fun v => { entry with year := v }
  | "title" => (optionalText value).map fun v => { entry with title := v }
  | "journal" => (optionalText value).map fun v => { entry with journal := v }
  | "booktitle" => (optionalText value).map fun v => { entry with booktitle := v }
  | "volume" => (optionalTextOrNumber value).map fun v => { entry with volume := v }
  | "issue" => (optionalTextOrNumber value).map fun v => { entry with issue := v }
  | "number" => (optionalTextOrNumber value).map fun v => { entry with number := v }
  | "pages" => (optionalTextOrNumber value).map fun v => { entry with pages := v }
  | "doi" => (optionalText value).map fun v => { entry with doi := v }
  | "url" => (optionalText value).map fun v => { entry with url := v }
  | _ => .ok entry

/-- The entry that some members describe, one after the other. -/
def ofMembers (members : List (String × Json.Value)) : Except Json.Mismatch Entry :=
  members.foldlM (fun entry member => entry.setMember member.1 member.2) {}

/-- The names of the fields, in the order of their declaration. -/
def fieldNames : List String :=
  ["type", "author", "year", "title", "journal", "booktitle", "volume", "issue", "number",
    "pages", "doi", "url"]

/-- The entry that a value describes. -/
def ofJson : Json.Value → Except Json.Mismatch Entry
  | .object members => ofMembers members
  | .array items => Json.setItems setMember fieldNames {} items
  | value => .error (value.mismatch "struct BibliographyEntry")

/-- A member for a field that is present. -/
def member (name : String) (field : Option String) : List (String × Json.Value) :=
  (field.map fun v => (name, Json.Value.text v)).toList

/-- The members of an entry, without those of absent fields. -/
def toMembers (entry : Entry) : List (String × Json.Value) :=
  member "type" entry.kind ++ member "author" (some entry.author) ++
    member "year" entry.year ++ member "title" entry.title ++
    member "journal" entry.journal ++ member "booktitle" entry.booktitle ++
    member "volume" entry.volume ++ member "issue" entry.issue ++
    member "number" entry.number ++ member "pages" entry.pages ++
    member "doi" entry.doi ++ member "url" entry.url

/-- The object of an entry. -/
def toJson (entry : Entry) : Json.Value :=
  .ofMembers entry.toMembers

end Entry

namespace Bibliography

/-- The bibliography of members whose values are entries. -/
def ofMembers (members : List (String × Json.Value)) :
    Except Json.Mismatch Bibliography :=
  members.foldlM (fun entries member =>
    (Entry.ofJson member.2).map fun entry => entries.insert member.1 entry) empty

/-- The bibliography that an object of entries by key describes. -/
def ofJson : Json.Value → Except Json.Mismatch Bibliography
  | .object members => ofMembers members
  | value => .error (value.mismatch "a map")

/-- The object of a bibliography, its entries by key. -/
def toJson (entries : Bibliography) : Json.Value :=
  .object (entries.toList.map fun pair => (pair.1, pair.2.toJson))

end Bibliography

end CiteRender
