import CiteRender.Text.Blank

/-!
# Bibliography Entries

One bibliographic record, and the names its author line holds. An author
line joins names by the word `and`, and a name puts the family name before
its first comma, as in `Olah, Chris and Carter, Shan`.

An absent field and an empty one are different things: a line printed from
an entry shows the volume of an entry that has one, even an empty one.

## Main definitions

* `Entry`: A bibliographic record.
* `Entry.set`: The effect of one named field on an entry.
* `Entry.ofFields`: The entry that a list of named fields describes.
* `Entry.authorNames`: The names in the author line.
* `Entry.surnames`: The family names in the author line.
-/

namespace CiteRender

/-- A bibliographic record. -/
structure Entry where
  kind : Option String := none
  author : String := ""
  year : Option String := none
  title : Option String := none
  journal : Option String := none
  booktitle : Option String := none
  volume : Option String := none
  issue : Option String := none
  number : Option String := none
  pages : Option String := none
  doi : Option String := none
  url : Option String := none
  deriving DecidableEq, Inhabited

namespace Entry

/-- The name of a field with ASCII letters lowered. -/
def fieldName (name : String) : String :=
  String.ofList (Text.lower name.toList)

/-- The entry with one field set. The letter case of the name does not
    matter, and a name that no entry has changes nothing. -/
def set (entry : Entry) (name value : String) : Entry :=
  match fieldName name with
  | "author" => { entry with author := value }
  | "year" => { entry with year := some value }
  | "title" => { entry with title := some value }
  | "journal" => { entry with journal := some value }
  | "booktitle" => { entry with booktitle := some value }
  | "volume" => { entry with volume := some value }
  | "issue" => { entry with issue := some value }
  | "number" => { entry with number := some value }
  | "pages" => { entry with pages := some value }
  | "doi" => { entry with doi := some value }
  | "url" => { entry with url := some value }
  | _ => entry

/-- The entry that a list of named fields describes; a later field replaces
    an earlier one of its name. -/
def ofFields (kind : Option String) (fields : List (String × String)) : Entry :=
  fields.foldl (fun entry field => entry.set field.1 field.2) { kind }

/-- The names in an author line, without the blanks around them. -/
def namesOf (author : List Char) : List (List Char) :=
  (Text.splitText " and ".toList author).map Text.trim

/-- The part of a name before its first comma, without the blanks around it. -/
def surnameOf (name : List Char) : List Char :=
  Text.trim (name.takeWhile (· != ','))

/-- The names in the author line. -/
def authorNames (entry : Entry) : List String :=
  (namesOf entry.author.toList).map String.ofList

/-- The family names in the author line. -/
def surnames (entry : Entry) : List String :=
  (namesOf entry.author.toList).map fun name => String.ofList (surnameOf name)

end Entry

end CiteRender
