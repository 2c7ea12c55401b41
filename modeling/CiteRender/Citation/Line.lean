import CiteRender.Citation.Inline
import CiteRender.Text.FormCoding

/-!
# Bibliography Lines and Lookup Addresses

The full form of a citation is one line of the bibliography: names with
initials, year, title, venue, volume and pages, as in
`Smith, J., 2020. A Study. J. Things, Vol 5(2), pp. 10-20. `. The punctuation
around an empty title or venue stays, volume and pages appear only when the
entry has them.

A lookup address asks a search service for an entry by its family names and
its title.

## Main definitions

* `initialedName`: A name with its given names cut to initials.
* `joinNames`: A list of names as a phrase.
* `Entry.line`: The bibliography line of an entry.
* `bibliographyLine`: The line of an entry that may be absent.
* `lookupAddress`: The address that searches for an entry.
-/

namespace CiteRender

/-- The initials of given names, each with a full stop. -/
def initialsOf (given : List Char) : List Char :=
  (Text.words given).flatMap fun word => word.take 1 ++ ['.']

/-- `Last, First Middle` as `Last, F.M.`; a bare family name stays bare. What
    follows a second comma is dropped. -/
def initialedName (name : List Char) : List Char :=
  let last := Text.trim (name.takeWhile (· != ','))
  let given := ((name.dropWhile (· != ',')).drop 1).takeWhile (· != ',')
  let initials := initialsOf given
  if initials.isEmpty then last else last ++ [',', ' '] ++ initials

/-- Names as a phrase: commas between them, and `and` before the last. -/
def joinNames : List (List Char) → List Char
  | [] => []
  | [only] => only
  | [first, last] => first ++ " and ".toList ++ last
  | first :: rest => first ++ [',', ' '] ++ joinNames rest

/-- The first of two optional texts that is not empty. -/
def firstNonEmpty (a b : Option String) : Option String :=
  (a.filter (· ≠ "")).or (b.filter (· ≠ ""))

/-- The text of an optional field, empty when it is absent. -/
def fieldText (field : Option String) : List Char :=
  (field.getD "").toList

namespace Entry

/-- The phrase of the entry's authors. -/
def authorPhrase (entry : Entry) : List Char :=
  joinNames ((namesOf entry.author.toList).map initialedName)

/-- The volume part of a line, with the issue in parentheses. -/
def volumePart (entry : Entry) : List Char :=
  match entry.volume with
  | none => []
  | some volume =>
    ", Vol ".toList ++ volume.toList ++
      match firstNonEmpty entry.issue entry.number with
      | none => []
      | some issue => '(' :: issue.toList ++ [')']

/-- The pages part of a line. -/
def pagesPart (entry : Entry) : List Char :=
  match entry.pages with
  | none => []
  | some pages => ", pp. ".toList ++ pages.toList

/-- The bibliography line of an entry. -/
def line (entry : Entry) : String :=
  String.ofList <|
    entry.authorPhrase ++ ", ".toList ++ fieldText entry.year ++ ". ".toList ++
      fieldText entry.title ++ ". ".toList ++
      fieldText (firstNonEmpty entry.journal entry.booktitle) ++
      entry.volumePart ++ entry.pagesPart ++ ". ".toList

/-- The words a search for the entry asks for. -/
def searchText (entry : Entry) : List Char :=
  Text.trim <|
    [' '].intercalate ((namesOf entry.author.toList).map surnameOf) ++ [' '] ++
      [' '].intercalate (Text.words (fieldText entry.title))

end Entry

/-- The bibliography line of an entry, or the placeholder. -/
def bibliographyLine : Option Entry → Reference String
  | some entry => .resolved entry.line
  | none => .missing

/-- A bibliography line as shown. -/
def lineText (line : Reference String) : String :=
  String.ofList (line.text String.toList)

/-- The address of the search service, up to its query. -/
def lookupEndpoint : String :=
  "http://search.labs.crossref.org/dois?"

/-- The address that searches for an entry. -/
def Entry.lookup (entry : Entry) : String :=
  lookupEndpoint ++ "q=" ++ String.ofList (Text.formEncode entry.searchText)

/-- The address that searches for an entry that may be absent. -/
def lookupAddress (entry : Option Entry) : Option String :=
  entry.map Entry.lookup

end CiteRender
