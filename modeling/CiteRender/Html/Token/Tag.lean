import CiteRender.Html.Reference.Basic
import CiteRender.Html.Token

/-!
# Reading Tags

What stands between a `<` with a letter behind it and the `>` that ends the
tag. Names are lowered, values have their references replaced, and the first
attribute of a name counts. A slash that does not stand right before the end
of the tag counts as a blank. A tag that the text breaks off in is no tag.

## Main definitions

* `Html.decodeReferences`: A text with its references replaced.
* `Html.readValue`: The value of an attribute.
* `Html.readAttributes`: The attributes of a tag up to its end.
* `Html.readStartTag`, `Html.readEndTag`: Tags behind their `<` or `</`.
-/

namespace CiteRender

namespace Html

/-- A text with its references replaced. `fuel` bounds its length. -/
def decodeWith (inValue : Bool) : (fuel : Nat) → List Char → List Char
  | 0, s => s
  | _ + 1, [] => []
  | fuel + 1, c :: s =>
    if c = '&' then
      match readReference inValue s with
      | some (cs, rest) => cs ++ decodeWith inValue fuel rest
      | none => c :: decodeWith inValue fuel s
    else c :: decodeWith inValue fuel s

/-- A text with its references replaced. -/
def decodeReferences (inValue : Bool) (s : List Char) : List Char :=
  decodeWith inValue s.length s

/-- A text with the replacement character for each NUL. -/
def replaceNul (s : List Char) : List Char :=
  s.map fun c => if c = '\x00' then replacement else c

/-- The text of an attribute value as it was meant. -/
def valueText (s : List Char) : String :=
  String.ofList (decodeReferences true (replaceNul s))

/-- A name as it is kept: in lower case, without NUL. -/
def nameText (s : List Char) : String :=
  String.ofList (Text.lower (replaceNul s))

/-- Whether a character ends the name of a tag. -/
def endsTagName (c : Char) : Bool :=
  isSpace c || c == '/' || c == '>'

/-- Whether a character ends the name of an attribute. -/
def endsAttributeName (c : Char) : Bool :=
  endsTagName c || c == '='

/-- Reads a value between quotes, behind the first. -/
def readQuotedValue (quote : Char) (s : List Char) : Option (String × List Char) :=
  match s.dropWhile (· != quote) with
  | [] => none
  | _ :: rest => some (valueText (s.takeWhile (· != quote)), rest)

/-- Reads the value of an attribute, behind the equals sign. -/
def readValue (s : List Char) : Option (String × List Char) :=
  match s.dropWhile isSpace with
  | [] => none
  | '"' :: rest => readQuotedValue '"' rest
  | '\x27' :: rest => readQuotedValue '\x27' rest
  | '>' :: rest => some ("", '>' :: rest)
  | rest =>
    let ends (c : Char) : Bool := isSpace c || c == '>'
    some (valueText (rest.takeWhile fun c => !ends c), rest.dropWhile fun c => !ends c)

/-- Reads the name of an attribute. An equals sign at its start belongs to it. -/
def readAttributeName (s : List Char) : String × List Char :=
  match s with
  | '=' :: rest =>
    (nameText ('=' :: rest.takeWhile fun c => !endsAttributeName c),
      rest.dropWhile fun c => !endsAttributeName c)
  | s =>
    (nameText (s.takeWhile fun c => !endsAttributeName c),
      s.dropWhile fun c => !endsAttributeName c)

/-- Reads the attributes of a tag up to its `>`, and whether a slash stands
    right before it. `fuel` bounds the length of the text. -/
def readAttributes : (fuel : Nat) → List Char →
    Option (List (String × String) × Bool × List Char)
  | 0, _ => none
  | fuel + 1, s =>
    match s.dropWhile isSpace with
    | [] => none
    | '>' :: rest => some ([], false, rest)
    | '/' :: '>' :: rest => some ([], true, rest)
    -- A slash elsewhere is passed over like a blank.
    | '/' :: rest => readAttributes fuel rest
    | start =>
      let named := readAttributeName start
      match named.2.dropWhile isSpace with
      | '=' :: rest =>
        match readValue rest with
        | none => none
        | some (value, rest) =>
          (readAttributes fuel rest).map fun r => ((named.1, value) :: r.1, r.2)
      | rest => (readAttributes fuel rest).map fun r => ((named.1, "") :: r.1, r.2)

/-- The attributes without those whose name came before. -/
def firstOfEachName (attributes : List (String × String)) : List (String × String) :=
  (attributes.foldl (fun kept a =>
    if kept.any (fun k => k.1 = a.1) then kept else a :: kept) []).reverse

/-- Reads a tag from its name on. -/
def readTag (s : List Char) : Option (StartTag × List Char) :=
  let name := s.takeWhile fun c => !endsTagName c
  let rest := s.dropWhile fun c => !endsTagName c
  (readAttributes (rest.length + 1) rest).map fun r =>
    (⟨nameText name, firstOfEachName r.1, r.2.1⟩, r.2.2)

/-- Reads a start tag from its name on. -/
def readStartTag (s : List Char) : Option (Token × List Char) :=
  (readTag s).map fun r => (.start r.1, r.2)

/-- Reads an end tag from its name on. What else it holds does not matter. -/
def readEndTag (s : List Char) : Option (Token × List Char) :=
  (readTag s).map fun r => (.close r.1.name, r.2)

end Html

end CiteRender
