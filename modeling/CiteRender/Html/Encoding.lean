import CiteRender.Html.Token.Markup

/-!
# Declared Encodings

A document may say in its head how its text is encoded: by an attribute of
that name, or by the content of an element that stands for a header of its
transfer. Only that something is said matters here, not what, since the text
has been decoded already; but reading starts anew behind such an element.

## Main definitions

* `Html.encodingIn`: The encoding that the content of a header names.
* `Html.StartTag.declaresEncoding`: Whether a start tag declares an encoding.
-/

namespace CiteRender

namespace Html

/-- The name of an encoding behind its equals sign. A quote needs its partner;
    a name without quotes ends at a blank or a semicolon. -/
def encodingName (s : List Char) : Option (List Char) :=
  match s with
  | [] => none
  | c :: rest =>
    if c = '"' ∨ c = '\x27' then
      if rest.contains c then some (rest.takeWhile (· != c)) else none
    else some (s.takeWhile fun c => !(isSpace c || c == ';'))

/-- The encoding that the content of a header names: what follows the first
    `charset` that has an equals sign behind it. -/
def encodingIn : List Char → Option (List Char)
  | [] => none
  | c :: s =>
    if beginsWith "charset" (c :: s) then
      match (s.drop 6).dropWhile isSpace with
      | '=' :: rest => encodingName (rest.dropWhile isSpace)
      | _ => encodingIn s
    else encodingIn s

/-- The value of an attribute of a start tag. -/
def StartTag.attribute? (tag : StartTag) (name : String) : Option String :=
  tag.attributes.lookup name

/-- Whether a start tag declares an encoding. -/
def StartTag.declaresEncoding (tag : StartTag) : Bool :=
  (tag.attribute? "charset").isSome ||
    ((tag.attribute? "http-equiv").any (fun value =>
        Text.lower value.toList = "content-type".toList) &&
      ((tag.attribute? "content").bind fun value => encodingIn value.toList).isSome)

end Html

end CiteRender
