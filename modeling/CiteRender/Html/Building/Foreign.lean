import CiteRender.Html.Building.Table

/-!
# Rules for Other Vocabularies

Inside SVG and MathML tags are read as elements of that vocabulary, except
where it holds HTML or text. A tag that can only be HTML ends the other
vocabulary.

## Main definitions

* `Html.Builder.isForeign`: Whether a token falls under these rules.
* `Html.Builder.inForeign`: The rules.
-/

namespace CiteRender

namespace Html

/-- The start tags that end another vocabulary. -/
def htmlOnlyNames : List String :=
  ["b", "big", "blockquote", "body", "br", "center", "code", "dd", "div", "dl", "dt", "em",
    "embed", "h1", "h2", "h3", "h4", "h5", "h6", "head", "hr", "i", "img", "li", "listing",
    "menu", "meta", "nobr", "ol", "p", "pre", "ruby", "s", "small", "span", "strong", "strike",
    "sub", "sup", "table", "tt", "u", "ul", "var"]

/-- Whether a start tag ends another vocabulary. -/
def endsForeign (tag : StartTag) : Bool :=
  htmlOnlyNames.contains tag.name ||
    (tag.name = "font" && tag.attributes.any fun a => ["color", "face", "size"].contains a.1)

/-- Whether a token is text. -/
def isCharacters : Token → Bool
  | .text _ => true
  | .blanks _ => true
  | .nul => true
  | _ => false

namespace Builder

/-- Whether a token falls under the rules of another vocabulary. An annotation
    holds elements of its own vocabulary whatever encoding it gives, but an
    `svg` element may stand in it too. -/
def isForeign (b : Builder) (token : Token) : Bool :=
  let tag := b.currentTag
  if token = .stop || b.opened.isEmpty || tag.space = .html then false
  else
    match token with
    | .start start =>
      if holdsText tag then ["mglyph", "malignmark"].contains start.name
      else if holdsHtml tag then false
      else !(tag = ⟨.mathml, "annotation-xml"⟩ && start.name = "svg")
    | token =>
      !(isCharacters token && (holdsText tag || holdsHtml tag))

/-- Closes elements up to one of HTML or one that holds it. -/
def leaveForeign (b : Builder) : Builder :=
  { b with
    opened := b.opened.dropWhile fun id =>
      let tag := b.tag id
      !(tag.space = .html || holdsText tag || holdsHtml tag) }

/-- Opens an element of the vocabulary that is open. -/
def foreignStart (b : Builder) (tag : StartTag) : Builder :=
  let space := b.currentTag.space
  b.openForeign space (if space = .svg then svgTagName tag.name else tag.name) tag

/-- What an end tag does: the first element with that name in any letter case
    closes, unless one of HTML comes before it; then the rules of the mode
    apply. -/
def foreignClose (rules : Builder → Token → Outcome) (b : Builder) (name : String)
    (first : Bool) : List Nat → Outcome
  | [] => .done b
  -- The outermost element is `html`, which no end tag closes here.
  | [_] => .done b
  | id :: rest =>
    let tag := b.tag id
    if !first && tag.space = .html then rules b (.close name)
    else if Text.lower tag.name.toList = name.toList then .done { b with opened := rest }
    else foreignClose rules b name false rest

/-- The rules for other vocabularies. `rules` are those of the mode. -/
def inForeign (rules : Builder → Token → Outcome) (b : Builder) (token : Token) : Outcome :=
  match token with
  | .nul => .done (b.insertText [replacement])
  | .blanks s => .done (b.insertText s)
  | .text s => .done (b.insertText s).forbidFrameset
  | .comment s => .done (b.insertComment s)
  | .start tag =>
    if endsForeign tag then rules b.leaveForeign token else .done (b.foreignStart tag)
  | .close name =>
    if ["br", "p"].contains name then rules b.leaveForeign token
    else b.foreignClose rules name true b.opened
  | _ => .done b

end Builder

end Html

end CiteRender
