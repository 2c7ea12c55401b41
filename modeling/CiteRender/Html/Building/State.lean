import CiteRender.Html.Scaffold
import CiteRender.Html.Token.Reader

/-!
# The State of Tree Building

What decides where the next token of a document goes: the insertion mode,
the elements that are open, the formatting elements that are to be opened
again, and a few pointers and flags. The operations here open and close
elements and place nodes; the rules of the modes are built from them.

Open elements are listed from the innermost to the `html` element.

## Main definitions

* `Html.Mode`: The insertion modes.
* `Html.Builder`: The state.
* `Html.Builder.inScope`: Whether an element is open and in reach.
* `Html.Builder.place`: Where the next node goes.
* `Html.Builder.openElement`: Opens a new element.
* `Html.Builder.closeImplied`, `Html.Builder.closeUntil`: Close elements.
* `Html.Builder.resetMode`: The mode that fits the open elements.
-/

namespace CiteRender

namespace Html

/-- The insertion modes. -/
inductive Mode where
  | initial
  | beforeHtml
  | beforeHead
  | inHead
  | afterHead
  | inBody
  | inText
  | inTable
  | inTableText
  | inCaption
  | inColumnGroup
  | inTableBody
  | inRow
  | inCell
  | inTemplate
  | afterBody
  | inFrameset
  | afterFrameset
  | afterAfterBody
  | afterAfterFrameset
  deriving DecidableEq

/-- An entry of the list of formatting elements. A marker shields those
    before it. -/
inductive Formatting where
  | marker
  | element (id : Nat) (tag : StartTag)
  deriving DecidableEq

/-- The state of tree building. -/
structure Builder where
  nodes : Scaffold := Scaffold.start
  mode : Mode := .initial
  /-- the mode to go back to after a text -/
  returnMode : Mode := .initial
  textMode : TextMode := .markup
  /-- the open elements, the innermost first -/
  opened : List Nat := []
  /-- the formatting elements, the latest first -/
  formatting : List Formatting := []
  templateModes : List Mode := []
  head : Option Nat := none
  form : Option Nat := none
  /-- whether a frameset may still take the place of the body -/
  framesetAllowed : Bool := true
  /-- whether the document asks for the layout of old browsers -/
  oldLayout : Bool := false
  /-- whether what has no place in a table goes in front of it -/
  fostering : Bool := false
  /-- whether a line feed at the start of the next text is dropped -/
  dropNewline : Bool := false
  /-- whether reading starts anew behind the tag read last -/
  readsAnew : Bool := false
  /-- text in a table that waits for its end, the latest first -/
  waitingText : List Token := []

/-- What became of a token: it is done with, or the rules of the mode that
    the state is in now are to be applied to it. -/
inductive Outcome where
  | done (b : Builder)
  | again (b : Builder)

/-- The elements whose content is laid out as a block or otherwise special. -/
def specialNames : List String :=
  ["address", "applet", "area", "article", "aside", "base", "basefont", "bgsound", "blockquote",
    "body", "br", "button", "caption", "center", "col", "colgroup", "dd", "details", "dir",
    "div", "dl", "dt", "embed", "fieldset", "figcaption", "figure", "footer", "form", "frame",
    "frameset", "h1", "h2", "h3", "h4", "h5", "h6", "head", "header", "hgroup", "hr", "html",
    "iframe", "img", "input", "isindex", "li", "link", "listing", "main", "marquee", "menu",
    "meta", "nav", "noembed", "noframes", "noscript", "object", "ol", "p", "param",
    "plaintext", "pre", "script", "section", "select", "source", "style", "summary", "table",
    "tbody", "td", "template", "textarea", "tfoot", "th", "thead", "title", "tr", "track",
    "ul", "wbr", "xmp"]

/-- The MathML elements that hold text. -/
def mathTextNames : List String :=
  ["mi", "mo", "mn", "ms", "mtext"]

/-- The SVG elements that hold HTML. -/
def svgHtmlNames : List String :=
  ["foreignObject", "desc", "title"]

/-- Whether a MathML element holds text. -/
def holdsText (tag : Tag) : Bool :=
  tag.space = .mathml && mathTextNames.contains tag.name

/-- Whether an SVG element holds HTML. -/
def holdsHtml (tag : Tag) : Bool :=
  tag.space = .svg && svgHtmlNames.contains tag.name

/-- Whether an element is special. Only those of HTML are. -/
def isSpecial (tag : Tag) : Bool :=
  tag.isOneOf specialNames

/-- The bounds of the default reach. -/
def defaultBounds (tag : Tag) : Bool :=
  tag.isOneOf ["applet", "caption", "html", "marquee", "object", "select", "table", "td",
    "template", "th"] || holdsText tag || holdsHtml tag

/-- The bounds of the reach of list items. -/
def listBounds (tag : Tag) : Bool :=
  tag.isOneOf ["ol", "ul"] || defaultBounds tag

/-- The bounds of the reach of paragraphs. -/
def buttonBounds (tag : Tag) : Bool :=
  tag.isNamed "button" || defaultBounds tag

/-- The bounds of the reach of table parts. -/
def tableBounds (tag : Tag) : Bool :=
  tag.isOneOf ["html", "table", "template"]

/-- The elements whose end tag may be left out. -/
def impliedNames : List String :=
  ["dd", "dt", "li", "option", "optgroup", "p", "rb", "rp", "rt", "rtc"]

/-- The elements whose end tag may be left out before the end of a template. -/
def thoroughlyImpliedNames : List String :=
  impliedNames ++ ["caption", "colgroup", "tbody", "td", "tfoot", "th", "thead", "tr"]

/-- The headings. -/
def headingNames : List String :=
  ["h1", "h2", "h3", "h4", "h5", "h6"]

namespace Builder

/-- The tag of an element. -/
def tag (b : Builder) (id : Nat) : Tag :=
  b.nodes.tag id

/-- The innermost open element. -/
def current (b : Builder) : Nat :=
  b.opened.head?.getD 0

/-- The tag of the innermost open element. -/
def currentTag (b : Builder) : Tag :=
  b.tag b.current

/-- The outermost open element, `html`. -/
def outermost (b : Builder) : Nat :=
  b.opened.getLast?.getD 0

/-- The `body` element, if it is the second open element. -/
def body? (b : Builder) : Option Nat :=
  match b.opened.reverse with
  | _ :: second :: _ => if (b.tag second).isNamed "body" then some second else none
  | _ => none

/-- Whether an HTML element of a name is open. -/
def hasOpen (b : Builder) (name : String) : Bool :=
  b.opened.any fun id => (b.tag id).isNamed name

/-- Whether, of some open elements, one that satisfies `p` comes before one
    that bounds the reach. -/
def reaches (b : Builder) (bounds : Tag → Bool) (p : Nat → Bool) : List Nat → Bool
  | [] => false
  | id :: rest => p id || (!bounds (b.tag id) && reaches b bounds p rest)

/-- Whether an open HTML element with one of some names is in reach. -/
def inScope (b : Builder) (bounds : Tag → Bool) (names : List String) : Bool :=
  b.reaches bounds (fun id => (b.tag id).isOneOf names) b.opened

/-- Whether an open element is in the default reach. -/
def nodeInScope (b : Builder) (id : Nat) : Bool :=
  b.reaches defaultBounds (· = id) b.opened

/-- Closes the innermost element. -/
def pop (b : Builder) : Builder :=
  { b with opened := b.opened.drop 1 }

/-- Closes elements up to and including an HTML element with one of some names. -/
def closeUntil (b : Builder) (names : List String) : Builder :=
  { b with
    opened := (b.opened.dropWhile fun id => !(b.tag id).isOneOf names).drop 1 }

/-- Closes elements until the innermost is one of some HTML elements. -/
def closeToContext (b : Builder) (names : List String) : Builder :=
  { b with opened := b.opened.dropWhile fun id => !(b.tag id).isOneOf names }

/-- Closes elements whose end tag may be left out. -/
def closeImplied (b : Builder) (names : List String) : Builder :=
  { b with opened := b.opened.dropWhile fun id => (b.tag id).isOneOf names }

/-- Closes elements whose end tag may be left out, but none of one name. -/
def closeImpliedExcept (b : Builder) (name : String) : Builder :=
  b.closeImplied (impliedNames.filter (· ≠ name))

/-- Closes the paragraph in reach. -/
def closeParagraph (b : Builder) : Builder :=
  (b.closeImpliedExcept "p").closeUntil ["p"]

/-- Closes the paragraph in reach, if there is one. -/
def closeParagraphInScope (b : Builder) : Builder :=
  if b.inScope buttonBounds ["p"] then b.closeParagraph else b

/-- Strikes an element from the open ones. -/
def removeOpen (b : Builder) (id : Nat) : Builder :=
  { b with opened := b.opened.filter (· ≠ id) }

/-- Puts a marker on the list of formatting elements. -/
def pushMarker (b : Builder) : Builder :=
  { b with formatting := .marker :: b.formatting }

/-- Strikes the formatting elements up to and including the last marker. -/
def clearToMarker (b : Builder) : Builder :=
  { b with formatting := (b.formatting.dropWhile (· ≠ .marker)).drop 1 }

/-- A place for a node: at the end of one, or right before one. -/
inductive Place where
  | last (parent : Nat)
  | before (sibling : Nat)

/-- The place in front of the innermost table, given the open elements.
    Inside a template it is the end of its contents. -/
def fosterPlace (b : Builder) : List Nat → Place
  | [] => .last b.outermost
  | id :: rest =>
    if (b.tag id).isNamed "template" then .last (b.nodes.contentsOrSelf id)
    else if (b.tag id).isNamed "table" then
      -- A table that has lost its place has nothing in front of it.
      if (b.nodes.parent id).isSome then .before id else .last (rest.head?.getD 0)
    else fosterPlace b rest

/-- Where a node goes that is meant for an element. -/
def placeIn (b : Builder) (target : Nat) : Place :=
  if b.fostering && (b.tag target).isOneOf ["table", "tbody", "tfoot", "thead", "tr"] then
    b.fosterPlace b.opened
  else .last (b.nodes.contentsOrSelf target)

/-- Where the next node goes. -/
def place (b : Builder) : Place :=
  b.placeIn b.current

/-- Puts a node in a place. -/
def putAt (b : Builder) (place : Place) (id : Nat) : Builder :=
  match place with
  | .last parent => { b with nodes := b.nodes.append parent id }
  | .before sibling => { b with nodes := b.nodes.insertBefore sibling id }

/-- Puts text in the next place. -/
def insertText (b : Builder) (s : List Char) : Builder :=
  match b.place with
  | .last parent => { b with nodes := b.nodes.appendText parent s }
  | .before sibling => { b with nodes := b.nodes.insertTextBefore sibling s }

/-- A new node with no place yet, and its number. -/
def create (b : Builder) (kind : CellKind) : Builder × Nat :=
  let r := b.nodes.add kind
  ({ b with nodes := r.1 }, r.2)

/-- A new element with no place yet, and its number. -/
def createElement (b : Builder) (tag : Tag) (attributes : List Attribute) : Builder × Nat :=
  if tag.isNamed "template" then
    let r := b.create .root
    r.1.create (.element tag attributes (some r.2))
  else b.create (.element tag attributes none)

/-- The attributes of a start tag. -/
def plainAttributes (tag : StartTag) : List Attribute :=
  tag.attributes.map fun a => ⟨.plain, a.1, a.2⟩

/-- A new element in the next place, not open. -/
def addElement (b : Builder) (tag : Tag) (attributes : List Attribute) : Builder × Nat :=
  let r := b.createElement tag attributes
  (r.1.putAt b.place r.2, r.2)

/-- Opens a new element of any vocabulary. -/
def openElement (b : Builder) (tag : Tag) (attributes : List Attribute) : Builder × Nat :=
  let r := b.addElement tag attributes
  ({ r.1 with opened := r.2 :: r.1.opened }, r.2)

/-- Opens the HTML element of a start tag. -/
def insert (b : Builder) (tag : StartTag) : Builder :=
  (b.openElement (.html tag.name) (plainAttributes tag)).1

/-- Adds the HTML element of a start tag, which has no content. -/
def insertVoid (b : Builder) (tag : StartTag) : Builder :=
  (b.addElement (.html tag.name) (plainAttributes tag)).1

/-- Opens an HTML element that the text leaves out. -/
def insertImplied (b : Builder) (name : String) : Builder :=
  b.insert { name }

/-- Adds a comment to a node. -/
def commentIn (b : Builder) (parent : Nat) (s : List Char) : Builder :=
  let r := b.create (.comment s)
  r.1.putAt (.last parent) r.2

/-- Adds a comment in the next place. -/
def insertComment (b : Builder) (s : List Char) : Builder :=
  let r := b.create (.comment s)
  r.1.putAt b.place r.2

/-- Opens the element of a start tag and reads its text in a mode of its own. -/
def insertWithText (b : Builder) (tag : StartTag) (textMode : TextMode) : Builder :=
  { b.insert tag with textMode, returnMode := b.mode, mode := .inText }

/-- Forbids a frameset in the place of the body. -/
def forbidFrameset (b : Builder) : Builder :=
  { b with framesetAllowed := false }

/-- The mode that fits some open elements. -/
def modeFor (b : Builder) : List Nat → Mode
  | [] => .inBody
  | id :: rest =>
    let tag := b.tag id
    let inner := !rest.isEmpty
    if tag.space ≠ .html then modeFor b rest
    else
      match tag.name with
      | "td" => if inner then .inCell else modeFor b rest
      | "th" => if inner then .inCell else modeFor b rest
      | "tr" => .inRow
      | "tbody" => .inTableBody
      | "thead" => .inTableBody
      | "tfoot" => .inTableBody
      | "caption" => .inCaption
      | "colgroup" => .inColumnGroup
      | "table" => .inTable
      | "template" => b.templateModes.head?.getD .inTemplate
      | "head" => if inner then .inHead else modeFor b rest
      | "body" => .inBody
      | "frameset" => .inFrameset
      | "html" => if b.head.isSome then .afterHead else .beforeHead
      | _ => modeFor b rest

/-- Goes to the mode that fits the open elements. -/
def resetMode (b : Builder) : Builder :=
  { b with mode := b.modeFor b.opened }

/-- Gives the `html` element the attributes it does not have yet. -/
def mergeHtml (b : Builder) (tag : StartTag) : Builder :=
  if b.hasOpen "template" then b
  else { b with nodes := b.nodes.addAttributes b.outermost tag.attributes }

end Builder

end Html

end CiteRender
