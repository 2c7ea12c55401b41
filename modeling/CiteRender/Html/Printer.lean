import CiteRender.Html.Node

/-!
# Printing HTML

The text of a tree. Four characters are written as references in texts, and
the quote as a fifth in attribute values; a text inside a raw-text element
is written as it is. A void element has no end tag, and of what is inside it
the texts and comments are written without any tag. For a `template` its
contents are written in place of its children.

## Main definitions

* `Html.escapeText`, `Html.escapeValue`: How texts and values are written.
* `Html.isVoid`, `Html.isRaw`: The elements written in a way of their own.
* `Node.print`, `Node.printAll`: The text of a tree, and of several.
-/

namespace CiteRender

namespace Html

/-- How a character of a text is written. -/
def escapeTextChar (c : Char) : List Char :=
  if c = '&' then "&amp;".toList
  else if c = '<' then "&lt;".toList
  else if c = '>' then "&gt;".toList
  else if c = '\u00a0' then "&nbsp;".toList
  else [c]

/-- How a text is written. -/
def escapeText (cs : List Char) : List Char :=
  cs.flatMap escapeTextChar

/-- How a character of an attribute value is written. -/
def escapeValueChar (c : Char) : List Char :=
  if c = '"' then "&quot;".toList else escapeTextChar c

/-- How an attribute value is written, between its quotes. -/
def escapeValue (cs : List Char) : List Char :=
  cs.flatMap escapeValueChar

/-- The elements without an end tag. -/
def voidNames : List String :=
  ["area", "base", "basefont", "bgsound", "br", "col", "embed", "frame", "hr", "img", "input",
    "keygen", "link", "meta", "param", "source", "track", "wbr"]

/-- The elements whose texts are written as they are. -/
def rawNames : List String :=
  ["style", "script", "xmp", "iframe", "noembed", "noframes", "plaintext", "noscript"]

/-- Whether an element has no end tag, and no tags are written inside it. -/
def isVoid (tag : Tag) : Bool :=
  tag.isOneOf voidNames

/-- Whether the texts directly inside an element are written as they are. -/
def isRaw (tag : Tag) : Bool :=
  tag.isOneOf rawNames

/-- What stands before the name of an attribute of a vocabulary. -/
def spaceMark (a : Attribute) : List Char :=
  match a.space with
  | .plain => []
  | .xlink => "xlink:".toList
  | .xml => "xml:".toList
  | .xmlns => if a.name = "xmlns" then [] else "xmlns:".toList

/-- How an attribute is written, with a space before it. -/
def printAttribute (a : Attribute) : List Char :=
  ' ' :: spaceMark a ++ a.name.toList ++ ['=', '"'] ++ escapeValue a.value.toList ++ ['"']

/-- The start tag of an element. -/
def printStart (tag : Tag) (attributes : List Attribute) : List Char :=
  '<' :: tag.name.toList ++ attributes.flatMap printAttribute ++ ['>']

/-- The end tag of an element. -/
def printClose (tag : Tag) : List Char :=
  '<' :: '/' :: tag.name.toList ++ ['>']

end Html

namespace Node

mutual

/-- The text of a tree. `raw` says that its texts are written as they are, and
    `bare` that its tags are left out. -/
def print {ι : Type} (raw bare : Bool) : Node ι → List Char
  | .text s => if raw then s.toList else Html.escapeText s.toList
  | .comment s => "<!--".toList ++ s.toList ++ "-->".toList
  | .doctype name => "<!DOCTYPE ".toList ++ name.toList ++ ['>']
  | .element _ tag attributes contents children =>
    let inside :=
      if tag.isNamed "template" then printAll (Html.isRaw tag) bare contents
      else printAll (Html.isRaw tag) (bare || Html.isVoid tag) children
    if bare then inside
    else if Html.isVoid tag then Html.printStart tag attributes ++ inside
    else Html.printStart tag attributes ++ inside ++ Html.printClose tag

/-- The text of several trees. -/
def printAll {ι : Type} (raw bare : Bool) : List (Node ι) → List Char
  | [] => []
  | node :: rest => print raw bare node ++ printAll raw bare rest

end

end Node

/-- The text of an element with everything inside it. -/
def Element.outer {ι : Type} (e : Element ι) : String :=
  String.ofList (e.node.print false false)

end CiteRender
