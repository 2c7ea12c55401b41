/-!
# HTML Nodes

The tree of an article. A node is a text, a comment, a doctype or an
element. Elements carry a label: a tree fresh from the parser has none to
speak of, and a document numbers its elements so that they can be named
while the tree changes around them.

A `template` element has contents beside its children. They are printed,
but they are no part of the tree that selectors and texts see.

## Main definitions

* `Tag`, `Attribute`: Names of elements, and their attributes.
* `Node`: A labelled tree.
* `Element`: An element by its parts.
* `Node.textOf`: The text of a tree.
-/

namespace CiteRender

/-- The vocabulary that an element belongs to. -/
inductive Space where
  | html
  | svg
  | mathml
  deriving DecidableEq

/-- The name of an element within its vocabulary. -/
structure Tag where
  space : Space
  name : String
  deriving DecidableEq

/-- The vocabulary that an attribute belongs to; most belong to none. -/
inductive AttributeSpace where
  | plain
  | xlink
  | xml
  | xmlns
  deriving DecidableEq

/-- An attribute of an element. -/
structure Attribute where
  space : AttributeSpace
  name : String
  value : String
  deriving DecidableEq

/-- A tree whose elements carry labels of type `ι`. Only a `template`
    element has `contents`. -/
inductive Node (ι : Type) where
  | text (s : String)
  | comment (s : String)
  | doctype (name : String)
  | element (label : ι) (tag : Tag) (attributes : List Attribute)
      (contents children : List (Node ι))

/-- An element by its parts. -/
structure Element (ι : Type) where
  label : ι
  tag : Tag
  attributes : List Attribute
  contents : List (Node ι)
  children : List (Node ι)

namespace Tag

/-- A tag of the HTML vocabulary. -/
def html (name : String) : Tag :=
  ⟨.html, name⟩

/-- Whether a tag belongs to HTML and has one of some names. -/
def isOneOf (tag : Tag) (names : List String) : Bool :=
  tag.space = .html && names.contains tag.name

/-- Whether a tag is the HTML tag of a name. -/
def isNamed (tag : Tag) (name : String) : Bool :=
  tag.space = .html && tag.name = name

end Tag

namespace Attribute

/-- The value of the attribute of a name, among those of no vocabulary. -/
def find? (attributes : List Attribute) (name : String) : Option String :=
  (attributes.find? fun a => a.space = .plain && a.name = name).map Attribute.value

/-- Sets an attribute: one that is there keeps its place, a new one goes last. -/
def set (attributes : List Attribute) (name value : String) : List Attribute :=
  match attributes with
  | [] => [⟨.plain, name, value⟩]
  | a :: rest =>
    if a.space = .plain ∧ a.name = name then { a with value := value } :: rest
    else a :: set rest name value

end Attribute

namespace Node

/-- The parts of an element; other nodes have none. -/
def asElement? {ι : Type} : Node ι → Option (Element ι)
  | element label tag attributes contents children =>
    some ⟨label, tag, attributes, contents, children⟩
  | _ => none

mutual

/-- The text of a tree: its texts in document order. -/
def textOf {ι : Type} : Node ι → List Char
  | .text s => s.toList
  | .element _ _ _ _ children => textOfAll children
  | _ => []

/-- The text of several trees. -/
def textOfAll {ι : Type} : List (Node ι) → List Char
  | [] => []
  | node :: rest => textOf node ++ textOfAll rest

end

end Node

namespace Element

/-- The node of an element. -/
def node {ι : Type} (e : Element ι) : Node ι :=
  .element e.label e.tag e.attributes e.contents e.children

/-- The value of an attribute. -/
def attribute? {ι : Type} (e : Element ι) (name : String) : Option String :=
  Attribute.find? e.attributes name

/-- The text of an element. -/
def text {ι : Type} (e : Element ι) : String :=
  String.ofList (Node.textOfAll e.children)

end Element

end CiteRender
