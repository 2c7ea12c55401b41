import CiteRender.Html.Parse
import CiteRender.Html.Printer
import CiteRender.Text.Quoted

/-!
# Documents

A document is a tree whose elements are numbered, so that an element can be
named while the tree changes around it. Beside the tree there are loose
trees: elements that were created and have no place yet, and elements that
lost their place. No number is ever used for two elements, as new ones are
counted on from the last.

## Main definitions

* `Document`: A numbered tree, and the loose trees beside it.
* `Node.number`, `Node.numberAll`: Trees with numbers for labels.
* `Document.parse`, `Document.html`: From text to document and back.
* `Document.element?`: The element with a number.
* `DocumentError`: Why an operation on a document fails.
-/

namespace CiteRender

namespace Node

variable {α : Type}

mutual

/-- A tree with its elements numbered in document order from `n` on, and the
    number after the last. -/
def number (n : Nat) : Node α → Node Nat × Nat
  | .text s => (.text s, n)
  | .comment s => (.comment s, n)
  | .doctype name => (.doctype name, n)
  | .element _ tag attributes contents children =>
    let inside := numberAll (n + 1) contents
    let below := numberAll inside.2 children
    (.element n tag attributes inside.1 below.1, below.2)

/-- Trees with their elements numbered in document order from `n` on, and the
    number after the last. -/
def numberAll (n : Nat) : List (Node α) → List (Node Nat) × Nat
  | [] => ([], n)
  | node :: rest =>
    let first := number n node
    let others := numberAll first.2 rest
    (first.1 :: others.1, others.2)

end

mutual

/-- The element with a number in a tree. -/
def find? (id : Nat) : Node Nat → Option (Element Nat)
  | .element label tag attributes contents children =>
    if label = id then some ⟨label, tag, attributes, contents, children⟩
    else findIn? id children
  | _ => none

/-- The element with a number in some trees. -/
def findIn? (id : Nat) : List (Node Nat) → Option (Element Nat)
  | [] => none
  | node :: rest => (find? id node).or (findIn? id rest)

end

mutual

/-- The numbers of the elements of a tree in document order. -/
def labels : Node Nat → List Nat
  | .element label _ _ _ children => label :: labelsOf children
  | _ => []

/-- The numbers of the elements of some trees in document order. -/
def labelsOf : List (Node Nat) → List Nat
  | [] => []
  | node :: rest => labels node ++ labelsOf rest

end

end Node

/-- A numbered tree, the loose trees beside it, and the number of the next
    new element. -/
structure Document where
  nodes : List (Node Nat)
  loose : List (Node Nat) := []
  next : Nat

/-- Why an operation on a document fails. -/
inductive DocumentError where
  | invalidSelector (selector : String)
  | invalidTagName (tag : String)
  | missingBody
  deriving DecidableEq

/-- The wording of an error. -/
def DocumentError.message : DocumentError → String
  | invalidSelector selector => "Invalid selector: " ++ selector
  | invalidTagName tag => "Invalid tag name: " ++ String.ofList (Text.quote tag.toList)
  | missingBody => "Document has no <body> element"

namespace Document

/-- The document of a text. Every text has one. -/
def parse (html : String) : Document :=
  let numbered := Node.numberAll 0 (Html.parse html.toList)
  { nodes := numbered.1, next := numbered.2 }

/-- The text of a document. -/
def html (document : Document) : String :=
  String.ofList (Node.printAll false false document.nodes)

/-- The element with a number, wherever it is. -/
def element? (document : Document) (id : Nat) : Option (Element Nat) :=
  (Node.findIn? id document.nodes).or (Node.findIn? id document.loose)

end Document

end CiteRender
