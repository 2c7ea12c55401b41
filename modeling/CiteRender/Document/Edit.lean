import CiteRender.Document.Query

/-!
# Changing Documents

Elements are created without a place and placed later. An element that is
placed leaves the place it had, with all that is in it; one that is asked to
hold itself stays where it is. What loses its place to a text becomes loose.

A new element is built by parsing its two tags, so it is what a parsed
document would have there.

## Main definitions

* `Document.update`: The document with one element changed.
* `Document.remove`: The document without one element.
* `Document.setAttribute`, `Document.setText`: Changes inside an element.
* `Document.appendChild`, `Document.prependChild`: Changes of place.
* `Document.createElement`: A new loose element.
* `Document.mark`: Sets an attribute of the body.
-/

namespace CiteRender

namespace Node

mutual

/-- A tree with the parts of one element changed. -/
def updateAt (id : Nat) (f : Element Nat → Element Nat) : Node Nat → Node Nat
  | .element label tag attributes contents children =>
    if label = id then (f ⟨label, tag, attributes, contents, children⟩).node
    else .element label tag attributes contents (updateIn id f children)
  | node => node

/-- Trees with the parts of one element changed. -/
def updateIn (id : Nat) (f : Element Nat → Element Nat) : List (Node Nat) → List (Node Nat)
  | [] => []
  | node :: rest => updateAt id f node :: updateIn id f rest

end

/-- Whether a node is the element with a number. -/
def hasLabel (id : Nat) : Node Nat → Bool
  | .element label _ _ _ _ => label = id
  | _ => false

mutual

/-- A tree without one element below its root. -/
def removeBelow (id : Nat) : Node Nat → Node Nat
  | .element label tag attributes contents children =>
    .element label tag attributes contents (removeFrom id children)
  | node => node

/-- Trees without one element. -/
def removeFrom (id : Nat) : List (Node Nat) → List (Node Nat)
  | [] => []
  | node :: rest =>
    if node.hasLabel id then removeFrom id rest
    else removeBelow id node :: removeFrom id rest

end

end Node

namespace Document

/-- The document with one element changed. -/
def update (document : Document) (id : Nat) (f : Element Nat → Element Nat) : Document :=
  { document with
    nodes := Node.updateIn id f document.nodes
    loose := Node.updateIn id f document.loose }

/-- The document without one element and what is in it. -/
def remove (document : Document) (id : Nat) : Document :=
  { document with
    nodes := Node.removeFrom id document.nodes
    loose := Node.removeFrom id document.loose }

/-- Sets an attribute of an element. -/
def setAttribute (document : Document) (id : Nat) (name value : String) : Document :=
  document.update id fun e => { e with attributes := Attribute.set e.attributes name value }

/-- The elements among the children of an element. -/
def childElements (document : Document) (id : Nat) : List (Node Nat) :=
  ((document.element? id).map fun e =>
    e.children.filter fun node => node.asElement?.isSome).getD []

/-- Replaces the children of an element by one text. -/
def setText (document : Document) (id : Nat) (text : String) : Document :=
  let freed := document.childElements id
  let document := document.update id fun e => { e with children := [.text text] }
  { document with loose := document.loose ++ freed }

/-- Moves an element into another, to where `put` says. Nothing changes if one
    of them is unknown, or if the first holds the second. -/
def place (document : Document) (id child : Nat)
    (put : Node Nat → List (Node Nat) → List (Node Nat)) : Document :=
  match document.element? id, document.element? child with
  | some _, some moved =>
    -- An element that holds the target, or is it, cannot go into it.
    if (Node.labels moved.node).contains id then document
    else
      (document.remove child).update id fun e =>
        { e with children := put moved.node e.children }
  | _, _ => document

/-- Makes an element the last child of another. -/
def appendChild (document : Document) (id child : Nat) : Document :=
  document.place id child fun node children => children ++ [node]

/-- Makes an element the first child of another. -/
def prependChild (document : Document) (id child : Nat) : Document :=
  document.place id child fun node children => node :: children

/-- Whether a text can be the name of a tag: an ASCII letter, and then ASCII
    letters, digits and hyphens. -/
def isTagName (tag : List Char) : Bool :=
  tag.head?.any Char.isAlpha && tag.all fun c => c.isAlphanum || c == '-'

/-- The element that a document has for a pair of tags, if it has one. -/
def parsedElement? (tag : String) : Option (Element Nat) :=
  match (parse ("<" ++ tag ++ "></" ++ tag ++ ">")).selectFirst tag with
  | .ok found => found
  | .error _ => none

/-- A new loose element, and its number. -/
def createElement (document : Document) (tag : String) :
    Except DocumentError (Document × Nat) :=
  if isTagName tag.toList then
    match parsedElement? tag with
    | some e =>
      let numbered := e.node.number document.next
      .ok ({ document with
        loose := document.loose ++ [numbered.1], next := numbered.2 }, document.next)
    | none => .error (.invalidTagName tag)
  else .error (.invalidTagName tag)

/-- Sets an attribute of the body to the empty text. -/
def mark (document : Document) (name : String) : Except DocumentError Document :=
  match document.body? with
  | some body => .ok (document.setAttribute body.label name "")
  | none => .error .missingBody

end Document

end CiteRender
