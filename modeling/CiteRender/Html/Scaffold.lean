import CiteRender.Html.Node

/-!
# The Tree Under Construction

While a document is read its tree changes in places that are long past: text
moves in front of a table, a formatting element is split around a block. The
nodes are therefore kept by number, each with its parent and its children,
until the text is read. Then the finished tree is taken from them.

Every change first takes the node from where it was, so a node is never in
two places.

## Main definitions

* `Html.Cell`, `Html.Scaffold`: Nodes by number.
* `Html.Scaffold.append`, `Html.Scaffold.insertBefore`: Placing a node.
* `Html.Scaffold.appendText`, `Html.Scaffold.insertTextBefore`: Placing text,
  which joins a text that is there.
* `Html.Scaffold.trees`: The finished trees below a node.
-/

namespace CiteRender

namespace Html

/-- What a node under construction is. A `template` element knows the node
    that holds its contents. A text has its pieces, the last first. -/
inductive CellKind where
  | root
  | element (tag : Tag) (attributes : List Attribute) (contents : Option Nat)
  | text (pieces : List (List Char))
  | comment (s : List Char)
  | doctype (name : List Char)

/-- A node under construction. -/
structure Cell where
  kind : CellKind
  parent : Option Nat := none
  children : List Nat := []

/-- Nodes by number. Node 0 is the document. -/
abbrev Scaffold := Array Cell

namespace Scaffold

/-- The nodes before anything is read: the document alone. -/
def start : Scaffold :=
  #[{ kind := .root }]

/-- The tag of an element. -/
def tag (nodes : Scaffold) (i : Nat) : Tag :=
  match nodes[i]? with
  | some { kind := .element tag _ _, .. } => tag
  | _ => Tag.html ""

/-- The node that holds the contents of a `template`, or the node itself. -/
def contentsOrSelf (nodes : Scaffold) (i : Nat) : Nat :=
  match nodes[i]? with
  | some { kind := .element _ _ (some contents), .. } => contents
  | _ => i

/-- The parent of a node. -/
def parent (nodes : Scaffold) (i : Nat) : Option Nat :=
  nodes[i]?.bind Cell.parent

/-- The children of a node. -/
def children (nodes : Scaffold) (i : Nat) : List Nat :=
  (nodes[i]?.map Cell.children).getD []

/-- A new node with no place yet, and its number. -/
def add (nodes : Scaffold) (kind : CellKind) : Scaffold × Nat :=
  (nodes.push { kind }, nodes.size)

/-- Takes a node from its place. -/
def detach (nodes : Scaffold) (i : Nat) : Scaffold :=
  match nodes.parent i with
  | none => nodes
  | some p =>
    (nodes.modify p fun cell => { cell with children := cell.children.filter (· ≠ i) }).modify i
      fun cell => { cell with parent := none }

/-- Makes a node the last child of another. -/
def append (nodes : Scaffold) (parent i : Nat) : Scaffold :=
  ((nodes.detach i).modify parent fun cell =>
    { cell with children := cell.children ++ [i] }).modify i
      fun cell => { cell with parent := some parent }

/-- Puts a number before another in a list. -/
def putBefore (sibling i : Nat) : List Nat → List Nat
  | [] => [i]
  | j :: rest => if j = sibling then i :: j :: rest else j :: putBefore sibling i rest

/-- Places a node right before another. -/
def insertBefore (nodes : Scaffold) (sibling i : Nat) : Scaffold :=
  let nodes := nodes.detach i
  match nodes.parent sibling with
  | none => nodes
  | some p =>
    (nodes.modify p fun cell => { cell with children := putBefore sibling i cell.children }).modify
      i fun cell => { cell with parent := some p }

/-- Adds text at the end of a text node. -/
def extendText (nodes : Scaffold) (i : Nat) (s : List Char) : Scaffold :=
  nodes.modify i fun cell =>
    match cell.kind with
    | .text pieces => { cell with kind := .text (s :: pieces) }
    | _ => cell

/-- Whether a node is a text. -/
def isText (nodes : Scaffold) (i : Nat) : Bool :=
  match nodes[i]? with
  | some { kind := .text _, .. } => true
  | _ => false

/-- Puts text at the end of a node. -/
def appendText (nodes : Scaffold) (parent : Nat) (s : List Char) : Scaffold :=
  match (nodes.children parent).getLast?.filter nodes.isText with
  | some last => nodes.extendText last s
  | none =>
    let r := nodes.add (.text [s])
    r.1.append parent r.2

/-- Puts text right before a node. -/
def insertTextBefore (nodes : Scaffold) (sibling : Nat) (s : List Char) : Scaffold :=
  let siblings := ((nodes.parent sibling).map nodes.children).getD []
  match (siblings.takeWhile (· ≠ sibling)).getLast?.filter nodes.isText with
  | some previous => nodes.extendText previous s
  | none =>
    let r := nodes.add (.text [s])
    r.1.insertBefore sibling r.2

/-- Moves all children of a node to the end of another. -/
def moveChildren (nodes : Scaffold) (source target : Nat) : Scaffold :=
  (nodes.children source).foldl (fun nodes i => nodes.append target i) nodes

/-- Gives an element the attributes it does not have yet. -/
def addAttributes (nodes : Scaffold) (i : Nat) (more : List (String × String)) : Scaffold :=
  nodes.modify i fun cell =>
    match cell.kind with
    | .element tag attributes contents =>
      let new := more.filter fun a => (Attribute.find? attributes a.1).isNone
      { cell with
        kind := .element tag (attributes ++ new.map fun a => ⟨.plain, a.1, a.2⟩) contents }
    | _ => cell

/-- The finished trees below a node. No tree is deeper than there are nodes,
    so their number is enough for `fuel`. -/
def treesWith (nodes : Scaffold) : (fuel : Nat) → Nat → List (Node Unit)
  | 0, _ => []
  | fuel + 1, i =>
    (nodes.children i).filterMap fun child =>
      (nodes[child]?).bind fun cell =>
        match cell.kind with
        | .root => none
        | .text pieces => some (.text (String.ofList pieces.reverse.flatten))
        | .comment s => some (.comment (String.ofList s))
        | .doctype name => some (.doctype (String.ofList name))
        | .element tag attributes contents =>
          let inside := (contents.map (treesWith nodes fuel)).getD []
          some (.element () tag attributes inside (treesWith nodes fuel child))

/-- The finished trees of the document. -/
def trees (nodes : Scaffold) : List (Node Unit) :=
  nodes.treesWith (nodes.size + 1) 0

end Scaffold

end Html

end CiteRender
