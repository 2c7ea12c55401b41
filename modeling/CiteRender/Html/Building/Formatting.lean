import CiteRender.Html.Building.State

/-!
# Formatting Elements

Elements such as `b` and `a` may be left open across the end of a paragraph;
they are then opened again in the next. When one is closed while a block is
open inside it, the block is moved out of it and what was in the block is
wrapped in a new element of the same kind.

## Main definitions

* `Html.Builder.reopen`: Opens the formatting elements that are not open.
* `Html.Builder.openFormatting`: Opens a formatting element.
* `Html.Builder.closeFormatting`: Closes a formatting element of a name.
* `Html.Builder.closeAny`: Closes an element by a plain end tag.
-/

namespace CiteRender

namespace Html

namespace Builder

/-- Whether an entry is a marker or its element is open. -/
def isSettled (b : Builder) : Formatting → Bool
  | .marker => true
  | .element id _ => b.opened.contains id

/-- The entry of a formatting element. -/
def isEntryOf (id : Nat) : Formatting → Bool
  | .marker => false
  | .element other _ => other = id

/-- Whether an element is on the list of formatting elements. -/
def isFormatting (b : Builder) (id : Nat) : Bool :=
  b.formatting.any (isEntryOf id)

/-- Strikes an element from the list of formatting elements. -/
def removeFormatting (b : Builder) (id : Nat) : Builder :=
  { b with formatting := b.formatting.filter fun entry => !isEntryOf id entry }

/-- The entries since the last marker, the latest first. -/
def recentFormatting (b : Builder) : List Formatting :=
  b.formatting.takeWhile (· ≠ .marker)

/-- Opens new elements for some entries in order, and gives their new entries
    in reverse. -/
def reopenAll (b : Builder) : List Formatting → Builder × List Formatting
  | [] => (b, [])
  | .marker :: rest => reopenAll b rest
  | .element _ tag :: rest =>
    let r := b.openElement (.html tag.name) (plainAttributes tag)
    let more := reopenAll r.1 rest
    (more.1, more.2 ++ [.element r.2 tag])

/-- Opens the formatting elements that were left open and are not open now. -/
def reopen (b : Builder) : Builder :=
  let waiting := b.formatting.takeWhile fun entry => !b.isSettled entry
  let settled := b.formatting.dropWhile fun entry => !b.isSettled entry
  if waiting.isEmpty then b
  else
    let r := b.reopenAll waiting.reverse
    { r.1 with formatting := r.2 ++ settled }

/-- Whether two start tags are equal up to the order of their attributes. -/
def sameTag (a b : StartTag) : Bool :=
  a.name = b.name && a.attributes.length = b.attributes.length &&
    a.attributes.all b.attributes.contains

/-- The recent entries with an equal tag, the latest first. -/
def equalEntries (b : Builder) (tag : StartTag) : List Formatting :=
  b.recentFormatting.filter fun entry =>
    match entry with
    | .marker => false
    | .element _ other => sameTag tag other

/-- Opens a formatting element. Of four equal ones in a row the first is
    forgotten. -/
def openFormatting (b : Builder) (tag : StartTag) : Builder :=
  let equal := b.equalEntries tag
  let kept :=
    match equal.getLast? with
    | some first => if 3 ≤ equal.length then b.formatting.erase first else b.formatting
    | none => b.formatting
  let r := b.openElement (.html tag.name) (plainAttributes tag)
  { r.1 with formatting := .element r.2 tag :: kept }

/-- Looks for an open HTML element of a name that no special element hides. -/
def findPlain (b : Builder) (name : String) : List Nat → Bool
  | [] => false
  | id :: rest =>
    (b.tag id).isNamed name || (!isSpecial (b.tag id) && findPlain b name rest)

/-- Closes an element by a plain end tag. What stands open inside it closes
    too; a special element inside it keeps it open. -/
def closeAny (b : Builder) (name : String) : Builder :=
  if b.findPlain name b.opened then b.closeUntil [name] else b

/-- Where the entry of a new formatting element goes. -/
inductive Bookmark where
  | replace
  | rightAfter (id : Nat)

/-- The state of splitting a formatting element around a block. -/
structure Split where
  b : Builder
  /-- the open elements between the block and the formatting element -/
  between : List Nat
  /-- the node moved last -/
  lastMoved : Nat
  bookmark : Bookmark

/-- The formatting tag of an element on the list. -/
def formattingTag? (b : Builder) (id : Nat) : Option StartTag :=
  b.formatting.findSome? fun entry =>
    match entry with
    | .marker => none
    | .element other tag => if other = id then some tag else none

/-- Goes through the elements between the block and the formatting element,
    from the block outwards. The first three formatting elements among them
    are split too; all others close. -/
def splitBetween (block : Nat) : (count : Nat) → List Nat → Split → Split
  | _, [], s => s
  | count, id :: rest, s =>
    match s.b.formattingTag? id with
    | none => splitBetween block (count + 1) rest s
    | some tag =>
      if 3 ≤ count then
        -- The element is forgotten, and closes as it does not join `between`.
        splitBetween block (count + 1) rest { s with b := s.b.removeFormatting id }
      else
        let r := s.b.createElement (.html tag.name) (plainAttributes tag)
        let formatting := r.1.formatting.map fun entry =>
          if isEntryOf id entry then .element r.2 tag else entry
        let nodes := r.1.nodes.append r.2 s.lastMoved
        let bookmark := if s.lastMoved = block then .rightAfter r.2 else s.bookmark
        splitBetween block (count + 1) rest
          { b := { r.1 with formatting, nodes }, between := s.between ++ [r.2],
            lastMoved := r.2, bookmark }

/-- Puts the entry of a new formatting element where the bookmark says, in
    place of the old one. -/
def placeEntry (old : Nat) (new : Formatting) (bookmark : Bookmark) (list : List Formatting) :
    List Formatting :=
  match bookmark with
  | .replace => list.map fun entry => if isEntryOf old entry then new else entry
  | .rightAfter id =>
    (list.flatMap fun entry => if isEntryOf id entry then [new, entry] else [entry]).filter
      fun entry => !isEntryOf old entry

/-- Splits an open formatting element around the block that is open in it.
    `inner` are the open elements inside the block, `outer` those outside the
    formatting element. -/
def splitAround (b : Builder) (id : Nat) (tag : StartTag) (inner : List Nat) (block : Nat)
    (between outer : List Nat) : Builder :=
  let s := splitBetween block 0 between
    { b, between := [], lastMoved := block, bookmark := .replace }
  let b := s.b
  -- The block, in as many new wrappers as were split, leaves the formatting element.
  let ancestor := outer.head?.getD 0
  let b := b.putAt (b.placeIn ancestor) s.lastMoved
  -- What was in the block is wrapped in a new formatting element inside it.
  let r := b.createElement (.html tag.name) (plainAttributes tag)
  let nodes := (r.1.nodes.moveChildren block r.2).append block r.2
  { r.1 with
    nodes
    formatting := placeEntry id (.element r.2 tag) s.bookmark r.1.formatting
    opened := inner ++ [r.2, block] ++ s.between ++ outer }

/-- The latest recent formatting element of a name. -/
def findFormatting (b : Builder) (name : String) : Option (Nat × StartTag) :=
  b.recentFormatting.findSome? fun entry =>
    match entry with
    | .marker => none
    | .element id tag => if tag.name = name then some (id, tag) else none

/-- Closes a formatting element of a name, once for each block it is open
    around. Eight times are enough for any sane document. -/
def closeFormattingWith (name : String) : (times : Nat) → Builder → Builder
  | 0, b => b
  | times + 1, b =>
    match b.findFormatting name with
    | none => b.closeAny name
    | some (id, tag) =>
      if !b.opened.contains id then b.removeFormatting id
      else if !b.nodeInScope id then b
      else
        -- The open elements are listed from the innermost, so `above` is inside.
        let above := b.opened.takeWhile (· ≠ id)
        let outer := (b.opened.dropWhile (· ≠ id)).drop 1
        let isBlock (node : Nat) : Bool := isSpecial (b.tag node)
        match above.reverse.find? isBlock with
        | none => { b.removeFormatting id with opened := outer }
        | some block =>
          -- Here `block` is the outermost special element inside the formatting one.
          let inner := above.takeWhile (· ≠ block)
          let between := (above.dropWhile (· ≠ block)).drop 1
          closeFormattingWith name times (b.splitAround id tag inner block between outer)

/-- Closes a formatting element of a name. -/
def closeFormatting (b : Builder) (name : String) : Builder :=
  if b.currentTag.isNamed name && !b.isFormatting b.current then b.pop
  else closeFormattingWith name 8 b

end Builder

end Html

end CiteRender
