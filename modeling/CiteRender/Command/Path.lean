import CiteRender.Text.Blank

/-!
# Paths

A path is taken apart at its slashes. Each part is a step from a directory to
something in it, a step back up, or no step at all, so that many paths lead
to one place. Where a command starts is not known from the outside: a place
is given by the steps from there, from a directory some levels above it, or
from the root.

## Main definitions

* `Path.parts`: The parts of a path.
* `Place`: Where a path leads.
* `Place.step`: One step from a place.
-/

namespace CiteRender

namespace Path

/-- The parts of a path between its slashes. -/
def parts (path : String) : List String :=
  (Text.splitWhere (· == '/') path.toList).map String.ofList

/-- Whether a part leads nowhere. -/
def isIdle (part : String) : Bool :=
  part = "" || part = "."

/-- The part that leads back up. -/
def upward : String := ".."

/-- Whether a part is too long for a name. -/
def isOverlong (part : String) : Bool :=
  255 < part.utf8ByteSize

/-- Whether a path is too long as a whole. -/
def exceeds (path : String) : Bool :=
  4096 ≤ path.utf8ByteSize

/-- The parts of a path without the slashes at its end. -/
def innerParts (path : String) : List String :=
  ((parts path).reverse.dropWhile (· = "")).reverse

/-- Whether a path ends in a slash. -/
def endsInSlash (path : String) : Bool :=
  (parts path).getLast? = some ""

/-- Whether a path is the mark `-`, which stands for the standard input. -/
def isInputMark (path : String) : Bool :=
  match parts path with
  | "-" :: rest => rest.all isIdle
  | _ => false

end Path

/-- Where the steps to a place begin. -/
inductive Origin where
  /-- so many levels above where a command starts -/
  | above (levels : Nat)
  | root
  deriving DecidableEq

/-- A place in the tree of files. -/
structure Place where
  origin : Origin := .above 0
  steps : List String := []
  deriving DecidableEq

namespace Place

/-- The place that a path is read from. -/
def start (path : String) : Place :=
  match path.toList with
  | '/' :: _ => { origin := .root }
  | _ => {}

/-- The place of a name in a directory. -/
def child (place : Place) (name : String) : Place :=
  { place with steps := place.steps ++ [name] }

/-- The directory of a place. The root is its own. -/
def parent (place : Place) : Place :=
  match place.steps, place.origin with
  | [], .above levels => { origin := .above (levels + 1) }
  | [], .root => place
  | steps, _ => { place with steps := steps.dropLast }

/-- One step from a place, which is a directory. -/
def step (place : Place) (part : String) : Place :=
  if Path.isIdle part then place
  else if part = Path.upward then place.parent
  else place.child part

/-- Whether a place is inside another. -/
def isInside (place outer : Place) : Bool :=
  place.origin = outer.origin && outer.steps.isPrefixOf place.steps && place ≠ outer

end Place

end CiteRender
