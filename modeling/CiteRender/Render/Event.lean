import CiteRender.Text.Quoted

/-!
# Events

What a render reports while it runs. Notices say what a stage is doing and
are only given on request; warnings say that the result is degraded and are
always given. An event is a fact with its parts; its wording is a function
of it.

## Main definitions

* `Phase`: The three lists of stages.
* `Event`: What can be reported.
* `Event.level`, `Event.message`, `Event.fields`: How it is reported.
* `notice`: An event that is only given on request.
-/

namespace CiteRender

/-- The list that a stage belongs to. -/
inductive Phase where
  | extract
  | transform
  | distill
  deriving DecidableEq

/-- The word for the stages of a list. -/
def Phase.label : Phase → String
  | extract => "extractor"
  | transform => "transform"
  | distill => "distill transform"

/-- How much an event matters. -/
inductive Level where
  | info
  | warn
  deriving DecidableEq

/-- What a render reports. -/
inductive Event where
  /-- a stage of a list begins -/
  | running (phase : Phase) (stage : String)
  /-- a bibliography block had this many different keys -/
  | parsedBlock (entries : Nat)
  /-- this many markers were found, and this many keys are recorded -/
  | collected (markers keys : Nat)
  /-- a marker with these keys shows a placeholder -/
  | unresolved (keys : List String)
  /-- a key has an entry but no number -/
  | neverCited (key : String)
  /-- this many references are recorded, and this many markers are degraded -/
  | rendered (references degraded : Nat)
  /-- the document has an element of this tag already -/
  | alreadyPresent (tag : String)
  deriving DecidableEq

namespace Event

/-- Placeholders are warnings, all else is a notice. -/
def level : Event → Level
  | unresolved _ => .warn
  | neverCited _ => .warn
  | _ => .info

/-- The wording of an event. -/
def message : Event → String
  | running phase _ => "Running " ++ phase.label
  | parsedBlock _ => "Parsed bibliography block"
  | collected _ _ => "Collected citations"
  | unresolved _ => "Unresolved citation rendered as placeholder"
  | neverCited _ => "Citation key has an entry but was never cited"
  | rendered _ _ => "Rendered citations"
  | alreadyPresent _ => "Element already present"

/-- The named parts of an event as texts. -/
def fields : Event → List (String × String)
  | running _ stage => [("stage", stage)]
  | parsedBlock entries => [("entries", toString entries)]
  | collected markers keys => [("markers", toString markers), ("keys", toString keys)]
  | unresolved keys => [("keys", String.ofList (Text.quoteList (keys.map String.toList)))]
  | neverCited key => [("key", key)]
  | rendered references degraded =>
    [("references", toString references), ("degraded", toString degraded)]
  | alreadyPresent tag => [("tag", tag)]

end Event

/-- An event that is only given on request. -/
def notice (verbose : Bool) (event : Event) : List Event :=
  if verbose then [event] else []

end CiteRender
