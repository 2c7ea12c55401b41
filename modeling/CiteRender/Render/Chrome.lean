import CiteRender.Render.Stage

/-!
# Publication Chrome

The stages that put a header, an appendix and a footer around an article
when it is published. An article that has such an element already keeps it
and gets no second one.

## Main definitions

* `End`: The two ends of the body.
* `inject`: Puts an element at an end of the body, unless there is one.
* `addHeader`, `addAppendix`, `addFooter`: The stages.
-/

namespace CiteRender

/-- An end of the body. -/
inductive End where
  | first
  | last

/-- The document with an element moved to an end of another. -/
def Document.addAt (document : Document) (place : End) (id child : Nat) : Document :=
  match place with
  | .first => document.prependChild id child
  | .last => document.appendChild id child

/-- The document with a new element of a tag at an end of its body. -/
def Document.addToBody (document : Document) (tag : String) (place : End) :
    Except DocumentError Document :=
  match document.body? with
  | none => .error .missingBody
  | some body =>
    (document.createElement tag).map fun created => created.1.addAt place body.label created.2

/-- Puts an element at an end of the body, unless the document has one. -/
def inject (tag : String) (place : End) (verbose : Bool) (document : Document) :
    Run Document StageError :=
  match document.selectFirst tag with
  | .error error => .failed document (.document error)
  | .ok (some _) => { state := document, events := notice verbose (.alreadyPresent tag) }
  | .ok none =>
    match document.addToBody tag place with
    | .error error => .failed document (.document error)
    | .ok document => { state := document }

/-- Puts the header at the start of the body. -/
def addHeader : Transform where
  name := "DistillHeader"
  run verbose _ := inject "distill-header" .first verbose

/-- Puts the appendix at the end of the body. -/
def addAppendix : Transform where
  name := "DistillAppendix"
  run verbose _ := inject "distill-appendix" .last verbose

/-- Puts the footer at the end of the body. -/
def addFooter : Transform where
  name := "DistillFooter"
  run verbose _ := inject "distill-footer" .last verbose

end CiteRender
