import CiteRender.Css.Matching
import CiteRender.Css.Reader
import CiteRender.Document.Basic

/-!
# Queries

The elements of a document that match a selector, in document order. Loose
elements belong to no document order and are never found.

## Main definitions

* `Document.matching`: The elements that match selectors.
* `Document.select`: The elements that match the selectors of a text.
* `Document.selectFirst`: The first of them.
* `Document.body?`: The body.
* `Document.isMarked`: Whether the body has an attribute.
-/

namespace CiteRender

namespace Document

/-- The elements that match one of some selectors, in document order. -/
def matching (document : Document) (selectors : List Css.Complex) : List (Element Nat) :=
  ((Css.spotsOfAll none [] document.nodes).filter (Css.anyMatches selectors)).map
    Css.Spot.element

/-- The elements that match the selectors of a text, in document order. -/
def select (document : Document) (selector : String) :
    Except DocumentError (List (Element Nat)) :=
  match Css.readSelectors selector.toList with
  | some selectors => .ok (document.matching selectors)
  | none => .error (.invalidSelector selector)

/-- The first element that matches the selectors of a text. -/
def selectFirst (document : Document) (selector : String) :
    Except DocumentError (Option (Element Nat)) :=
  (document.select selector).map List.head?

/-- The body, if the document has one. -/
def body? (document : Document) : Option (Element Nat) :=
  (document.matching [.compound [.named "body".toList]]).head?

/-- Whether the body has an attribute. -/
def isMarked (document : Document) (name : String) : Bool :=
  document.body?.any fun body => (body.attribute? name).isSome

end Document

end CiteRender
