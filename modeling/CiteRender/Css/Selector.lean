/-!
# Selectors

What a selector says, part by part. A simple selector asks one thing of an
element, a compound one several things of the same element, and a complex
one joins compounds by where their elements stand to each other. Any
selector of a list may match.

Positions among siblings are counted by a step and an offset: the position
has to be `step * n + offset` for some `n` from zero on.

## Main definitions

* `Css.Combinator`: How two compounds stand to each other.
* `Css.AttributeTest`: What is asked of an attribute.
* `Css.Simple`, `Css.Complex`: Simple and complex selectors.
-/

namespace CiteRender

namespace Css

/-- Where the element of the left compound stands, seen from the right one. -/
inductive Combinator where
  | ancestor
  | parent
  | previous
  | earlier
  deriving DecidableEq

/-- How a value is compared with that of an attribute. -/
inductive Comparison where
  | equal
  /-- one of the words of the attribute -/
  | word
  /-- the whole, or what stands before a hyphen -/
  | hyphened
  | beginning
  | ending
  | part
  deriving DecidableEq

/-- Whether letter case counts in a comparison. -/
inductive CaseRule where
  | sensitive
  | insensitive
  /-- it does not count on HTML elements -/
  | insensitiveInHtml
  deriving DecidableEq

/-- What is asked of an attribute. -/
inductive AttributeTest where
  | present
  | compares (comparison : Comparison) (value : List Char) (rule : CaseRule)
  deriving DecidableEq

mutual

/-- A simple selector. -/
inductive Simple where
  | anything
  | nothing
  | named (name : List Char)
  | hasId (id : List Char)
  | hasClass (name : List Char)
  /-- an attribute, of any vocabulary or of none -/
  | hasAttribute (anySpace : Bool) (name : List Char) (test : AttributeTest)
  | isEmpty
  | isRoot
  | isLink
  /-- the position among the siblings, or among those of the same type, from
      either end -/
  | position (fromEnd ofType : Bool) (step offset : Int)
  | matchesNone (alternatives : List Complex)

/-- A complex selector, from left to right. -/
inductive Complex where
  | compound (simples : List Simple)
  | joined (left : Complex) (combinator : Combinator) (simples : List Simple)

end

end Css

end CiteRender
