import CiteRender.Css.Selector
import CiteRender.Html.Node
import CiteRender.Text.Blank

/-!
# Matching Selectors

Whether an element matches a selector depends on the element and on what
stands around it. A spot is an element with its element siblings on both
sides and with the spot of its parent, which is all that a selector can see.

## Main definitions

* `Css.Spot`: An element with its surroundings.
* `Css.Spot.parents`, `Css.Spot.earlierSiblings`: Where combinators look.
* `Css.Simple.matches`, `Css.Complex.matches`: Whether a spot matches.
* `Css.spotsOfAll`: The spots of a tree in document order.
-/

namespace CiteRender

namespace Css

/-- An element with its surroundings: the element siblings before it, the
    nearest first, those after it, and the spot of its parent. -/
inductive Spot (ι : Type) where
  | mk (element : Element ι) (before after : List (Element ι)) (parent : Option (Spot ι))

namespace Spot

variable {ι : Type}

/-- The element of a spot. -/
def element : Spot ι → Element ι
  | mk element _ _ _ => element

/-- The element siblings before, the nearest first. -/
def before : Spot ι → List (Element ι)
  | mk _ before _ _ => before

/-- The element siblings after. -/
def after : Spot ι → List (Element ι)
  | mk _ _ after _ => after

/-- The spot of the parent, if that is an element. -/
def parent : Spot ι → Option (Spot ι)
  | mk _ _ _ parent => parent

/-- The spots of the elements around, from the parent outwards. -/
def parents : Spot ι → List (Spot ι)
  | mk _ _ _ none => []
  | mk _ _ _ (some parent) => parent :: parent.parents

/-- The spots of siblings before, the nearest first, given those after. -/
def siblingsFrom (parent : Option (Spot ι)) (after : List (Element ι)) :
    List (Element ι) → List (Spot ι)
  | [] => []
  | e :: before => mk e before after parent :: siblingsFrom parent (e :: after) before

/-- The spots of the element siblings before, the nearest first. -/
def earlierSiblings (s : Spot ι) : List (Spot ι) :=
  siblingsFrom s.parent (s.element :: s.after) s.before

end Spot

/-- The words of an attribute, between the blanks of CSS. -/
def attributeWords (value : List Char) : List (List Char) :=
  (Text.splitWhere (fun c => c == ' ' || c == '\t' || c == '\n' || c == '\r' || c == '\x0c')
    value).filter (· ≠ [])

/-- Whether the value of an attribute compares to a wanted one. An empty
    wanted value is no word, beginning, ending or part of any. -/
def Comparison.holds (comparison : Comparison) (ignoreCase : Bool) (wanted value : List Char) :
    Bool :=
  let fold (s : List Char) : List Char := if ignoreCase then Text.lower s else s
  let wanted := fold wanted
  let value := fold value
  match comparison with
  | .equal => value = wanted
  | .word => (attributeWords value).contains wanted
  | .hyphened => value = wanted || (wanted ++ ['-']).isPrefixOf value
  | .beginning => wanted ≠ [] && wanted.isPrefixOf value
  | .ending => wanted ≠ [] && wanted.isSuffixOf value
  | .part => wanted ≠ [] && Text.contains wanted value

section Element

variable {ι : Type}

/-- Whether an element belongs to HTML. -/
def isHtml (e : Element ι) : Bool :=
  e.tag.space = .html

/-- A name as it is compared on an element: lowered on one of HTML. -/
def nameOn (e : Element ι) (name : List Char) : List Char :=
  if isHtml e then Text.lower name else name

/-- Whether letter case is ignored on an element. -/
def CaseRule.ignoresCase (rule : CaseRule) (e : Element ι) : Bool :=
  match rule with
  | .sensitive => false
  | .insensitive => true
  | .insensitiveInHtml => isHtml e

/-- Whether the value of an attribute passes a test. -/
def AttributeTest.holds (test : AttributeTest) (e : Element ι) (value : String) : Bool :=
  match test with
  | .present => true
  | .compares comparison wanted rule =>
    comparison.holds (rule.ignoresCase e) wanted value.toList

/-- Whether an element has an attribute that passes a test. -/
def hasAttribute (anySpace : Bool) (name : List Char) (test : AttributeTest) (e : Element ι) :
    Bool :=
  let name := nameOn e name
  let named (a : Attribute) : Bool := a.name.toList = name
  if anySpace then e.attributes.any fun a => named a && test.holds e a.value
  else
    (e.attributes.find? fun a => a.space = .plain && named a).any fun a => test.holds e a.value

/-- Whether a node leaves its parent empty: it is no element and no text. -/
def leavesEmpty : Node ι → Bool
  | .element _ _ _ _ _ => false
  | .text s => s.isEmpty
  | _ => true

/-- Whether an element is a link. -/
def isLink (e : Element ι) : Bool :=
  e.tag.isOneOf ["a", "area", "link"] && (e.attribute? "href").isSome

end Element

/-- Whether `index` is `step * n + offset` for some `n` from zero on, all in
    the 32-bit range. -/
def isCounted (step offset : Int) (index : Nat) : Bool :=
  let distance : Int := index - offset
  if 2147483647 < distance then false
  else if step = 0 then distance = 0
  else 0 ≤ distance.tdiv step && step * distance.tdiv step = distance

section Matches

variable {ι : Type}

/-- The place of an element among its siblings, counted from one. -/
def placeOf (fromEnd ofType : Bool) (s : Spot ι) : Nat :=
  let side := if fromEnd then s.after else s.before
  (side.filter fun e => !ofType || e.tag = s.element.tag).length + 1

mutual

/-- Whether a spot matches a simple selector. -/
def Simple.matches : Simple → Spot ι → Bool
  | .anything, _ => true
  | .nothing, _ => false
  | .named name, s => s.element.tag.name.toList = nameOn s.element name
  | .hasId id, s => (s.element.attribute? "id").any fun value => value.toList = id
  | .hasClass name, s =>
    (s.element.attribute? "class").any fun value => (attributeWords value.toList).contains name
  | .hasAttribute anySpace name test, s => hasAttribute anySpace name test s.element
  | .isEmpty, s => s.element.children.all leavesEmpty
  | .isRoot, s => s.parent.isNone
  | .isLink, s => isLink s.element
  | .position fromEnd ofType step offset, s =>
    isCounted step offset (placeOf fromEnd ofType s)
  | .matchesNone alternatives, s => !anyMatches alternatives s

/-- Whether a spot matches every simple selector of a list. -/
def allMatch : List Simple → Spot ι → Bool
  | [], _ => true
  | simple :: rest, s => simple.matches s && allMatch rest s

/-- Whether a spot matches a complex selector. -/
def Complex.matches : Complex → Spot ι → Bool
  | .compound simples, s => allMatch simples s
  | .joined left combinator simples, s =>
    allMatch simples s &&
      match combinator with
      | .ancestor => s.parents.any fun other => left.matches other
      | .parent => s.parents.head?.any fun other => left.matches other
      | .previous => s.earlierSiblings.head?.any fun other => left.matches other
      | .earlier => s.earlierSiblings.any fun other => left.matches other

/-- Whether a spot matches some complex selector of a list. -/
def anyMatches : List Complex → Spot ι → Bool
  | [], _ => false
  | complex :: rest, s => complex.matches s || anyMatches rest s

end

/-- The elements among some nodes. -/
def elementsOf (nodes : List (Node ι)) : List (Element ι) :=
  nodes.filterMap Node.asElement?

mutual

/-- The spots of a tree in document order. -/
def spotsOf (parent : Option (Spot ι)) (before after : List (Element ι)) :
    Node ι → List (Spot ι)
  | .element label tag attributes contents children =>
    let spot := Spot.mk ⟨label, tag, attributes, contents, children⟩ before after parent
    spot :: spotsOfAll (some spot) [] children
  | _ => []

/-- The spots of sibling trees in document order. -/
def spotsOfAll (parent : Option (Spot ι)) (before : List (Element ι)) :
    List (Node ι) → List (Spot ι)
  | [] => []
  | node :: rest =>
    spotsOf parent before (elementsOf rest) node ++
      spotsOfAll parent (node.asElement?.toList ++ before) rest

end

end Matches

end Css

end CiteRender
