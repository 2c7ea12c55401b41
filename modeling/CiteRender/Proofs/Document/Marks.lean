import CiteRender.Proofs.Document.Edits
import CiteRender.Proofs.Html.Lasting.Opening

/-!
# Marks in Documents

Whether a document that was parsed has a mark. Numbering the elements of a tree
keeps their tags and attributes, so the body of the document is that of the
tree, and it can only have a mark with a name that the reader of tags gives.

## Theorems

* `Node.tagsIn_numberAll`: Numbering keeps tags and attributes.
* `Document.isMarked_parse`: A document is marked if every body of its tree is.
* `Document.isAttributeName_of_isMarked`: A mark that is found can be read.
-/

namespace CiteRender

namespace Node

variable {ι : Type}

/-- The tags of the elements of some trees with their attributes, in document
    order. -/
def tagsIn (nodes : List (Node ι)) : List (Tag × List Attribute) :=
  (elementsIn nodes).map fun e => (e.tag, e.attributes)

theorem tagsIn_leaf (node : Node ι) (rest : List (Node ι)) (h : node.asElement? = none) :
    tagsIn (node :: rest) = tagsIn rest := by
  rw [tagsIn, elementsIn_leaf node rest h, tagsIn]

theorem tagsIn_element (label : ι) (tag : Tag) (attributes : List Attribute)
    (contents children rest : List (Node ι)) :
    tagsIn (.element label tag attributes contents children :: rest) =
      (tag, attributes) :: (tagsIn children ++ tagsIn rest) := by
  rw [tagsIn, elementsIn_element, List.map_cons, List.map_append]
  rfl

/-- Numbering keeps tags and attributes. -/
theorem tagsIn_numberAll {α : Type} (nodes : List (Node α)) :
    ∀ n, tagsIn (numberAll n nodes).1 = tagsIn nodes := by
  induction nodes using forestInduction with
  | nil => exact fun _ => rfl
  | leaf node rest hleaf ih =>
      intro n
      rw [tagsIn_leaf node rest hleaf]
      cases node with
      | element => simp [asElement?] at hleaf
      | _ => exact ih n
  | element label tag attributes contents children rest _ ihchildren ihrest =>
      intro n
      rw [tagsIn_element, numberAll, number, tagsIn_element, ihchildren, ihrest]

end Node

/-- An attribute of no vocabulary is found if it is there. -/
theorem Element.attribute?_isSome_iff {ι : Type} (e : Element ι) (name : String) :
    (e.attribute? name).isSome = true ↔ Html.HasMark name e.attributes := by
  rw [Element.attribute?, Attribute.find?, Option.isSome_map, List.find?_isSome]
  simp [Html.HasMark]

namespace Document

/-- The body of a document that was parsed is an element of its tree. -/
theorem body?_parse (html : String) (body : Element Nat) (h : (parse html).body? = some body) :
    ∃ e ∈ Node.elementsIn (Html.parse html.toList), e.tag = body.tag ∧
      e.attributes = body.attributes ∧ body.tag.name = "body" := by
  have hbody := (parse html).mem_of_body? body h
  have htags := Node.tagsIn_numberAll (Html.parse html.toList) 0
  have hmem : (body.tag, body.attributes) ∈ Node.tagsIn (Html.parse html.toList) :=
    htags ▸ List.mem_map.mpr ⟨body, hbody.1, rfl⟩
  rcases List.mem_map.mp hmem with ⟨e, he, heq⟩
  exact ⟨e, he, (Prod.mk.inj heq).1, (Prod.mk.inj heq).2, hbody.2⟩

/-- A document has a body if its tree has one. -/
theorem body?_parse_isSome (html : String)
    (h : ∃ e ∈ Node.elementsIn (Html.parse html.toList), e.tag.name = "body") :
    ∃ body, (parse html).body? = some body := by
  rcases h with ⟨e, he, hname⟩
  have htags := Node.tagsIn_numberAll (Html.parse html.toList) 0
  have hmem : (e.tag, e.attributes) ∈ Node.tagsIn (parse html).nodes :=
    htags.symm ▸ List.mem_map.mpr ⟨e, he, rfl⟩
  rcases List.mem_map.mp hmem with ⟨body, hbody, heq⟩
  have hfilter : body ∈ (Node.elementsIn (parse html).nodes).filter fun e => e.tag.name = "body" :=
    List.mem_filter.mpr ⟨hbody, decide_eq_true ((Prod.mk.inj heq).1 ▸ hname)⟩
  rw [body?, (parse html).matching_named "body" (by decide)]
  cases hlist : (Node.elementsIn (parse html).nodes).filter fun e => e.tag.name = "body" with
  | nil => exact absurd (hlist ▸ hfilter) List.not_mem_nil
  | cons first _ => exact ⟨first, rfl⟩

/-- A document is marked if every body of its tree is, and there is one. -/
theorem isMarked_parse (html name : String)
    (hbody : ∃ e ∈ Node.elementsIn (Html.parse html.toList), e.tag.name = "body")
    (hmark : ∀ e ∈ Node.elementsIn (Html.parse html.toList), e.tag.name = "body" →
      Html.HasMark name e.attributes) : (parse html).isMarked name = true := by
  rcases body?_parse_isSome html hbody with ⟨body, hfound⟩
  rcases body?_parse html body hfound with ⟨e, he, htag, hattributes, hname⟩
  rw [isMarked, hfound, Option.any_some, body.attribute?_isSome_iff, ← hattributes]
  exact hmark e he (htag ▸ hname)

/-- A mark that is found on a document that was parsed has a name that can be
    read. -/
theorem isAttributeName_of_isMarked (html name : String)
    (h : (parse html).isMarked name = true) : Html.isAttributeName name.toList = true := by
  rw [isMarked, Option.any_eq_true] at h
  rcases h with ⟨body, hfound, hmark⟩
  rcases body?_parse html body hfound with ⟨e, he, htag, hattributes, hname⟩
  rcases (body.attribute?_isSome_iff name).mp hmark with ⟨a, ha, -, rfl⟩
  have hnamed := Html.isNamed_of_mem_parse html.toList e he
  exact (hnamed.1 (hnamed.2 (htag ▸ hname)) a (hattributes ▸ ha)).2

end Document

end CiteRender
