import CiteRender.Document.Edit
import Mathlib.Data.List.Nodup

/-!
# The Elements of a Document

Trees seen as the list of their elements in document order. Numbers, lookups
and queries are all computed on trees, each by a recursion of its own; seen as
lists they are a map, a search and a filter of one and the same list. What is
said about the elements of a tree then holds for each of them.

A tree is a list of nodes that have such lists inside, so a recursion on it
goes two ways. `forestInduction` says so once: a list of nodes begins with a
node that is no element, or with an element that has two lists in it.

`Numbered` is the invariant of documents. Every element has a number of its
own, below the next free one. A parsed document has it because numbers are
given in document order, and without it a number would not name an element.

## Main definitions

* `Node.elements`, `Node.elementsIn`: Elements in document order.
* `Document.Numbered`: Every element has a number of its own.

## Theorems

* `labelsOf_eq`, `spotsOfAll_elements`: Numbers and queries as lists.
* `eq_of_label_eq`: A number names one element.
* `numberAll_sorted`: Numbers are given in document order.
* `parse_numbered`: Parsed documents are numbered.
-/

namespace CiteRender

namespace Node

variable {ι : Type}

/-- Induction on lists of nodes: a list begins with a node that is no element,
    or with an element. -/
theorem forestInduction {motive : List (Node ι) → Prop} (nil : motive [])
    (leaf : ∀ node rest, node.asElement? = none → motive rest → motive (node :: rest))
    (element : ∀ label tag attributes contents children rest, motive contents →
      motive children → motive rest →
      motive (.element label tag attributes contents children :: rest)) :
    ∀ nodes, motive nodes
  | [] => nil
  | .text s :: rest => leaf (.text s) rest rfl (forestInduction nil leaf element rest)
  | .comment s :: rest => leaf (.comment s) rest rfl (forestInduction nil leaf element rest)
  | .doctype name :: rest => leaf (.doctype name) rest rfl (forestInduction nil leaf element rest)
  | .element label tag attributes contents children :: rest =>
    element label tag attributes contents children rest
      (forestInduction nil leaf element contents) (forestInduction nil leaf element children)
      (forestInduction nil leaf element rest)

mutual

/-- The elements of a tree in document order. -/
def elements : Node ι → List (Element ι)
  | .element label tag attributes contents children =>
    ⟨label, tag, attributes, contents, children⟩ :: elementsIn children
  | _ => []

/-- The elements of some trees in document order. -/
def elementsIn : List (Node ι) → List (Element ι)
  | [] => []
  | node :: rest => elements node ++ elementsIn rest

end

@[simp] theorem elementsIn_nil : elementsIn ([] : List (Node ι)) = [] := rfl

theorem elements_leaf (node : Node ι) (h : node.asElement? = none) : node.elements = [] := by
  cases node with
  | element => simp [asElement?] at h
  | _ => rfl

theorem elementsIn_leaf (node : Node ι) (rest : List (Node ι)) (h : node.asElement? = none) :
    elementsIn (node :: rest) = elementsIn rest := by
  rw [elementsIn, elements_leaf node h, List.nil_append]

@[simp] theorem elementsIn_text (s : String) : elementsIn ([.text s] : List (Node ι)) = [] := rfl

theorem elementsIn_element (label : ι) (tag : Tag) (attributes : List Attribute)
    (contents children rest : List (Node ι)) :
    elementsIn (.element label tag attributes contents children :: rest) =
      ⟨label, tag, attributes, contents, children⟩ :: (elementsIn children ++ elementsIn rest) := by
  rw [elementsIn, elements, List.cons_append]

theorem elementsIn_append (nodes more : List (Node ι)) :
    elementsIn (nodes ++ more) = elementsIn nodes ++ elementsIn more := by
  induction nodes with
  | nil => rfl
  | cons node nodes ih => rw [List.cons_append, elementsIn, elementsIn, ih, List.append_assoc]

/-- What is in an element is in every tree that has the element. -/
theorem mem_elementsIn_of_mem_children (nodes : List (Node ι)) (e x : Element ι)
    (he : e ∈ elementsIn nodes) (hx : x ∈ elementsIn e.children) : x ∈ elementsIn nodes := by
  induction nodes using forestInduction with
  | nil => simp at he
  | leaf node rest hleaf ih =>
      rw [elementsIn_leaf node rest hleaf] at he ⊢
      exact ih he
  | element label tag attributes contents children rest _ ihchildren ihrest =>
      rw [elementsIn_element, List.mem_cons, List.mem_append] at he ⊢
      rcases he with rfl | he | he
      · exact Or.inr (Or.inl hx)
      · exact Or.inr (Or.inl (ihchildren he))
      · exact Or.inr (Or.inr (ihrest he))

/-- What is in one of some trees is in all of them together. -/
theorem mem_elementsIn_of_mem (nodes : List (Node ι)) (node : Node ι) (hnode : node ∈ nodes)
    (x : Element ι) (hx : x ∈ elementsIn [node]) : x ∈ elementsIn nodes := by
  rcases List.append_of_mem hnode with ⟨before, after, rfl⟩
  rw [List.append_cons, elementsIn_append, elementsIn_append]
  exact List.mem_append_left _ (List.mem_append_right _ hx)

theorem labels_leaf (node : Node Nat) (h : node.asElement? = none) : node.labels = [] := by
  cases node with
  | element => simp [asElement?] at h
  | _ => rfl

/-- The numbers of a tree are those of its elements. -/
theorem labelsOf_eq (nodes : List (Node Nat)) :
    labelsOf nodes = (elementsIn nodes).map Element.label := by
  induction nodes using forestInduction with
  | nil => rfl
  | leaf node rest h ih => rw [labelsOf, labels_leaf node h, elementsIn_leaf node rest h, ih]; rfl
  | element label tag attributes contents children rest _ ihchildren ihrest =>
      rw [labelsOf, labels, elementsIn_element, ihchildren, ihrest, List.map_cons, List.map_append]
      rfl

theorem labelsOf_leaf (node : Node Nat) (rest : List (Node Nat)) (h : node.asElement? = none) :
    labelsOf (node :: rest) = labelsOf rest := by
  rw [labelsOf, labels_leaf node h, List.nil_append]

theorem labelsOf_element (label : Nat) (tag : Tag) (attributes : List Attribute)
    (contents children rest : List (Node Nat)) :
    labelsOf (.element label tag attributes contents children :: rest) =
      label :: (labelsOf children ++ labelsOf rest) := by
  rw [labelsOf, labels, List.cons_append]

theorem labelsOf_append (nodes more : List (Node Nat)) :
    labelsOf (nodes ++ more) = labelsOf nodes ++ labelsOf more := by
  rw [labelsOf_eq, labelsOf_eq, labelsOf_eq, elementsIn_append, List.map_append]

theorem mem_labelsOf (nodes : List (Node Nat)) (e : Element Nat) (he : e ∈ elementsIn nodes) :
    e.label ∈ labelsOf nodes := by
  rw [labelsOf_eq]
  exact List.mem_map_of_mem he

theorem exists_of_mem_labelsOf (nodes : List (Node Nat)) (id : Nat) (h : id ∈ labelsOf nodes) :
    ∃ e ∈ elementsIn nodes, e.label = id := by
  rw [labelsOf_eq] at h
  exact List.mem_map.mp h

/-- A number names one element. -/
theorem eq_of_label_eq (nodes : List (Node Nat)) (hnodup : (labelsOf nodes).Nodup)
    (e x : Element Nat) (he : e ∈ elementsIn nodes) (hx : x ∈ elementsIn nodes)
    (hlabel : e.label = x.label) : e = x := by
  rw [labelsOf_eq] at hnodup
  exact List.inj_on_of_nodup_map hnodup he hx hlabel

/-- An element is not inside itself. -/
theorem label_not_mem_children (nodes : List (Node Nat)) (hnodup : (labelsOf nodes).Nodup)
    (e : Element Nat) (he : e ∈ elementsIn nodes) : e.label ∉ labelsOf e.children := by
  induction nodes using forestInduction with
  | nil => simp at he
  | leaf node rest hleaf ih =>
      rw [elementsIn_leaf node rest hleaf] at he
      rw [labelsOf_leaf node rest hleaf] at hnodup
      exact ih hnodup he
  | element label tag attributes contents children rest _ ihchildren ihrest =>
      rw [labelsOf_element, List.nodup_cons, List.mem_append, not_or] at hnodup
      rcases hnodup with ⟨⟨hlabel, -⟩, hnodup⟩
      rcases List.nodup_append.mp hnodup with ⟨hchildren, hrest, -⟩
      rw [elementsIn_element, List.mem_cons, List.mem_append] at he
      rcases he with rfl | he | he
      · exact hlabel
      · exact ihchildren hchildren he
      · exact ihrest hrest he

theorem find?_leaf (id : Nat) (node : Node Nat) (h : node.asElement? = none) :
    find? id node = none := by
  cases node with
  | element => simp [asElement?] at h
  | _ => rfl

/-- Looking up a number is a search among the elements. -/
theorem findIn?_eq (id : Nat) (nodes : List (Node Nat)) :
    findIn? id nodes = (elementsIn nodes).find? fun e => e.label = id := by
  induction nodes using forestInduction with
  | nil => rfl
  | leaf node rest h ih =>
      rw [findIn?, find?_leaf id node h, elementsIn_leaf node rest h, ih, Option.none_or]
  | element label tag attributes contents children rest _ ihchildren ihrest =>
      rw [findIn?, find?, elementsIn_element, List.find?_cons, List.find?_append, ihchildren,
        ihrest]
      by_cases hlabel : label = id
      · simp [hlabel]
      · simp [hlabel]

theorem spotsOf_leaf (parent : Option (Css.Spot ι)) (before after : List (Element ι))
    (node : Node ι) (h : node.asElement? = none) : Css.spotsOf parent before after node = [] := by
  cases node with
  | element => simp [asElement?] at h
  | _ => rfl

/-- A query goes through the elements in document order. -/
theorem spotsOfAll_elements (nodes : List (Node ι)) :
    ∀ (parent : Option (Css.Spot ι)) (before : List (Element ι)),
      (Css.spotsOfAll parent before nodes).map Css.Spot.element = elementsIn nodes := by
  induction nodes using forestInduction with
  | nil =>
      intro parent before
      rfl
  | leaf node rest h ih =>
      intro parent before
      rw [Css.spotsOfAll, spotsOf_leaf _ _ _ node h, List.nil_append, ih,
        elementsIn_leaf node rest h]
  | element label tag attributes contents children rest _ ihchildren ihrest =>
      intro parent before
      rw [Css.spotsOfAll, Css.spotsOf, List.map_append, List.map_cons, ihchildren, ihrest,
        elementsIn_element]
      rfl

theorem number_leaf {α : Type} (n : Nat) (node : Node α) (h : node.asElement? = none) :
    (number n node).2 = n ∧ labels (number n node).1 = [] := by
  cases node with
  | element => simp [asElement?] at h
  | _ => exact ⟨rfl, rfl⟩

/-- Numbers are given in document order: they grow along the elements, from
    the first number on and below the last. -/
theorem numberAll_sorted {α : Type} (nodes : List (Node α)) :
    ∀ n, n ≤ (numberAll n nodes).2 ∧ (labelsOf (numberAll n nodes).1).Pairwise (· < ·) ∧
      ∀ id ∈ labelsOf (numberAll n nodes).1, n ≤ id ∧ id < (numberAll n nodes).2 := by
  induction nodes using forestInduction with
  | nil =>
      intro n
      exact ⟨Nat.le_refl n, List.Pairwise.nil, fun id hid => absurd hid (by simp [numberAll, labelsOf])⟩
  | leaf node rest h ih =>
      intro n
      rcases number_leaf n node h with ⟨hnext, hlabels⟩
      rw [numberAll]
      dsimp only
      rw [labelsOf, hlabels, hnext, List.nil_append]
      exact ih n
  | element label tag attributes contents children rest ihcontents ihchildren ihrest =>
      intro n
      rw [numberAll, number]
      dsimp only
      -- Four stretches of numbers follow each other: the element itself, its
      -- contents, which no query sees, its children, and what is behind it.
      set inside := numberAll (n + 1) contents with hinside
      set below := numberAll inside.2 children with hbelow
      set others := numberAll below.2 rest with hothers
      rcases ihcontents (n + 1) with ⟨hle, -, -⟩
      rcases ihchildren inside.2 with ⟨hle', hsorted, hbounds⟩
      rcases ihrest below.2 with ⟨hle'', hsorted', hbounds'⟩
      rw [← hinside] at hle
      rw [← hbelow] at hle' hsorted hbounds
      rw [← hothers] at hle'' hsorted' hbounds'
      rw [labelsOf, labels, List.cons_append]
      refine ⟨by omega, List.pairwise_cons.mpr ⟨?_, ?_⟩, ?_⟩
      · intro id hid
        rcases List.mem_append.mp hid with hid | hid
        · have := hbounds id hid
          omega
        · have := hbounds' id hid
          omega
      · refine List.pairwise_append.mpr ⟨hsorted, hsorted', fun id hid id' hid' => ?_⟩
        have := hbounds id hid
        have := hbounds' id' hid'
        omega
      · intro id hid
        rcases List.mem_cons.mp hid with rfl | hid
        · omega
        · rcases List.mem_append.mp hid with hid | hid
          · have := hbounds id hid
            omega
          · have := hbounds' id hid
            omega

end Node

namespace Document

/-- Every element of a document, placed or loose, has a number of its own, and
    no number is used that is still free. -/
structure Numbered (document : Document) : Prop where
  nodup : (Node.labelsOf document.nodes ++ Node.labelsOf document.loose).Nodup
  below : ∀ id ∈ Node.labelsOf document.nodes ++ Node.labelsOf document.loose, id < document.next

/-- The numbers of the elements that have a place differ. -/
theorem Numbered.nodup_nodes {document : Document} (h : document.Numbered) :
    (Node.labelsOf document.nodes).Nodup :=
  (List.nodup_append.mp h.nodup).1

/-- Elements that are found in document order have different numbers. -/
theorem Numbered.nodup_of_sublist {document : Document} (h : document.Numbered)
    (found : List (Element Nat)) (hfound : found.Sublist (Node.elementsIn document.nodes)) :
    (found.map Element.label).Nodup := by
  have hall := h.nodup_nodes
  rw [Node.labelsOf_eq] at hall
  exact hall.sublist (hfound.map Element.label)

/-- An element that has a place is not loose. -/
theorem Numbered.not_mem_loose {document : Document} (h : document.Numbered) (id : Nat)
    (hid : id ∈ Node.labelsOf document.nodes) : id ∉ Node.labelsOf document.loose :=
  fun hloose => (List.nodup_append.mp h.nodup).2.2 id hid id hloose rfl

theorem parse_numbered (html : String) : (parse html).Numbered := by
  rcases Node.numberAll_sorted (Html.parse html.toList) 0 with ⟨-, hsorted, hbounds⟩
  have hlabels : Node.labelsOf (parse html).nodes ++ Node.labelsOf (parse html).loose =
      Node.labelsOf (Node.numberAll 0 (Html.parse html.toList)).1 := List.append_nil _
  constructor
  · rw [hlabels]
    exact hsorted.imp fun hlt => Nat.ne_of_lt hlt
  · rw [hlabels]
    exact fun id hid => (hbounds id hid).2

/-- What a query finds are elements of the document, in their order. -/
theorem matching_sublist (document : Document) (selectors : List Css.Complex) :
    (document.matching selectors).Sublist (Node.elementsIn document.nodes) := by
  rw [← Node.spotsOfAll_elements document.nodes none [], matching]
  exact List.filter_sublist.map Css.Spot.element

theorem select_sublist (document : Document) (selector : String) (found : List (Element Nat))
    (h : document.select selector = .ok found) :
    found.Sublist (Node.elementsIn document.nodes) := by
  rw [select] at h
  rcases hread : Css.readSelectors selector.toList with _ | selectors
  · rw [hread] at h
    simp at h
  · rw [hread] at h
    rw [← Except.ok.inj h]
    exact document.matching_sublist selectors

/-- A query that looks at nothing but the element finds the elements that pass. -/
theorem matching_eq_filter (document : Document) (selectors : List Css.Complex)
    (test : Element Nat → Bool)
    (h : ∀ s : Css.Spot Nat, Css.anyMatches selectors s = test s.element) :
    document.matching selectors = (Node.elementsIn document.nodes).filter test := by
  rw [matching, ← Node.spotsOfAll_elements document.nodes none [], List.filter_map]
  exact congrArg (List.map Css.Spot.element) (List.filter_congr fun s _ => h s)

/-- A name without capitals is looked for as it is, in any vocabulary. -/
theorem nameOn_of_lower (e : Element Nat) (name : String)
    (hlower : Text.lower name.toList = name.toList) : Css.nameOn e name.toList = name.toList := by
  rw [Css.nameOn, hlower, ite_self]

/-- A query for a name finds the elements of that name. -/
theorem matching_named (document : Document) (name : String)
    (hlower : Text.lower name.toList = name.toList) :
    document.matching [.compound [.named name.toList]] =
      (Node.elementsIn document.nodes).filter fun e => e.tag.name = name := by
  refine document.matching_eq_filter _ _ fun s => ?_
  simp [Css.anyMatches, Css.Complex.matches, Css.allMatch, Css.Simple.matches,
    nameOn_of_lower s.element name hlower, String.toList_inj]

theorem select_named (document : Document) (name : String)
    (hread : Css.readSelectors name.toList = some [.compound [.named name.toList]])
    (hlower : Text.lower name.toList = name.toList) :
    document.select name =
      .ok ((Node.elementsIn document.nodes).filter fun e => e.tag.name = name) := by
  rw [select, hread]
  dsimp only
  rw [matching_named document name hlower]

theorem selectFirst_named (document : Document) (name : String)
    (hread : Css.readSelectors name.toList = some [.compound [.named name.toList]])
    (hlower : Text.lower name.toList = name.toList) :
    document.selectFirst name =
      .ok ((Node.elementsIn document.nodes).find? fun e => e.tag.name = name) := by
  rw [selectFirst, select_named document name hread hlower, ← List.head?_filter]
  rfl

/-- The first element that a query finds is an element of the document. -/
theorem mem_of_selectFirst (document : Document) (selector : String) (e : Element Nat)
    (h : document.selectFirst selector = .ok (some e)) : e ∈ Node.elementsIn document.nodes := by
  rw [selectFirst] at h
  rcases hfound : document.select selector with error | found
  · rw [hfound] at h
    exact absurd h (by simp [Except.map])
  · rw [hfound] at h
    have hhead : found.head? = some e := Except.ok.inj h
    exact (document.select_sublist selector found hfound).subset (List.mem_of_head? hhead)

/-- The body is an element of this name. -/
theorem mem_of_body? (document : Document) (body : Element Nat) (h : document.body? = some body) :
    body ∈ Node.elementsIn document.nodes ∧ body.tag.name = "body" := by
  rw [body?, document.matching_named "body" (by decide)] at h
  have hmem := List.mem_filter.mp (List.mem_of_head? h)
  exact ⟨hmem.1, of_decide_eq_true hmem.2⟩

end Document

end CiteRender
