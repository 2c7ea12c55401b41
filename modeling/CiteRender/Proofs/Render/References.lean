import CiteRender.Proofs.Document.Edits
import CiteRender.Render.Citations

/-!
# The List of References

What is appended to a bibliography placeholder. The list is built beside the
document, one item for each cited key, and put into its place when it is
complete. So while it grows the document itself stays as it is, and only the
last step touches the placeholder.

The parser is asked what the tags of a list and of an item give, once for each.
That they give bare elements is the one fact about parsing that is needed.

## Main definitions

* `listItem`, `listItems`: The items of some keys.
* `referenceList`: The list of the cited keys.
* `withReferences`: The document with this list in its place.

## Theorems

* `appendItem_holding`, `appendItems_holding`: One item, and all of them.
* `appendReferences_eq`: A placeholder gets the list of the cited keys.
* `fillBibliography_cases`, `fillBibliography_error`, `fillBibliography_ok`: What filling the
  bibliography does.
-/

namespace CiteRender

open Node Document

/-- The item of a key, under a number. -/
def listItem (ledger : Ledger) (id : Nat) (key : String) : Element Nat :=
  (Element.bare id "li").withChildren [.text (lineText (bibliographyLine (ledger.entry key)))]

/-- The items of some keys, under successive numbers. -/
def listItems (ledger : Ledger) : Nat → List String → List (Element Nat)
  | _, [] => []
  | id, key :: keys => listItem ledger id key :: listItems ledger (id + 1) keys

/-- The list of references of a ledger, under a number. -/
def referenceList (ledger : Ledger) (id : Nat) : Element Nat :=
  (Element.bare id "ol").withChildren
    ((listItems ledger (id + 1) ledger.cited).map Element.node)

theorem parsedElement_ol : (parsedElement? "ol").any (Element.isBare "ol") = true := by
  decide +kernel

theorem parsedElement_li : (parsedElement? "li").any (Element.isBare "li") = true := by
  decide +kernel

theorem createElement_ol (document : Document) :
    document.createElement "ol" = .ok (document.withBare "ol", document.next) :=
  createElement_bare document "ol" (by decide) parsedElement_ol

theorem createElement_li (document : Document) :
    document.createElement "li" = .ok (document.withBare "li", document.next) :=
  createElement_bare document "li" (by decide) parsedElement_li

theorem length_listItems (ledger : Ledger) (id : Nat) (keys : List String) :
    (listItems ledger id keys).length = keys.length := by
  induction keys generalizing id with
  | nil => rfl
  | cons key keys ih => rw [listItems, List.length_cons, List.length_cons, ih]

theorem getElem?_listItems (ledger : Ledger) (id : Nat) (keys : List String) (n : Nat) :
    (listItems ledger id keys)[n]? = keys[n]?.map (listItem ledger (id + n)) := by
  induction keys generalizing id n with
  | nil => rfl
  | cons key keys ih =>
      cases n with
      | zero => rfl
      | succ n => rw [listItems, List.getElem?_cons_succ, List.getElem?_cons_succ, ih,
          show id + 1 + n = id + (n + 1) by omega]

/-- The elements in a list of references are items. -/
theorem tag_of_mem_listItems (ledger : Ledger) (id : Nat) (keys : List String) (e : Element Nat)
    (he : e ∈ elementsIn ((listItems ledger id keys).map Element.node)) :
    e.tag = Tag.html "li" := by
  induction keys generalizing id with
  | nil => simp [listItems] at he
  | cons key keys ih =>
      rw [listItems, List.map_cons, Element.node, elementsIn_element] at he
      rcases List.mem_cons.mp he with rfl | he
      · rfl
      · -- An item has only a text in it.
        exact ih (id + 1) he

theorem tag_of_mem_referenceList (ledger : Ledger) (id : Nat) (e : Element Nat)
    (he : e ∈ elementsIn [(referenceList ledger id).node]) :
    e.tag = Tag.html "ol" ∨ e.tag = Tag.html "li" := by
  rw [Element.node, elementsIn_element, List.mem_cons, elementsIn_nil, List.append_nil] at he
  rcases he with rfl | he
  · exact Or.inl rfl
  · exact Or.inr (tag_of_mem_listItems ledger (id + 1) ledger.cited e he)

/-- A list that is held with one more item, under the next number. -/
def withItem (ledger : Ledger) (document : Document) (list : Element Nat) (key : String) :
    Document :=
  { document with next := document.next + 1 }.holding
    (list.withChildren (list.children ++ [(listItem ledger document.next key).node]))

/-- Appending an item to a list that is held. -/
theorem appendItem_holding (ledger : Ledger) (document : Document) (list : Element Nat)
    (h : (document.holding list).Numbered) (key : String) :
    appendItem ledger list.label (document.holding list) key =
        .ok (withItem ledger document list key) ∧
      (withItem ledger document list key).Numbered := by
  let around := { document with next := document.next + 1 }.holding list
  let item := listItem ledger document.next key
  have hbare : (around.holding (Element.bare document.next "li")).Numbered :=
    withBare_numbered (document.holding list) h "li"
  -- The new element gets its text while it is held beside the list.
  have htext : (around.holding (Element.bare document.next "li")).setText document.next
      (lineText (bibliographyLine (ledger.entry key))) = around.holding item :=
    setText_holding around (Element.bare document.next "li") hbare rfl _
  have hitem : (around.holding item).Numbered := by
    rw [← htext]
    exact setText_numbered _ hbare _ _
  -- Then it goes into the list, which is among the other trees.
  have hlist : list.label ∈ labelsOf around.trees := mem_labelsOf _ list (mem_trees_holding _ list)
  have hmoved : (around.holding item).appendChild list.label item.label =
      withItem ledger document list key := by
    rw [appendChild_holding around item hitem list.label hlist]
    exact update_holding _ list (numbered_of_holding around item hitem) _
  constructor
  · rw [appendItem, createElement_li]
    show Except.ok (((around.holding (Element.bare document.next "li")).setText document.next
      (lineText (bibliographyLine (ledger.entry key)))).appendChild list.label document.next) = _
    rw [htext]
    exact congrArg Except.ok hmoved
  · rw [← hmoved]
    exact appendChild_numbered around item hitem list.label hlist

/-- Appending the items of some keys to a list that is held. -/
theorem appendItems_holding (ledger : Ledger) (keys : List String) :
    ∀ (document : Document) (list : Element Nat), (document.holding list).Numbered →
      let grown := { document with next := document.next + keys.length }.holding
        (list.withChildren
          (list.children ++ (listItems ledger document.next keys).map Element.node))
      keys.foldlM (appendItem ledger list.label) (document.holding list) = .ok grown ∧
        grown.Numbered := by
  induction keys with
  | nil =>
      intro document list h
      rw [listItems, List.map_nil, List.append_nil]
      exact ⟨rfl, h⟩
  | cons key keys ih =>
      intro document list h
      rcases appendItem_holding ledger document list h key with ⟨hfirst, hnumbered⟩
      -- The first item is in the list before the others are made.
      have hrest := ih { document with next := document.next + 1 }
        (list.withChildren (list.children ++ [(listItem ledger document.next key).node])) hnumbered
      rw [List.foldlM_cons, hfirst]
      dsimp only [Element.withChildren, List.length_cons, listItems, List.map_cons] at hrest ⊢
      rw [List.append_assoc, List.singleton_append, Nat.add_assoc, Nat.add_comm 1] at hrest
      exact hrest

/-- The document with the list of references at the end of a placeholder. -/
def withReferences (ledger : Ledger) (document : Document) (placeholder : Nat) : Document :=
  { document with next := document.next + 1 + ledger.cited.length }.update placeholder fun e =>
    e.withChildren (e.children ++ [(referenceList ledger document.next).node])

/-- A placeholder of the document gets the list of the cited keys. -/
theorem appendReferences_eq (ledger : Ledger) (document : Document) (h : document.Numbered)
    (placeholder : Nat) (hmem : placeholder ∈ labelsOf document.trees) :
    appendReferences ledger document placeholder =
        .ok (withReferences ledger document placeholder) ∧
      (withReferences ledger document placeholder).Numbered := by
  let around := { document with next := document.next + 1 + ledger.cited.length }
  let list := referenceList ledger document.next
  -- The list is complete before it gets its place.
  rcases appendItems_holding ledger ledger.cited { document with next := document.next + 1 }
    (Element.bare document.next "ol") (withBare_numbered document h "ol") with ⟨hitems, hlist⟩
  have hmoved : (around.holding list).appendChild placeholder list.label =
      withReferences ledger document placeholder :=
    appendChild_holding around list hlist placeholder hmem
  constructor
  · rw [appendReferences, createElement_ol]
    show (ledger.cited.foldlM (appendItem ledger document.next) (document.withBare "ol")).map
      (fun document' => document'.appendChild placeholder document.next) = _
    have hitems' : ledger.cited.foldlM (appendItem ledger document.next)
        (document.withBare "ol") = .ok (around.holding list) := hitems
    rw [hitems']
    exact congrArg Except.ok hmoved
  · rw [← hmoved]
    exact appendChild_numbered around list hlist placeholder hmem

/-- A placeholder has the list behind what it had in it. -/
theorem mem_withReferences_self (ledger : Ledger) (document : Document) (h : document.Numbered)
    (e : Element Nat) (he : e ∈ elementsIn document.trees) :
    e.withChildren (e.children ++ [(referenceList ledger document.next).node]) ∈
      elementsIn (withReferences ledger document e.label).trees := by
  rw [withReferences, trees_update]
  exact mem_updateIn _ h.nodup_trees e he fun e =>
    e.withChildren (e.children ++ [(referenceList ledger document.next).node])

/-- Another element that has only a text in it stays as it is. -/
theorem mem_withReferences_other (ledger : Ledger) (document : Document) (placeholder : Nat)
    (e : Element Nat) (he : e ∈ elementsIn document.trees) (hne : e.label ≠ placeholder)
    (text : String) (htext : e.children = [.text text]) :
    e ∈ elementsIn (withReferences ledger document placeholder).trees := by
  rw [withReferences, trees_update]
  refine mem_updateIn_other _ _ _ (fun x y hy => ?_) e he hne ?_
  · rw [Element.withChildren, elementsIn_append]
    exact List.mem_append_left _ hy
  · rw [htext, updateIn_text]

/-- What filling the bibliography does. It fails only if its selector does. -/
theorem fillBibliography_cases (config : Config) (ledger : Ledger) (document : Document)
    (h : document.Numbered) :
    (∃ error, document.selectFirst config.bibliographyTag = .error error ∧
      fillBibliography config ledger document = .error error) ∨
    (document.selectFirst config.bibliographyTag = .ok none ∧
      fillBibliography config ledger document = .ok document) ∨
    ∃ placeholder, document.selectFirst config.bibliographyTag = .ok (some placeholder) ∧
      fillBibliography config ledger document =
        .ok (withReferences ledger document placeholder.label) ∧
      (withReferences ledger document placeholder.label).Numbered := by
  rw [fillBibliography]
  rcases hfound : document.selectFirst config.bibliographyTag with error | _ | placeholder
  · exact Or.inl ⟨error, rfl, rfl⟩
  · exact Or.inr (Or.inl ⟨rfl, rfl⟩)
  · have hmem : placeholder.label ∈ labelsOf document.trees :=
      mem_labelsOf _ _ (document.mem_trees placeholder (document.mem_of_selectFirst _ _ hfound))
    rcases appendReferences_eq ledger document h placeholder.label hmem with ⟨hfilled, hnumbered⟩
    dsimp only [Except.bind]
    exact Or.inr (Or.inr ⟨placeholder, rfl, hfilled, hnumbered⟩)

/-- Filling the bibliography fails over its selector and over nothing else. -/
theorem fillBibliography_error (config : Config) (ledger : Ledger) (document : Document)
    (h : document.Numbered) (error : DocumentError)
    (hfailed : fillBibliography config ledger document = .error error) :
    document.selectFirst config.bibliographyTag = .error error := by
  rcases fillBibliography_cases config ledger document h with
    ⟨failed, hfirst, hfill⟩ | ⟨-, hfill⟩ | ⟨placeholder, -, hfill, -⟩
  · rw [hfirst, Except.error.inj (hfill.symm.trans hfailed)]
  · exact absurd (hfill.symm.trans hfailed) (by simp)
  · exact absurd (hfill.symm.trans hfailed) (by simp)

/-- What filling the bibliography leaves if it does not fail. -/
theorem fillBibliography_ok (config : Config) (ledger : Ledger) (document filled : Document)
    (h : document.Numbered) (hfilled : fillBibliography config ledger document = .ok filled) :
    filled.Numbered ∧
      ((document.selectFirst config.bibliographyTag = .ok none ∧ filled = document) ∨
        ∃ placeholder, document.selectFirst config.bibliographyTag = .ok (some placeholder) ∧
          filled = withReferences ledger document placeholder.label) := by
  rcases fillBibliography_cases config ledger document h with
    ⟨error, -, hfill⟩ | ⟨hnone, hfill⟩ | ⟨placeholder, hfound, hfill, hnumbered⟩
  · exact absurd (hfill.symm.trans hfilled) (by simp)
  · obtain rfl := Except.ok.inj (hfill.symm.trans hfilled)
    exact ⟨h, Or.inl ⟨hnone, rfl⟩⟩
  · obtain rfl := Except.ok.inj (hfill.symm.trans hfilled)
    exact ⟨hnumbered, Or.inr ⟨placeholder, hfound, rfl⟩⟩

end CiteRender
