import CiteRender.Html.Scaffold
import CiteRender.Proofs.Document.Elements
import Mathlib.Tactic

/-!
# Cells Under Construction

What the operations on a tree under construction do to the cells they are not
about. A cell is looked at in two ways. As an element it has a tag and
attributes, and these hardly ever change: nodes are added behind the others,
and a second start tag may add attributes. As a node it has children, and there
every operation takes one node from one place to another, so a node that is not
the moved one is a child of exactly those it was a child of.

The finished trees have no elements but those of cells, and an element that is
reached from the document by two steps is among them.

## Main definitions

* `Html.ElementCell`: What a cell is as an element.
* `Html.Scaffold.element?`: The element of a number.

## Theorems

* `element?_add`, `element?_append`, `element?_insertBefore`, ...: Elements
  after each operation.
* `mem_children_append`, `mem_children_insertBefore`, ...: Children after each
  operation.
* `element?_of_mem_trees`: Finished elements are elements of cells.
* `exists_mem_trees`: The element two steps below the document is finished.
-/

namespace CiteRender

namespace Html

/-- A cell as an element. -/
structure ElementCell where
  tag : Tag
  attributes : List Attribute
  contents : Option Nat

/-- The attributes of an element with some of others behind them. -/
def ElementCell.withMore (cell : ElementCell) (more : List (String × String)) : ElementCell :=
  { cell with
    attributes := cell.attributes ++
      (more.filter fun a => (Attribute.find? cell.attributes a.1).isNone).map
        fun a => ⟨.plain, a.1, a.2⟩ }

/-- A kind of cell as an element, if it is one. -/
def CellKind.asElement? : CellKind → Option ElementCell
  | .element tag attributes contents => some ⟨tag, attributes, contents⟩
  | _ => none

namespace Scaffold

/-- The element of a number, if it has one. -/
def element? (nodes : Scaffold) (i : Nat) : Option ElementCell :=
  nodes[i]?.bind fun cell => cell.kind.asElement?

theorem tag_eq (nodes : Scaffold) (i : Nat) :
    nodes.tag i = ((nodes.element? i).map ElementCell.tag).getD (Tag.html "") := by
  rw [tag, element?]
  rcases nodes[i]? with _ | ⟨kind, parent, children⟩
  · rfl
  · cases kind <;> rfl

theorem contentsOrSelf_eq (nodes : Scaffold) (i : Nat) :
    nodes.contentsOrSelf i = ((nodes.element? i).bind ElementCell.contents).getD i := by
  rw [contentsOrSelf, element?]
  rcases nodes[i]? with _ | ⟨kind, parent, children⟩
  · rfl
  · rcases kind with _ | ⟨tag, attributes, _ | contents⟩ | _ | _ | _ <;> rfl

/-- A number with an element is in use. -/
theorem lt_of_element? (nodes : Scaffold) (i : Nat) (cell : ElementCell)
    (h : nodes.element? i = some cell) : i < nodes.size := by
  by_contra hi
  rw [element?, Array.getElem?_eq_none (Nat.le_of_not_lt hi)] at h
  simp at h

theorem children_size (nodes : Scaffold) : nodes.children nodes.size = [] := by
  simp [children]

/-! Changes of one cell. -/

theorem size_modify (nodes : Scaffold) (p : Nat) (f : Cell → Cell) :
    Array.size (nodes.modify p f) = Array.size nodes :=
  Array.size_modify

theorem element?_modify (nodes : Scaffold) (p i : Nat) (f : Cell → Cell)
    (hf : ∀ cell, (f cell).kind.asElement? = cell.kind.asElement?) :
    element? (nodes.modify p f) i = nodes.element? i := by
  rw [element?, element?, Array.getElem?_modify]
  split
  · rcases nodes[i]? with _ | cell
    · rfl
    · exact hf cell
  · rfl

theorem children_modify_self (nodes : Scaffold) (p : Nat) (f : Cell → Cell) (hp : p < nodes.size) :
    children (nodes.modify p f) p = (f nodes[p]).children := by
  rw [children, Array.getElem?_modify, if_pos rfl, Array.getElem?_eq_getElem hp]
  rfl

theorem children_modify_of_ne (nodes : Scaffold) (p i : Nat) (f : Cell → Cell) (hi : p ≠ i) :
    children (nodes.modify p f) i = nodes.children i := by
  rw [children, children, Array.getElem?_modify, if_neg hi]

theorem children_modify (nodes : Scaffold) (p i : Nat) (f : Cell → Cell)
    (hf : ∀ cell, (f cell).children = cell.children) :
    children (nodes.modify p f) i = nodes.children i := by
  rw [children, children, Array.getElem?_modify]
  split
  · rcases nodes[i]? with _ | cell
    · rfl
    · exact hf cell
  · rfl

/-- What a change of the children of one cell does to the place of a node. -/
theorem mem_children_modify (nodes : Scaffold) (p i x : Nat) (f : Cell → Cell)
    (hf : ∀ cell, x ∈ (f cell).children ↔ x ∈ cell.children) :
    x ∈ children (nodes.modify p f) i ↔ x ∈ nodes.children i := by
  rw [children, children, Array.getElem?_modify]
  split
  · rcases nodes[i]? with _ | cell
    · rfl
    · exact hf cell
  · rfl

/-! New cells. -/

theorem size_add (nodes : Scaffold) (kind : CellKind) :
    Array.size (nodes.add kind).1 = Array.size nodes + 1 :=
  Array.size_push _

theorem element?_add (nodes : Scaffold) (kind : CellKind) (i : Nat) :
    element? (nodes.add kind).1 i =
      if i = nodes.size then kind.asElement? else nodes.element? i := by
  rw [element?, add, Array.getElem?_push]
  split
  · rfl
  · rfl

theorem children_add (nodes : Scaffold) (kind : CellKind) (i : Nat) :
    children (nodes.add kind).1 i = nodes.children i := by
  rw [children, add, Array.getElem?_push]
  split
  · next hi =>
      rw [hi, children_size]
      rfl
  · rfl

/-! Changes of place. -/

theorem size_detach (nodes : Scaffold) (i : Nat) :
    Array.size (nodes.detach i) = Array.size nodes := by
  rw [detach]
  split
  · rfl
  · rw [size_modify, size_modify]

theorem element?_detach (nodes : Scaffold) (i j : Nat) :
    (nodes.detach i).element? j = nodes.element? j := by
  rw [detach]
  split
  · rfl
  · rw [element?_modify, element?_modify] <;> exact fun _ => rfl

/-- A node stays where it is when another is taken away. -/
theorem mem_children_detach (nodes : Scaffold) (i j x : Nat) (hx : x ≠ i) :
    x ∈ (nodes.detach i).children j ↔ x ∈ nodes.children j := by
  rw [detach]
  split
  · rfl
  · rw [children_modify, mem_children_modify]
    · exact fun cell => by simp [hx]
    · exact fun _ => rfl

theorem mem_children_of_mem_detach (nodes : Scaffold) (i j x : Nat)
    (h : x ∈ (nodes.detach i).children j) : x ∈ nodes.children j := by
  by_cases hx : x = i
  · rw [detach] at h
    split at h
    · exact h
    · next p _ =>
        rw [children_modify _ _ _ _ (by exact fun _ => rfl)] at h
        by_cases hp : p = j
        · rcases Nat.lt_or_ge j nodes.size with hlt | hge
          · rw [hp, children_modify_self _ _ _ hlt, hx] at h
            simp at h
          · rw [children, Array.getElem?_eq_none (by rwa [size_modify])] at h
            simp at h
        · rwa [children_modify_of_ne _ _ _ _ hp] at h
  · exact (mem_children_detach nodes i j x hx).mp h

theorem size_append (nodes : Scaffold) (p i : Nat) :
    Array.size (nodes.append p i) = Array.size nodes := by
  rw [append, size_modify, size_modify, size_detach]

theorem element?_append (nodes : Scaffold) (p i j : Nat) :
    (nodes.append p i).element? j = nodes.element? j := by
  rw [append, element?_modify, element?_modify, element?_detach] <;> exact fun _ => rfl

/-- A node stays where it is when another is placed. -/
theorem mem_children_append (nodes : Scaffold) (p i j x : Nat) (hx : x ≠ i) :
    x ∈ (nodes.append p i).children j ↔ x ∈ nodes.children j := by
  rw [append, children_modify, mem_children_modify, mem_children_detach nodes i j x hx]
  · exact fun cell => by simp [hx]
  · exact fun _ => rfl

/-- A node that is placed is where it was put. -/
theorem mem_children_append_self (nodes : Scaffold) (p i : Nat) (hp : p < nodes.size) :
    i ∈ (nodes.append p i).children p := by
  rw [append, children_modify, children_modify_self _ _ _ ((size_detach nodes i).symm ▸ hp)]
  · exact List.mem_append_right _ (List.mem_singleton.mpr rfl)
  · exact fun _ => rfl

/-- A node without a place that is placed is nowhere else. -/
theorem eq_of_mem_children_append (nodes : Scaffold) (p i j : Nat)
    (hi : ∀ k, i ∉ nodes.children k) (h : i ∈ (nodes.append p i).children j) : j = p := by
  by_contra hj
  refine hi j (mem_children_of_mem_detach nodes i j i ?_)
  rwa [append, children_modify _ _ _ _ (by exact fun _ => rfl),
    children_modify_of_ne _ _ _ _ (Ne.symm hj)] at h

theorem element?_insertBefore (nodes : Scaffold) (sibling i j : Nat) :
    (nodes.insertBefore sibling i).element? j = nodes.element? j := by
  rw [insertBefore]
  split
  · rw [element?_detach]
  · rw [element?_modify, element?_modify, element?_detach] <;> exact fun _ => rfl

theorem mem_putBefore (sibling i x : Nat) (hx : x ≠ i) (l : List Nat) :
    x ∈ putBefore sibling i l ↔ x ∈ l := by
  induction l with
  | nil => simp [putBefore, hx]
  | cons j l ih =>
      rw [putBefore]
      split
      · simp [hx]
      · rw [List.mem_cons, List.mem_cons, ih]

/-- A node stays where it is when another is placed before some node. -/
theorem mem_children_insertBefore (nodes : Scaffold) (sibling i j x : Nat) (hx : x ≠ i) :
    x ∈ (nodes.insertBefore sibling i).children j ↔ x ∈ nodes.children j := by
  rw [insertBefore]
  split
  · exact mem_children_detach nodes i j x hx
  · rw [children_modify, mem_children_modify, mem_children_detach nodes i j x hx]
    · exact fun cell => mem_putBefore sibling i x hx cell.children
    · exact fun _ => rfl

theorem moveChildren_induction {P : Scaffold → Prop} (nodes : Scaffold) (source target : Nat)
    (h : P nodes) (happend : ∀ nodes' i, i ∈ nodes.children source → P nodes' →
      P (nodes'.append target i)) : P (nodes.moveChildren source target) := by
  rw [moveChildren]
  exact List.foldlRecOn _ _ h fun nodes' hnodes' i hi => happend nodes' i hi hnodes'

/-! Texts and attributes. -/

theorem size_extendText (nodes : Scaffold) (i : Nat) (s : List Char) :
    Array.size (nodes.extendText i s) = Array.size nodes :=
  size_modify _ _ _

theorem element?_extendText (nodes : Scaffold) (i j : Nat) (s : List Char) :
    (nodes.extendText i s).element? j = nodes.element? j :=
  element?_modify _ _ _ _ fun cell => by
    rcases cell with ⟨kind, parent, children⟩
    cases kind <;> rfl

theorem children_extendText (nodes : Scaffold) (i j : Nat) (s : List Char) :
    (nodes.extendText i s).children j = nodes.children j :=
  children_modify _ _ _ _ fun cell => by
    rcases cell with ⟨kind, parent, children⟩
    cases kind <;> rfl

theorem children_addAttributes (nodes : Scaffold) (i j : Nat) (more : List (String × String)) :
    (nodes.addAttributes i more).children j = nodes.children j :=
  children_modify _ _ _ _ fun cell => by
    rcases cell with ⟨kind, parent, children⟩
    cases kind <;> rfl

theorem element?_addAttributes (nodes : Scaffold) (i j : Nat) (more : List (String × String)) :
    (nodes.addAttributes i more).element? j =
      if i = j then (nodes.element? j).map fun cell => cell.withMore more
      else nodes.element? j := by
  rw [element?, element?, addAttributes, Array.getElem?_modify]
  split
  · rcases nodes[j]? with _ | ⟨kind, parent, children⟩
    · rfl
    · cases kind <;> rfl
  · rfl

/-! Finished trees. -/

/-- Finished elements are elements of cells. -/
theorem element?_of_mem_treesWith (nodes : Scaffold) (fuel : Nat) :
    ∀ (i : Nat) (e : Element Unit), e ∈ Node.elementsIn (nodes.treesWith fuel i) →
      ∃ j contents, nodes.element? j = some ⟨e.tag, e.attributes, contents⟩ := by
  induction fuel with
  | zero =>
      intro i e he
      simp [treesWith] at he
  | succ fuel ih =>
      intro i e he
      rw [treesWith] at he
      generalize nodes.children i = childs at he
      induction childs with
      | nil => simp at he
      | cons child childs ihchilds =>
          rw [List.filterMap_cons] at he
          rcases hcell : nodes[child]? with _ | ⟨kind, parent, children⟩
          · rw [hcell] at he
            exact ihchilds he
          · rw [hcell] at he
            dsimp only [Option.bind_some] at he
            cases kind with
            | root => exact ihchilds he
            | text pieces => exact ihchilds (by rwa [Node.elementsIn_leaf _ _ rfl] at he)
            | comment s => exact ihchilds (by rwa [Node.elementsIn_leaf _ _ rfl] at he)
            | doctype name => exact ihchilds (by rwa [Node.elementsIn_leaf _ _ rfl] at he)
            -- Only here is there an element, which is the cell itself or one of those below it.
            | element tag attributes contents =>
                rw [Node.elementsIn_element, List.mem_cons, List.mem_append] at he
                rcases he with rfl | he | he
                · exact ⟨child, contents, by rw [element?, hcell]; rfl⟩
                · exact ih child e he
                · exact ihchilds he

theorem element?_of_mem_trees (nodes : Scaffold) (e : Element Unit)
    (he : e ∈ Node.elementsIn nodes.trees) :
    ∃ j contents, nodes.element? j = some ⟨e.tag, e.attributes, contents⟩ :=
  nodes.element?_of_mem_treesWith _ _ e he

/-- The tree of a child that is an element. -/
theorem mem_treesWith_of_child (nodes : Scaffold) (fuel i child : Nat) (cell : ElementCell)
    (hchild : child ∈ nodes.children i) (hcell : nodes.element? child = some cell) :
    ∃ inside, Node.element () cell.tag cell.attributes inside (nodes.treesWith fuel child) ∈
      nodes.treesWith (fuel + 1) i := by
  rcases hnode : nodes[child]? with _ | ⟨kind, parent, children⟩
  · rw [element?, hnode] at hcell
    simp at hcell
  · cases kind with
    | element tag attributes contents =>
        rw [element?, hnode] at hcell
        rcases Option.some.inj hcell with rfl
        refine ⟨(contents.map (nodes.treesWith fuel)).getD [], ?_⟩
        rw [treesWith, List.mem_filterMap]
        exact ⟨child, hchild, by rw [hnode]; rfl⟩
    | _ =>
        rw [element?, hnode] at hcell
        exact absurd hcell (by simp [CellKind.asElement?])

/-- The element two steps below the document is finished. -/
theorem exists_mem_trees (nodes : Scaffold) (outer inner : Nat) (outerCell cell : ElementCell)
    (houter : outer ∈ nodes.children 0) (houterCell : nodes.element? outer = some outerCell)
    (hinner : inner ∈ nodes.children outer) (hcell : nodes.element? inner = some cell) :
    ∃ e ∈ Node.elementsIn nodes.trees, e.tag = cell.tag ∧ e.attributes = cell.attributes := by
  have hsize : 0 < Array.size nodes := Nat.zero_lt_of_lt (nodes.lt_of_element? _ _ hcell)
  rcases Nat.exists_eq_add_one.mpr hsize with ⟨size, hsize⟩
  rw [trees, hsize]
  rcases nodes.mem_treesWith_of_child (size + 1) 0 outer outerCell houter houterCell with
    ⟨inside, hmem⟩
  rcases nodes.mem_treesWith_of_child size outer inner cell hinner hcell with ⟨inside', hmem'⟩
  refine ⟨⟨(), cell.tag, cell.attributes, inside', nodes.treesWith size inner⟩,
    Node.mem_elementsIn_of_mem _ _ hmem _ ?_, rfl, rfl⟩
  rw [Node.elementsIn_element, List.mem_cons, List.mem_append]
  refine Or.inr (Or.inl (Node.mem_elementsIn_of_mem _ _ hmem' _ ?_))
  rw [Node.elementsIn_element]
  exact List.mem_cons_self

end Scaffold

end Html

end CiteRender
