import CiteRender.Proofs.Document.Edits
import Mathlib.Data.List.Pairwise
import Mathlib.Logic.Relation

/-!
# Parents and Children

A document as a set of rows. What stands in an element is a row of children, in which other
elements show as numbers only, and so a move changes the row that an element leaves and the
one that it enters, and no other. A tree shows in this view as what one has to ask of rows:
that a number stands in one row and there once, and that no way down leads back.

Texts, comments and doctypes have no number. They are no more than the places where they
stand, so none of them is in two rows.

That all this holds is one fact about numbers, which is that they differ. Every element of
some trees is one of their roots or a child of one of their elements, each counted once, so
where the numbers of all elements differ the rows share none.

## Main definitions

* `Child`, `Node.row`: What stands in a row.
* `Document.HasRow`, `Document.IsParent`: Rows with the elements that they belong to.
* `Document.Holds`: An element is another or holds it.
* `Document.IsTree`: The parents of a document make it a tree.

## Theorems

* `Node.labelsOf_perm_rows`: Every element is in one row.
* `Document.Numbered.holds_iff`: What is below an element is what it holds.
* `Document.Numbered.isTree`: A numbered document is a tree.
-/

namespace CiteRender

/-- What stands among the children of an element: another element, by its number, or a node
    that has none. -/
inductive Child where
  | element (id : Nat)
  | text (s : String)
  | comment (s : String)
  | doctype (name : String)
  deriving DecidableEq

/-- The number of a child that is an element. -/
def Child.label? : Child → Option Nat
  | element id => some id
  | _ => none

namespace Node

/-- How a node shows in a row. -/
def child : Node Nat → Child
  | .text s => .text s
  | .comment s => .comment s
  | .doctype name => .doctype name
  | .element label _ _ _ _ => .element label

/-- The row of some nodes. -/
def row (nodes : List (Node Nat)) : List Child :=
  nodes.map child

/-- The numbers of the elements in a row of nodes. -/
def rootsOf (nodes : List (Node Nat)) : List Nat :=
  (row nodes).filterMap Child.label?

theorem rootsOf_leaf (node : Node Nat) (rest : List (Node Nat)) (h : node.asElement? = none) :
    rootsOf (node :: rest) = rootsOf rest := by
  cases node with
  | element => simp [asElement?] at h
  | _ => rfl

theorem rootsOf_element (label : Nat) (tag : Tag) (attributes : List Attribute)
    (contents children rest : List (Node Nat)) :
    rootsOf (.element label tag attributes contents children :: rest) = label :: rootsOf rest := rfl

theorem rootsOf_append (nodes more : List (Node Nat)) :
    rootsOf (nodes ++ more) = rootsOf nodes ++ rootsOf more := by
  rw [rootsOf, row, List.map_append, List.filterMap_append]
  rfl

theorem mem_row_iff (nodes : List (Node Nat)) (id : Nat) :
    Child.element id ∈ row nodes ↔ id ∈ rootsOf nodes := by
  rw [rootsOf, List.mem_filterMap]
  constructor
  · exact fun h => ⟨_, h, rfl⟩
  · rintro ⟨c, hc, hid⟩
    cases c with
    | element => exact Option.some.inj hid ▸ hc
    | _ => exact absurd hid (by simp [Child.label?])

theorem count_row (nodes : List (Node Nat)) (id : Nat) :
    (row nodes).count (.element id) = (rootsOf nodes).count id := by
  induction nodes with
  | nil => rfl
  | cons node nodes ih =>
      rw [row, List.map_cons]
      cases node with
      | element label =>
          rw [rootsOf_element, List.count_cons, List.count_cons, ← ih]
          simp [child, row]
      | _ =>
          rw [rootsOf_leaf _ nodes rfl, ← ih, List.count_cons_of_ne (by simp [child]), row]

/-- Every element of some trees is one of their roots or a child of one of their elements, and
    is so once. -/
theorem labelsOf_perm_rows (nodes : List (Node Nat)) :
    (labelsOf nodes).Perm
      (rootsOf nodes ++ (elementsIn nodes).flatMap fun e => rootsOf e.children) := by
  induction nodes using forestInduction with
  | nil => exact .refl _
  | leaf node rest hleaf ih =>
      rw [labelsOf_leaf node rest hleaf, rootsOf_leaf node rest hleaf,
        elementsIn_leaf node rest hleaf]
      exact ih
  | element label tag attributes contents children rest _ ihchildren ihrest =>
      rw [labelsOf_element, elementsIn_element, rootsOf_element, List.flatMap_cons,
        List.flatMap_append, List.cons_append]
      -- The first root is counted as such, and its children by the row that it has.
      refine List.Perm.cons label (List.perm_iff_count.mpr fun id => ?_)
      have hchildren := List.perm_iff_count.mp ihchildren id
      have hrest := List.perm_iff_count.mp ihrest id
      simp only [List.count_append] at hchildren hrest ⊢
      omega

theorem mem_labelsOf_of_root (nodes : List (Node Nat)) (id : Nat) (h : id ∈ rootsOf nodes) :
    id ∈ labelsOf nodes :=
  (labelsOf_perm_rows nodes).mem_iff.mpr (List.mem_append_left _ h)

end Node

namespace Document

open Node

/-- The rows of a document: its own, and that of each element. -/
def HasRow (document : Document) : Option Nat → List Child → Prop
  | none, r => row document.nodes = r
  | some id, r => ∃ e ∈ elementsIn document.trees, e.label = id ∧ row e.children = r

/-- An element is a child of another, or of the document itself. -/
def IsParent (document : Document) (parent : Option Nat) (child : Nat) : Prop :=
  ∃ r, document.HasRow parent r ∧ Child.element child ∈ r

/-- A way down from one element to another, of one step or more. -/
def Holds (document : Document) : Nat → Nat → Prop :=
  Relation.TransGen fun parent child => document.IsParent (some parent) child

/-- The parents of a document make it a tree. -/
structure IsTree (document : Document) : Prop where
  /-- a number names one element -/
  row_unique : ∀ p r r', document.HasRow p r → document.HasRow p r' → r = r'
  /-- an element has at most one parent -/
  parent_unique : ∀ p q id, document.IsParent p id → document.IsParent q id → p = q
  /-- an element stands once among the children of its parent -/
  once : ∀ p r id, document.HasRow p r → Child.element id ∈ r → r.count (.element id) = 1
  /-- an element without a place has no parent, and is there once -/
  loose : ∀ id, Child.element id ∈ row document.loose →
    (row document.loose).count (.element id) = 1 ∧ ∀ p, ¬ document.IsParent p id
  /-- no element is its own ancestor -/
  acyclic : ∀ id, ¬ document.Holds id id

theorem isParent_none_iff (document : Document) (id : Nat) :
    document.IsParent none id ↔ id ∈ rootsOf document.nodes := by
  rw [← mem_row_iff]
  exact ⟨fun ⟨_, hr, hid⟩ => hr ▸ hid, fun hid => ⟨_, rfl, hid⟩⟩

theorem isParent_some_iff (document : Document) (parent id : Nat) :
    document.IsParent (some parent) id ↔
      ∃ e ∈ elementsIn document.trees, e.label = parent ∧ id ∈ rootsOf e.children := by
  constructor
  · rintro ⟨r, ⟨e, he, hlabel, rfl⟩, hid⟩
    exact ⟨e, he, hlabel, (mem_row_iff e.children id).mp hid⟩
  · rintro ⟨e, he, hlabel, hid⟩
    exact ⟨row e.children, ⟨e, he, hlabel, rfl⟩, (mem_row_iff e.children id).mpr hid⟩

/-- What begins below an element goes on below it. -/
theorem holds_of_mem (document : Document) (nodes : List (Node Nat))
    (hnodes : ∀ x ∈ elementsIn nodes, x ∈ elementsIn document.trees) :
    ∀ outer, (∀ id ∈ rootsOf nodes, document.IsParent (some outer) id) →
      ∀ id ∈ labelsOf nodes, document.Holds outer id := by
  induction nodes using forestInduction with
  | nil => exact fun _ _ id hid => absurd hid List.not_mem_nil
  | leaf node rest hleaf ih =>
      rw [elementsIn_leaf node rest hleaf] at hnodes
      rw [rootsOf_leaf node rest hleaf, labelsOf_leaf node rest hleaf]
      exact ih hnodes
  | element label tag attributes contents children rest _ ihchildren ihrest =>
      rw [elementsIn_element, List.forall_mem_cons, List.forall_mem_append] at hnodes
      intro outer hroots id hid
      rw [rootsOf_element, List.forall_mem_cons] at hroots
      rw [labelsOf_element, List.mem_cons, List.mem_append] at hid
      rcases hid with rfl | hid | hid
      · exact .single hroots.1
      · -- The way goes down to this child first, and on from there.
        refine .head hroots.1 (ihchildren hnodes.2.1 label (fun root hroot => ?_) id hid)
        exact (isParent_some_iff document label root).mpr ⟨_, hnodes.1, rfl, hroot⟩
      · exact ihrest hnodes.2.2 outer hroots.2 id hid

/-- What holds another is an element of the document. -/
theorem exists_of_holds (document : Document) (outer inner : Nat)
    (hholds : document.Holds outer inner) : ∃ e ∈ elementsIn document.trees, e.label = outer := by
  rcases Relation.TransGen.head'_iff.mp hholds with ⟨_, hstep, -⟩
  rcases (isParent_some_iff document outer _).mp hstep with ⟨e, he, hlabel, -⟩
  exact ⟨e, he, hlabel⟩

section Numbered

variable {document : Document} (h : document.Numbered)

include h

/-- No number is in two rows of a numbered document, or twice in one. -/
theorem Numbered.rows_nodup :
    (rootsOf document.nodes ++ rootsOf document.loose ++
      (elementsIn document.trees).flatMap fun e => rootsOf e.children).Nodup := by
  rw [← rootsOf_append]
  exact (labelsOf_perm_rows document.trees).nodup_iff.mp h.nodup_trees

/-- A root is a child of no element. -/
theorem Numbered.root_not_mem (id : Nat)
    (hid : id ∈ rootsOf document.nodes ++ rootsOf document.loose) (e : Element Nat)
    (he : e ∈ elementsIn document.trees) : id ∉ rootsOf e.children := fun hchild =>
  (List.nodup_append.mp h.rows_nodup).2.2 id hid id (List.mem_flatMap.mpr ⟨e, he, hchild⟩) rfl

/-- An element is a child of one element. -/
theorem Numbered.eq_of_mem_rootsOf (id : Nat) (e x : Element Nat)
    (he : e ∈ elementsIn document.trees) (hx : x ∈ elementsIn document.trees)
    (hide : id ∈ rootsOf e.children) (hidx : id ∈ rootsOf x.children) : e = x := by
  by_contra hne
  have hrows := (List.nodup_flatMap.mp (List.nodup_append.mp h.rows_nodup).2.1).2
  have : Std.Symm (Function.onFun List.Disjoint fun e : Element Nat => rootsOf e.children) :=
    ⟨fun _ _ hapart _ hx he => hapart he hx⟩
  exact hrows.forall he hx hne hide hidx

/-- What an element holds is what is in it. -/
theorem Numbered.holds_iff (e : Element Nat) (he : e ∈ elementsIn document.trees) (id : Nat) :
    document.Holds e.label id ↔ id ∈ labelsOf e.children := by
  constructor
  · intro hholds
    induction hholds with
    | single hstep =>
        rcases (isParent_some_iff document _ _).mp hstep with ⟨x, hx, hlabel, hid⟩
        rw [eq_of_mem_trees document h x e hx he hlabel] at hid
        exact mem_labelsOf_of_root e.children _ hid
    | tail _ hstep ih =>
        -- The last step is made from an element inside, whose children are inside as well.
        rcases exists_of_mem_labelsOf _ _ ih with ⟨y, hy, rfl⟩
        rcases (isParent_some_iff document _ _).mp hstep with ⟨x, hx, hlabel, hid⟩
        have hy' := mem_elementsIn_of_mem_children document.trees e y he hy
        rw [eq_of_mem_trees document h x y hx hy' hlabel] at hid
        have hinside := mem_labelsOf_of_root y.children _ hid
        rcases exists_of_mem_labelsOf _ _ hinside with ⟨z, hz, rfl⟩
        exact mem_labelsOf _ z (mem_elementsIn_of_mem_children e.children y z hy hz)
  · refine holds_of_mem document e.children
      (fun x hx => mem_elementsIn_of_mem_children _ e x he hx) e.label (fun root hroot => ?_) id
    exact (isParent_some_iff document e.label root).mpr ⟨e, he, rfl, hroot⟩

/-- What an element holds can be looked up. -/
theorem Numbered.holds_iff_element? (outer inner : Nat) :
    document.Holds outer inner ↔
      (document.element? outer).any (fun e => (labelsOf e.children).contains inner) = true := by
  rw [Option.any_eq_true]
  constructor
  · intro hholds
    rcases exists_of_holds document outer inner hholds with ⟨e, he, rfl⟩
    exact ⟨e, element?_of_mem document h e he,
      List.contains_iff_mem.mpr ((h.holds_iff e he inner).mp hholds)⟩
  · rintro ⟨e, hfound, hinner⟩
    rcases mem_of_element? document outer e hfound with ⟨he, rfl⟩
    exact (h.holds_iff e he inner).mpr (List.contains_iff_mem.mp hinner)

/-- The parents of a numbered document make it a tree. -/
theorem Numbered.isTree : document.IsTree := by
  -- All that is asked of rows follows from one list without duplicates: the roots and all rows.
  have hrows := List.nodup_append.mp h.rows_nodup
  have hroots := List.nodup_append.mp hrows.1
  refine {
    row_unique := ?row_unique, parent_unique := ?parent_unique, once := ?once, loose := ?loose,
    acyclic := ?acyclic }
  case row_unique =>
    rintro (_ | p) r r' hr hr'
    · exact hr.symm.trans hr'
    · rcases hr with ⟨e, he, hlabel, rfl⟩
      rcases hr' with ⟨x, hx, rfl, rfl⟩
      rw [eq_of_mem_trees document h e x he hx hlabel]
  case parent_unique =>
    rintro (_ | p) (_ | q) id hp hq
    · rfl
    · rcases (isParent_some_iff document q id).mp hq with ⟨e, he, -, hid⟩
      exact absurd hid (h.root_not_mem id
        (List.mem_append_left _ ((isParent_none_iff document id).mp hp)) e he)
    · rcases (isParent_some_iff document p id).mp hp with ⟨e, he, -, hid⟩
      exact absurd hid (h.root_not_mem id
        (List.mem_append_left _ ((isParent_none_iff document id).mp hq)) e he)
    · rcases (isParent_some_iff document p id).mp hp with ⟨e, he, rfl, hide⟩
      rcases (isParent_some_iff document q id).mp hq with ⟨x, hx, rfl, hidx⟩
      rw [h.eq_of_mem_rootsOf id e x he hx hide hidx]
  case once =>
    rintro (_ | p) r id hr hid
    · rcases hr with rfl
      rw [count_row]
      exact List.count_eq_one_of_mem hroots.1 ((mem_row_iff _ id).mp hid)
    · rcases hr with ⟨e, he, -, rfl⟩
      rw [count_row]
      exact List.count_eq_one_of_mem ((List.nodup_flatMap.mp hrows.2.1).1 e he)
        ((mem_row_iff _ id).mp hid)
  case loose =>
    intro id hid
    rw [mem_row_iff] at hid
    rw [count_row]
    refine ⟨List.count_eq_one_of_mem hroots.2.1 hid, ?_⟩
    rintro (_ | p) hp
    · exact hroots.2.2 id ((isParent_none_iff document id).mp hp) id hid rfl
    · rcases (isParent_some_iff document p id).mp hp with ⟨e, he, -, hchild⟩
      exact h.root_not_mem id (List.mem_append_right _ hid) e he hchild
  case acyclic =>
    intro id hholds
    -- What an element holds is below it, and its own number is not among those.
    rcases exists_of_holds document id id hholds with ⟨e, he, rfl⟩
    exact label_not_mem_children _ h.nodup_trees e he
      ((h.holds_iff e he e.label).mp hholds)

end Numbered

end Document

end CiteRender
