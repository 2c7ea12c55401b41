import CiteRender.Proofs.Document.Creation
import CiteRender.Proofs.Document.Moves

/-!
# Histories of Edits

A document after any number of edits since it was parsed. An edit may name an element that is
in the document or one that is loose, one that was created or one that lost its place, and may
move it to where it already is. What it must not do is move an element into itself or into
what is below it.

The invariant of a history is that the document is numbered. One step keeps it, case by case,
and it makes the document a tree after every step. What a step changes is said of all rows at
once, so that what it leaves alone is said as well: rows go on as they were, texts in them
included, and no element that was known is lost.

## Main definitions

* `Edit`, `Document.edited`: The edits, and what they do.
* `Edit.Permitted`: The edits that no element forbids.
* `Edit.rowAfter`: What an edit makes of a row.
* `Document.Reached`: The documents that a history leads to.
* `IsMoved`: An element has been moved.

## Theorems

* `edited_numbered`, `reached_numbered`: The invariant, for one step and for a history.
* `edited_hasRow`: The rows after an edit.
* `reached_isTree`: Documents stay trees, and edits do what they say.
-/

namespace CiteRender

open Node

/-- An edit of a document. Elements are named by their numbers. -/
inductive Edit where
  | create (tag : String)
  | setText (id : Nat) (text : String)
  | append (id child : Nat)
  | prepend (id child : Nat)
  | setAttribute (id : Nat) (name value : String)
  | mark (name : String)

/-- What an edit makes of the row of an element, or of the document itself. -/
def Edit.rowAfter : Edit → Option Nat → List Child → List Child
  | .append id child, p, r =>
    if p = some id then r.filter (· ≠ .element child) ++ [.element child]
    else r.filter (· ≠ .element child)
  | .prepend id child, p, r =>
    if p = some id then .element child :: r.filter (· ≠ .element child)
    else r.filter (· ≠ .element child)
  | .setText id s, p, r => if p = some id then [.text s] else r
  | _, _, r => r

namespace Document

/-- The document after an edit. One that fails changes nothing. -/
def edited (document : Document) : Edit → Document
  | .create tag =>
    match document.createElement tag with
    | .ok made => made.1
    | .error _ => document
  | .setText id s => document.setText id s
  | .append id child => document.appendChild id child
  | .prepend id child => document.prependChild id child
  | .setAttribute id name value => document.setAttribute id name value
  | .mark name =>
    match document.mark name with
    | .ok marked => marked
    | .error _ => document

/-- An element is in the document or among the loose trees. -/
def Has (document : Document) (id : Nat) : Prop :=
  id ∈ labelsOf document.trees

instance (document : Document) (id : Nat) : Decidable (document.Has id) :=
  inferInstanceAs (Decidable (id ∈ labelsOf document.trees))

end Document

/-- The elements that an edit names are there, and none is moved into itself or into what is
    below it. -/
def Edit.Permitted (document : Document) : Edit → Prop
  | .append id child | .prepend id child =>
    document.Has id ∧ document.Has child ∧ id ≠ child ∧ ¬ document.Holds child id
  | .setText id _ | .setAttribute id _ _ => document.Has id
  | .create _ | .mark _ => True

/-- The documents that a history of edits leads to. -/
inductive Document.Reached (html : String) : Document → Prop
  | parsed : Document.Reached html (Document.parse html)
  | edited (document : Document) (edit : Edit) (h : Document.Reached html document)
      (hedit : edit.Permitted document) : Document.Reached html (document.edited edit)

/-- An element has been moved into another: it stands among the other children of that one,
    which are in the order they had, has everything in it that it had, and is a child of no
    other. -/
structure IsMoved (before after : Document) (id child : Nat)
    (shown : List Child → List Child) : Prop where
  placed : ∃ r, before.HasRow (some id) r ∧
    after.HasRow (some id) (shown (r.filter (· ≠ .element child)))
  intact : ∃ e, before.element? child = some e ∧ after.element? child = some e
  parent : ∀ p, after.IsParent p child ↔ p = some id

namespace Document

/-! Rows after the edits that move nothing. -/

/-- Creating an element adds a loose tree, or nothing. -/
theorem edited_create (document : Document) (tag : String) :
    document.edited (.create tag) =
      if isBuildable tag then
        { document with
          loose := document.loose ++ [((built tag).number document.next).1]
          next := ((built tag).number document.next).2 }
      else document := by
  rw [edited, createElement_eq]
  split_ifs <;> rfl

/-- A new loose tree changes no row. -/
theorem hasRow_of_loose (document : Document) (more : List (Node Nat)) (next : Nat)
    (p : Option Nat) (r : List Child) (hr : document.HasRow p r) :
    { document with loose := document.loose ++ more, next : Document }.HasRow p r := by
  cases p with
  | none => exact hr
  | some q =>
      rcases hr with ⟨e, he, hlabel, hrow⟩
      refine ⟨e, ?_, hlabel, hrow⟩
      rw [trees, ← List.append_assoc, elementsIn_append]
      exact List.mem_append_left _ he

section Numbered

variable {document : Document} (h : document.Numbered)

include h

/-- A text replaces the row of its element. What it frees keeps the rows it had. -/
theorem setText_hasRow (id : Nat) (text : String) (p : Option Nat) (r : List Child)
    (hr : document.HasRow p r) :
    (document.setText id text).HasRow p (if p = some id then [.text text] else r) := by
  cases p with
  | none =>
      rw [if_neg (by simp), ← hr]
      exact row_updateIn id (fun e => e.withChildren [.text text]) (fun _ => rfl) document.nodes
  | some q =>
      rcases hr with ⟨e, he, rfl, rfl⟩
      simp only [HasRow, trees_setText, elementsIn_append, List.mem_append]
      by_cases hself : e.label = id
      · subst hself
        refine ⟨e.withChildren [.text text], Or.inl ?_, rfl, (if_pos rfl).symm⟩
        exact mem_updateIn document.trees h.nodup_trees e he fun x => x.withChildren [.text text]
      · rw [if_neg (by simpa using hself)]
        by_cases hfreed : e ∈ elementsIn (document.childElements id)
        · exact ⟨e, Or.inr hfreed, rfl, rfl⟩
        · -- It may hold the changed element, and sees other children then, but has the same row.
          refine ⟨_, Or.inl (mem_updateIn_withChildren document.trees id
            (fun x => x.withChildren [.text text]) e he hself ?_), rfl,
            row_updateIn id (fun x => x.withChildren [.text text]) (fun _ => rfl) e.children⟩
          -- An element below the changed one is freed.
          rintro x hx rfl hin
          refine absurd ?_ hfreed
          rw [childElements, element?_of_mem document h x hx, Option.map_some, Option.getD_some,
            elementsIn_filter_elements]
          exact hin

/-- An element that gets a text has this one child, and the text. -/
theorem exists_setText (id : Nat) (text : String) (hid : document.Has id) :
    ∃ e, (document.setText id text).element? id = some e ∧ e.children = [.text text] ∧
      e.text = text := by
  rcases exists_of_mem_labelsOf _ _ hid with ⟨e, he, rfl⟩
  have hfilled : e.withChildren [.text text] ∈
      elementsIn (document.setText e.label text).trees := by
    rw [trees_setText, elementsIn_append]
    exact List.mem_append_left _ (mem_updateIn document.trees h.nodup_trees e he
      fun x => x.withChildren [.text text])
  refine ⟨e.withChildren [.text text], element?_of_mem _
    (setText_numbered document h e.label text) (e.withChildren [.text text]) hfilled, rfl, ?_⟩
  rw [Element.text, Element.withChildren, textOfAll, textOfAll, textOf, List.append_nil,
    String.ofList_toList]

/-- An attribute changes no row. -/
theorem setAttribute_hasRow (id : Nat) (name value : String) (p : Option Nat) (r : List Child)
    (hr : document.HasRow p r) : (document.setAttribute id name value).HasRow p r := by
  let f : Element Nat → Element Nat :=
    fun e => { e with attributes := Attribute.set e.attributes name value }
  cases p with
  | none => exact (row_updateIn id f (fun _ => rfl) document.nodes).trans hr
  | some q =>
      rcases hr with ⟨e, he, rfl, rfl⟩
      by_cases hself : e.label = id
      · subst hself
        refine ⟨f e, ?_, rfl, rfl⟩
        rw [setAttribute, trees_update]
        exact mem_updateIn document.trees h.nodup_trees e he f
      · refine ⟨e.withChildren (updateIn id f e.children), ?_, rfl,
          row_updateIn id f (fun _ => rfl) e.children⟩
        rw [setAttribute, trees_update]
        -- An attribute leaves what is in the changed element as it was.
        refine mem_updateIn_withChildren document.trees id f e he hself ?_
        rintro x hx rfl hin
        rw [updateIn_below document.trees h.nodup_trees f x hx e hin]
        exact hin

/-! Moves. -/

/-- A move that is permitted is one of an element into one that is not inside it. -/
theorem exists_of_permitted (id child : Nat)
    (hedit : document.Has id ∧ document.Has child ∧ id ≠ child ∧ ¬ document.Holds child id) :
    ∃ m ∈ elementsIn document.trees, ∃ target ∈ elementsIn document.trees,
      m.label = child ∧ target.label = id ∧ target.label ∉ labelsOf [m.node] := by
  rcases hedit with ⟨hid, hchild, hne, hholds⟩
  rcases exists_of_mem_labelsOf _ _ hid with ⟨target, htarget, rfl⟩
  rcases exists_of_mem_labelsOf _ _ hchild with ⟨m, hm, rfl⟩
  refine ⟨m, hm, target, htarget, rfl, rfl, ?_⟩
  rw [Element.node, labelsOf_element, List.mem_cons, List.mem_append, not_or, not_or]
  exact ⟨hne, mt (h.holds_iff m hm _).mpr hholds, List.not_mem_nil⟩

/-- What a permitted move does. -/
theorem place_isMoved (id child : Nat)
    (hedit : document.Has id ∧ document.Has child ∧ id ≠ child ∧ ¬ document.Holds child id)
    {put : Node Nat → List (Node Nat) → List (Node Nat)} {shown : Child → List Child → List Child}
    (hput : Inserts put shown) :
    (document.place id child put).Numbered ∧
      (∀ p r, document.HasRow p r → (document.place id child put).HasRow p
        (if p = some id then shown (.element child) (r.filter (· ≠ .element child))
        else r.filter (· ≠ .element child))) ∧
      IsMoved document (document.place id child put) id child (shown (.element child)) := by
  rcases exists_of_permitted h id child hedit with ⟨m, hm, target, htarget, rfl, rfl, hoff⟩
  rw [place_eq h m target hm htarget hoff]
  have hmoved := moved_numbered h m target hm htarget hoff (hput.labels m.node)
  have hrows := moved_hasRow h m target hm htarget hoff hput
  have hplaced := hrows (some target.label) (row target.children) ⟨target, htarget, rfl, rfl⟩
  rw [if_pos rfl] at hplaced
  refine ⟨hmoved, hrows, {
    placed := ⟨row target.children, ⟨target, htarget, rfl, rfl⟩, hplaced⟩
    intact := ⟨m, element?_of_mem document h m hm, ?intact⟩
    parent := ?parent }⟩
  case intact =>
    refine element?_of_mem _ hmoved m (mem_moved_of_mem h m target hm htarget hoff hput m ?_)
    rw [Element.node, elementsIn_element]
    exact List.mem_cons_self
  case parent =>
    -- The document is a tree again, so the target is the only parent.
    have hparent : (document.moved m target put).IsParent (some target.label) m.label :=
      ⟨_, hplaced, hput.mem _ _⟩
    exact fun p => ⟨fun hp => hmoved.isTree.parent_unique p _ _ hp hparent, fun hp => hp ▸ hparent⟩

/-! One edit. -/

/-- A permitted edit keeps the document numbered. -/
theorem edited_numbered (edit : Edit) (hedit : edit.Permitted document) :
    (document.edited edit).Numbered := by
  cases edit with
  | create tag =>
      rw [edited_create]
      -- A tag that cannot be built leaves the document as it is, as does a missing body below.
      split
      · exact numbered_of_number document h (built tag)
      · exact h
  | setText id s => exact setText_numbered document h id s
  | append id child => exact (place_isMoved h id child hedit inserts_last).1
  | prepend id child => exact (place_isMoved h id child hedit inserts_first).1
  | setAttribute id name value => exact setAttribute_numbered document h id name value
  | mark name =>
      rw [edited, mark]
      cases document.body? with
      | none => exact h
      | some body => exact setAttribute_numbered document h body.label name ""

/-- The rows after a permitted edit. -/
theorem edited_hasRow (edit : Edit) (hedit : edit.Permitted document) (p : Option Nat)
    (r : List Child) (hr : document.HasRow p r) :
    (document.edited edit).HasRow p (edit.rowAfter p r) := by
  cases edit with
  | create tag =>
      rw [edited_create]
      split
      · exact hasRow_of_loose document _ _ p r hr
      · exact hr
  | setText id s => exact setText_hasRow h id s p r hr
  | append id child => exact (place_isMoved h id child hedit inserts_last).2.1 p r hr
  | prepend id child => exact (place_isMoved h id child hedit inserts_first).2.1 p r hr
  | setAttribute id name value => exact setAttribute_hasRow h id name value p r hr
  | mark name =>
      rw [edited, mark]
      cases document.body? with
      | none => exact hr
      | some body => exact setAttribute_hasRow h body.label name "" p r hr

end Numbered

/-! Histories. -/

/-- The documents of a history are numbered. -/
theorem reached_numbered (html : String) (document : Document) (h : document.Reached html) :
    document.Numbered := by
  induction h with
  | parsed => exact parse_numbered html
  | edited document edit _ hedit ih => exact edited_numbered ih edit hedit

/-- After every history of edits the document is a tree. The next edit changes rows as it says
    and no others. An element that is moved is among the other children of its target then, with
    all that was in it, and a child of no other. An element that gets a text has this one child. -/
theorem reached_isTree (html : String) (document : Document) (h : document.Reached html) :
    document.IsTree ∧
    (∀ edit : Edit, edit.Permitted document → ∀ p r, document.HasRow p r →
      (document.edited edit).HasRow p (edit.rowAfter p r)) ∧
    (∀ id child, (Edit.append id child).Permitted document →
      IsMoved document (document.appendChild id child) id child
        fun others => others ++ [.element child]) ∧
    (∀ id child, (Edit.prepend id child).Permitted document →
      IsMoved document (document.prependChild id child) id child
        fun others => .element child :: others) ∧
    ∀ id text, (Edit.setText id text).Permitted document →
      ∃ e, (document.setText id text).element? id = some e ∧ e.children = [.text text] ∧
        e.text = text := by
  have hnumbered := reached_numbered html document h
  refine ⟨hnumbered.isTree, edited_hasRow hnumbered, fun id child hedit => ?_,
    fun id child hedit => ?_, fun id text hedit => ?_⟩
  · exact (place_isMoved hnumbered id child hedit inserts_last).2.2
  · exact (place_isMoved hnumbered id child hedit inserts_first).2.2
  · exact exists_setText hnumbered id text hedit

/-- A paragraph that was moved into another element and freed there by a text goes back into
    the body, in front of what is in it. -/
theorem reached_isTree_freed :
    let document := ((parse "<p>a</p><b>c</b>").edited (.append 4 3)).edited (.setText 4 "z")
    document.Reached "<p>a</p><b>c</b>" ∧ document.IsTree ∧
      (Edit.prepend 2 3).Permitted document ∧
      IsMoved document (document.prependChild 2 3) 2 3 (fun others => .element 3 :: others) ∧
      (document.prependChild 2 3).HasRow (some 2) [.element 3, .element 4] := by
  intro document
  -- The root, the head and the body have the first three numbers.
  have hparsed : (parse "<p>a</p><b>c</b>").Reached "<p>a</p><b>c</b>" := .parsed
  have hfirst : (Edit.append 4 3).Permitted (parse "<p>a</p><b>c</b>") := by
    refine ⟨by decide +kernel, by decide +kernel, by decide, ?_⟩
    rw [(reached_numbered _ _ hparsed).holds_iff_element?]
    decide +kernel
  have hsecond : (Edit.setText 4 "z").Permitted
      ((parse "<p>a</p><b>c</b>").edited (.append 4 3)) := by
    show Has _ _
    decide +kernel
  have hreached : document.Reached "<p>a</p><b>c</b>" :=
    .edited _ _ (.edited _ _ hparsed hfirst) hsecond
  have hthird : (Edit.prepend 2 3).Permitted document := by
    refine ⟨by decide +kernel, by decide +kernel, by decide, ?_⟩
    rw [(reached_numbered _ _ hreached).holds_iff_element?]
    decide +kernel
  rcases reached_isTree _ document hreached with ⟨htree, hrows, -, hprepend, -⟩
  have hbody : document.HasRow (some 2) [.element 4] := by
    have hany : (elementsIn document.trees).any
        (fun e => e.label = 2 && row e.children = [.element 4]) = true := by decide +kernel
    simpa [HasRow] using hany
  exact ⟨hreached, htree, hthird, hprepend 2 3 hthird, hrows _ hthird _ _ hbody⟩

end Document

end CiteRender
