import CiteRender.Proofs.Document.Updates

/-!
# Edits of a Document

What the edits of a document do when they are used as a render uses them: a
text put into an element, an element created, and the created element moved
among the children of another. Each of them keeps the document numbered, so a number read
before an edit still names its element after it.

An edit is an update of the tree and of the loose trees at once. The two are
treated as one list of trees here, since a number is never on both sides.

An element is moved in two steps, out of its place and into the target, which
is not inside it.

A created element is the last of the loose trees, and the document is said to
hold it. Edits of the element that is held leave everything else alone, and
moving it takes it off the end. What the parser makes of a tag is not settled
here; it is a hypothesis of `createElement_bare`, for each tag to discharge.

## Main definitions

* `Document.trees`: The trees of a document, placed and loose.
* `Document.moved`: A document after a move.
* `Document.holding`: A document with one more loose element.
* `Element.bare`, `Element.isBare`: Elements with nothing but a name.

## Theorems

* `Attribute.find?_set_of_ne`: Setting one attribute keeps the others.
* `numbered_iff`, `Numbered.nodup_trees`, `eq_of_mem_trees`: Numbered documents by all their
  trees.
* `element?_trees`, `mem_of_element?`, `element?_of_mem`: Looking up a number in them.
* `setText_numbered`, `setAttribute_numbered`: Edits inside an element keep the
  document numbered.
* `place_eq`, `moved_perm`: Moves, which lose no element and bring none.
* `setText_holding`, `place_holding`: Edits of the element that is held.
* `place_numbered`: Putting it away keeps the document numbered.
* `createElement_bare`: What creating an element gives.
-/

namespace CiteRender

/-- Setting an attribute leaves the others as they are. -/
theorem Attribute.find?_set_of_ne (attributes : List Attribute) (name value other : String)
    (h : other ≠ name) :
    find? (set attributes name value) other = find? attributes other := by
  have hother : name ≠ other := fun heq => h heq.symm
  induction attributes with
  | nil => simp [set, find?, hother]
  | cons a attributes ih =>
      rw [set]
      by_cases hset : a.space = .plain ∧ a.name = name
      · rw [if_pos hset]
        simp [find?, hset, hother]
      · rw [if_neg hset]
        rw [find?, find?] at ih ⊢
        rw [List.find?_cons, List.find?_cons]
        by_cases hfound : (decide (a.space = .plain) && decide (a.name = other)) = true
        · rw [hfound]
        · rw [Bool.not_eq_true] at hfound
          rw [hfound]
          exact ih

namespace Document

open Node

/-- The trees of a document, those with a place first. -/
def trees (document : Document) : List (Node Nat) :=
  document.nodes ++ document.loose

theorem numbered_iff (document : Document) :
    document.Numbered ↔
      (labelsOf document.trees).Nodup ∧ ∀ id ∈ labelsOf document.trees, id < document.next := by
  rw [trees, labelsOf_append]
  exact ⟨fun h => ⟨h.nodup, h.below⟩, fun h => ⟨h.1, h.2⟩⟩

/-- No two elements of a numbered document have the same number. -/
theorem Numbered.nodup_trees {document : Document} (h : document.Numbered) :
    (labelsOf document.trees).Nodup :=
  ((numbered_iff document).mp h).1

/-- A placed element is among all elements. -/
theorem mem_trees (document : Document) (e : Element Nat) (he : e ∈ elementsIn document.nodes) :
    e ∈ elementsIn document.trees := by
  rw [trees, elementsIn_append]
  exact List.mem_append_left _ he

/-- A number names one element among all. -/
theorem eq_of_mem_trees (document : Document) (h : document.Numbered) (e x : Element Nat)
    (he : e ∈ elementsIn document.trees) (hx : x ∈ elementsIn document.trees)
    (hlabel : e.label = x.label) : e = x :=
  eq_of_label_eq document.trees h.nodup_trees e x he hx hlabel

theorem element?_trees (document : Document) (id : Nat) :
    document.element? id = (elementsIn document.trees).find? fun e => e.label = id := by
  rw [element?, findIn?_eq, findIn?_eq, trees, elementsIn_append, List.find?_append]

/-- What a number names is an element that has it. -/
theorem mem_of_element? (document : Document) (id : Nat) (e : Element Nat)
    (h : document.element? id = some e) : e ∈ elementsIn document.trees ∧ e.label = id := by
  rw [element?_trees] at h
  exact ⟨List.mem_of_find?_eq_some h, by simpa using List.find?_some h⟩

/-- A number names the element that has it. -/
theorem element?_of_mem (document : Document) (h : document.Numbered) (e : Element Nat)
    (he : e ∈ elementsIn document.trees) : document.element? e.label = some e := by
  rw [element?_trees]
  rcases hfound : (elementsIn document.trees).find? fun x => x.label = e.label with _ | x
  · exact absurd (decide_eq_true rfl) (List.find?_eq_none.mp hfound e he)
  · have hx := List.mem_of_find?_eq_some hfound
    have hlabel : x.label = e.label := by simpa using List.find?_some hfound
    rw [hfound, eq_of_mem_trees document h x e hx he hlabel]

/-- Leaving out what is no element leaves out no element. -/
theorem elementsIn_filter_elements (nodes : List (Node Nat)) :
    elementsIn (nodes.filter fun node => node.asElement?.isSome) = elementsIn nodes := by
  induction nodes with
  | nil => rfl
  | cons node nodes ih =>
      rcases hnode : node.asElement? with _ | e
      · rw [List.filter_cons_of_neg (by simp [hnode]), elementsIn_leaf node nodes hnode, ih]
      · rw [List.filter_cons_of_pos (by simp [hnode]), elementsIn, elementsIn, ih]

theorem labelsOf_filter_elements (nodes : List (Node Nat)) :
    labelsOf (nodes.filter fun node => node.asElement?.isSome) = labelsOf nodes := by
  rw [labelsOf_eq, labelsOf_eq, elementsIn_filter_elements]

/-- An edit that uses the same numbers keeps the document numbered. -/
theorem numbered_of_perm (document edited : Document) (h : document.Numbered)
    (hperm : (labelsOf edited.trees).Perm (labelsOf document.trees))
    (hnext : edited.next = document.next) : edited.Numbered := by
  rcases (numbered_iff document).mp h with ⟨hnodup, hbelow⟩
  refine (numbered_iff edited).mpr ⟨hperm.nodup_iff.mpr hnodup, fun id hid => ?_⟩
  rw [hnext]
  exact hbelow id (hperm.mem_iff.mp hid)

/-- An edit that uses the next number keeps the document numbered. -/
theorem numbered_of_next (document edited : Document) (h : document.Numbered)
    (hperm : (labelsOf edited.trees).Perm (document.next :: labelsOf document.trees))
    (hnext : edited.next = document.next + 1) : edited.Numbered := by
  rcases (numbered_iff document).mp h with ⟨hnodup, hbelow⟩
  refine (numbered_iff edited).mpr ⟨hperm.nodup_iff.mpr (List.nodup_cons.mpr ⟨?_, hnodup⟩), ?_⟩
  · exact fun hmem => Nat.lt_irrefl _ (hbelow _ hmem)
  · intro id hid
    rw [hnext]
    rcases List.mem_cons.mp (hperm.mem_iff.mp hid) with rfl | hid
    · exact Nat.lt_succ_self _
    · exact Nat.lt_succ_of_lt (hbelow id hid)

theorem trees_update (document : Document) (id : Nat) (f : Element Nat → Element Nat) :
    (document.update id f).trees = updateIn id f document.trees := by
  rw [trees, trees, updateIn_append]
  rfl

/-- What is freed by a text follows the other trees. -/
theorem trees_setText (document : Document) (id : Nat) (text : String) :
    (document.setText id text).trees =
      updateIn id (fun e => e.withChildren [.text text]) document.trees ++
        document.childElements id := by
  rw [trees, trees, updateIn_append, List.append_assoc]
  rfl

/-- A text that is put into an element moves elements, and loses none. -/
theorem labelsOf_setText_perm (document : Document) (h : document.Numbered) (id : Nat)
    (text : String) :
    (labelsOf (document.setText id text).trees).Perm (labelsOf document.trees) := by
  rw [trees_setText, labelsOf_append]
  by_cases hid : id ∈ labelsOf document.trees
  · -- What is freed takes its numbers along, and a text brings none.
    rcases exists_of_mem_labelsOf _ _ hid with ⟨e, he, rfl⟩
    have hperm := labelsOf_updateIn_perm document.trees h.nodup_trees e he
      fun _ => [.text text]
    rw [childElements, element?_of_mem document h e he, Option.map_some, Option.getD_some,
      labelsOf_filter_elements]
    rw [labelsOf_leaf _ _ rfl, labelsOf, List.append_nil] at hperm
    exact hperm
  · have hnone : document.element? id = none := by
      rw [element?_trees, List.find?_eq_none]
      intro e he hlabel
      rw [← of_decide_eq_true hlabel] at hid
      exact hid (mem_labelsOf document.trees e he)
    rw [updateIn_of_not_mem _ _ _ hid, childElements, hnone, Option.map_none, Option.getD_none,
      labelsOf, List.append_nil]

theorem setText_numbered (document : Document) (h : document.Numbered) (id : Nat) (text : String) :
    (document.setText id text).Numbered :=
  numbered_of_perm document _ h (labelsOf_setText_perm document h id text) rfl

/-- What a text frees was in the document, inside the element that gets the text. -/
theorem mem_of_mem_childElements (document : Document) (h : document.Numbered) (id : Nat)
    (e : Element Nat) (he : e ∈ elementsIn (document.childElements id)) :
    e ∈ elementsIn document.trees ∧ e.label ≠ id := by
  rw [childElements] at he
  rcases hfound : document.element? id with _ | x
  · rw [hfound] at he
    exact absurd he List.not_mem_nil
  · rw [hfound, Option.map_some, Option.getD_some, elementsIn_filter_elements] at he
    rcases mem_of_element? document id x hfound with ⟨hx, hlabel⟩
    refine ⟨mem_elementsIn_of_mem_children _ x e hx he, fun hsame => ?_⟩
    have hinside := label_not_mem_children _ h.nodup_trees x hx
    rw [hlabel, ← hsame] at hinside
    exact hinside (mem_labelsOf _ e he)

theorem setAttribute_numbered (document : Document) (h : document.Numbered) (id : Nat)
    (name value : String) : (document.setAttribute id name value).Numbered := by
  refine numbered_of_perm document _ h ?_ rfl
  have hsame (nodes : List (Node Nat)) :
      labelsOf (updateIn id
        (fun e => { e with attributes := Attribute.set e.attributes name value }) nodes) =
          labelsOf nodes := by
    rw [← labelsNamed_all, ← labelsNamed_all]
    refine labelsNamed_updateIn _ _ _ ?_ nodes
    intro e
    exact ⟨rfl, rfl, rfl⟩
  rw [trees, trees, labelsOf_append, labelsOf_append, setAttribute, update]
  dsimp only
  rw [hsame, hsame]

theorem trees_remove (document : Document) (id : Nat) :
    (document.remove id).trees = removeFrom id document.trees := by
  rw [trees, trees, removeFrom_append]
  rfl

/-- The document that a move of an element into another one leaves. -/
def moved (document : Document) (m target : Element Nat)
    (put : Node Nat → List (Node Nat) → List (Node Nat)) : Document :=
  (document.remove m.label).update target.label fun e => e.withChildren (put m.node e.children)

theorem trees_moved (document : Document) (m target : Element Nat)
    (put : Node Nat → List (Node Nat) → List (Node Nat)) :
    (document.moved m target put).trees =
      updateIn target.label (fun e => e.withChildren (put m.node e.children))
        (removeFrom m.label document.trees) := by
  rw [moved, trees_update, trees_remove]

/-! A move of an element `m` into an element `target` that is not inside it. -/

section Move

variable {document : Document} (h : document.Numbered) (m target : Element Nat)
  (hm : m ∈ elementsIn document.trees) (htarget : target ∈ elementsIn document.trees)
  (hoff : target.label ∉ labelsOf [m.node])
  {put : Node Nat → List (Node Nat) → List (Node Nat)}

include h hm

/-- An element that is not inside the moved one is still there when that is out. -/
theorem mem_remove_of_not_mem (e : Element Nat) (he : e ∈ elementsIn document.trees)
    (hout : e ∉ elementsIn [m.node]) :
    e.withChildren (removeFrom m.label e.children) ∈
      elementsIn (removeFrom m.label document.trees) := by
  refine mem_removeFrom m.label document.trees e he fun x hx hlabel => ?_
  rw [eq_of_mem_trees document h x m hx hm hlabel]
  exact hout

/-- The numbers that are left when an element is out still differ. -/
theorem nodup_remove : (labelsOf (removeFrom m.label document.trees)).Nodup := by
  have hperm := labelsOf_removeFrom_perm document.trees h.nodup_trees m hm
  exact (List.nodup_append.mp (hperm.nodup_iff.mpr h.nodup_trees)).1

include htarget hoff

theorem place_eq : document.place target.label m.label put = document.moved m target put := by
  have hcontains : ¬ (labels m.node).contains target.label = true := by
    rw [List.contains_iff_mem]
    rw [labelsOf, labelsOf, List.append_nil] at hoff
    exact hoff
  rw [place, element?_of_mem document h target htarget, element?_of_mem document h m hm]
  dsimp only
  rw [if_neg hcontains]
  rfl

/-- The target is still there when the moved element is out. -/
theorem target_mem_remove :
    target.withChildren (removeFrom m.label target.children) ∈
      elementsIn (removeFrom m.label document.trees) :=
  mem_remove_of_not_mem h m hm target htarget fun hin => hoff (mem_labelsOf _ target hin)

/-- A move loses no element and brings none. -/
theorem moved_perm
    (hput : ∀ children, (labelsOf (put m.node children)).Perm (labelsOf (children ++ [m.node]))) :
    (labelsOf (document.moved m target put).trees).Perm (labelsOf document.trees) := by
  have hout := List.perm_iff_count.mp (labelsOf_removeFrom_perm document.trees h.nodup_trees m hm)
  have hin := List.perm_iff_count.mp (labelsOf_updateIn_perm _ (nodup_remove h m hm) _
    (target_mem_remove h m target hm htarget hoff) (put m.node))
  have hnew := List.perm_iff_count.mp (hput (removeFrom m.label target.children))
  rw [trees_moved]
  -- The numbers of the element leave the trees in the first step, and are back in the second.
  refine List.perm_iff_count.mpr fun id => ?_
  have houtid := hout id
  have hinid := hin id
  have hnewid := hnew id
  simp only [Element.withChildren, labelsOf_append, List.count_append] at houtid hinid hnewid ⊢
  omega

theorem moved_numbered
    (hput : ∀ children, (labelsOf (put m.node children)).Perm (labelsOf (children ++ [m.node]))) :
    (document.moved m target put).Numbered :=
  numbered_of_perm document _ h (moved_perm h m target hm htarget hoff hput) rfl

end Move

/-- A document with one more loose tree, an element. -/
def holding (document : Document) (e : Element Nat) : Document :=
  { document with loose := document.loose ++ [e.node] }

theorem trees_holding (document : Document) (e : Element Nat) :
    (document.holding e).trees = document.trees ++ [e.node] := by
  rw [trees, trees, holding, List.append_assoc]

theorem mem_trees_holding (document : Document) (e : Element Nat) :
    e ∈ elementsIn (document.holding e).trees := by
  rw [trees_holding, elementsIn_append, Element.node, elementsIn_element]
  exact List.mem_append_right _ (List.mem_cons_self ..)

theorem numbered_of_holding (document : Document) (e : Element Nat)
    (h : (document.holding e).Numbered) : document.Numbered := by
  rw [numbered_iff, trees_holding, labelsOf_append, List.nodup_append,
    List.forall_mem_append] at h
  exact (numbered_iff document).mpr ⟨h.1.1, h.2.1⟩

/-- The number of the tree that is held is used nowhere else. -/
theorem not_mem_of_holding (document : Document) (e : Element Nat)
    (h : (document.holding e).Numbered) :
    e.label ∉ labelsOf document.nodes ∧ e.label ∉ labelsOf document.loose := by
  have hnodup := h.nodup_trees
  rw [trees_holding, labelsOf_append, Element.node, labelsOf_element] at hnodup
  have hnot : e.label ∉ labelsOf document.trees :=
    fun hmem => (List.nodup_append.mp hnodup).2.2 _ hmem _ (List.mem_cons_self ..) rfl
  rw [trees, labelsOf_append, List.mem_append, not_or] at hnot
  exact hnot

theorem update_holding (document : Document) (e : Element Nat) (h : (document.holding e).Numbered)
    (f : Element Nat → Element Nat) :
    (document.holding e).update e.label f = document.holding (f e) := by
  rcases not_mem_of_holding document e h with ⟨hnodes, hloose⟩
  rw [update, holding, holding]
  dsimp only
  rw [updateIn_append, updateIn_of_not_mem _ f _ hnodes, updateIn_of_not_mem _ f _ hloose,
    Element.node, updateIn_self, updateIn]

/-- Putting a text into an element that is held and has no children. -/
theorem setText_holding (document : Document) (e : Element Nat) (h : (document.holding e).Numbered)
    (hempty : e.children = []) (text : String) :
    (document.holding e).setText e.label text =
      document.holding (e.withChildren [.text text]) := by
  have hfreed : (document.holding e).childElements e.label = [] := by
    rw [childElements, element?_of_mem _ h e (mem_trees_holding document e), Option.map_some,
      Option.getD_some, hempty, List.filter_nil]
  have hupdate := update_holding document e h fun x => x.withChildren [.text text]
  rw [setText, hfreed, List.append_nil]
  exact hupdate

/-- Another element than the one that is held is not inside that. -/
theorem exists_target_of_holding (document : Document) (e : Element Nat)
    (h : (document.holding e).Numbered) (id : Nat) (hid : id ∈ labelsOf document.trees) :
    ∃ x ∈ elementsIn (document.holding e).trees, x.label = id ∧ x.label ∉ labelsOf [e.node] := by
  have hnodup := h.nodup_trees
  rw [trees_holding, labelsOf_append] at hnodup
  have hoff : id ∉ labelsOf [e.node] :=
    fun hin => (List.nodup_append.mp hnodup).2.2 _ hid _ hin rfl
  rcases exists_of_mem_labelsOf _ _ hid with ⟨x, hx, rfl⟩
  refine ⟨x, ?_, rfl, hoff⟩
  rw [trees_holding, elementsIn_append]
  exact List.mem_append_left _ hx

/-- The element that is held goes among the children of another, and is held no
    more. -/
theorem place_holding (document : Document) (e : Element Nat)
    (h : (document.holding e).Numbered) (id : Nat) (hid : id ∈ labelsOf document.trees)
    (put : Node Nat → List (Node Nat) → List (Node Nat)) :
    (document.holding e).place id e.label put =
      document.update id fun x => x.withChildren (put e.node x.children) := by
  rcases exists_target_of_holding document e h id hid with ⟨x, hx, rfl, hoff⟩
  rcases not_mem_of_holding document e h with ⟨hnodes, hloose⟩
  have hremove : (document.holding e).remove e.label = document := by
    rw [remove, holding]
    dsimp only
    rw [removeFrom_of_not_mem _ _ hnodes, removeFrom_append_self _ e hloose]
  rw [place_eq h e x (mem_trees_holding document e) hx hoff, moved, hremove]

/-- Putting away the element that is held keeps the document numbered. -/
theorem place_numbered (document : Document) (e : Element Nat)
    (h : (document.holding e).Numbered) (id : Nat) (hid : id ∈ labelsOf document.trees)
    (put : Node Nat → List (Node Nat) → List (Node Nat))
    (hput : ∀ children, (labelsOf (put e.node children)).Perm (labelsOf (children ++ [e.node]))) :
    ((document.holding e).place id e.label put).Numbered := by
  have hmem := mem_trees_holding document e
  rcases exists_target_of_holding document e h id hid with ⟨x, hx, rfl, hoff⟩
  rw [place_eq h e x hmem hx hoff]
  exact moved_numbered h e x hmem hx hoff hput

theorem appendChild_holding (document : Document) (e : Element Nat)
    (h : (document.holding e).Numbered) (id : Nat) (hid : id ∈ labelsOf document.trees) :
    (document.holding e).appendChild id e.label =
      document.update id fun x => x.withChildren (x.children ++ [e.node]) :=
  place_holding document e h id hid fun node children => children ++ [node]

theorem appendChild_numbered (document : Document) (e : Element Nat)
    (h : (document.holding e).Numbered) (id : Nat) (hid : id ∈ labelsOf document.trees) :
    ((document.holding e).appendChild id e.label).Numbered :=
  place_numbered document e h id hid _ fun _ => .refl _

end Document

/-- Whether an element has nothing but the name of a tag. -/
def Element.isBare {ι : Type} (tag : String) (e : Element ι) : Bool :=
  e.tag = Tag.html tag && e.attributes.isEmpty && e.contents.isEmpty && e.children.isEmpty

/-- The element of a number that has nothing but the name of a tag. -/
def Element.bare (id : Nat) (tag : String) : Element Nat where
  label := id
  tag := Tag.html tag
  attributes := []
  contents := []
  children := []

namespace Document

open Node

/-- A document that holds a new bare element. -/
def withBare (document : Document) (tag : String) : Document :=
  { document with next := document.next + 1 }.holding (Element.bare document.next tag)

/-- A new element is bare if the parser makes a bare one of the two tags. -/
theorem createElement_bare (document : Document) (tag : String)
    (hname : isTagName tag.toList = true)
    (hparsed : (parsedElement? tag).any (Element.isBare tag) = true) :
    document.createElement tag = .ok (document.withBare tag, document.next) := by
  rw [createElement, if_pos hname]
  rcases he : parsedElement? tag with _ | ⟨label, name, attributes, contents, children⟩
  · rw [he] at hparsed
    simp at hparsed
  · rw [he] at hparsed
    simp only [Option.any_some, Element.isBare, Bool.and_eq_true, decide_eq_true_eq,
      List.isEmpty_iff] at hparsed
    rcases hparsed with ⟨⟨⟨rfl, rfl⟩, rfl⟩, rfl⟩
    rfl

theorem withBare_numbered (document : Document) (h : document.Numbered) (tag : String) :
    (document.withBare tag).Numbered := by
  refine numbered_of_next document _ h ?_ rfl
  have htrees : labelsOf (document.withBare tag).trees =
      labelsOf document.trees ++ [document.next] := by
    rw [withBare, trees_holding, labelsOf_append]
    rfl
  rw [htrees]
  exact List.perm_append_singleton _ _

end Document

end CiteRender
