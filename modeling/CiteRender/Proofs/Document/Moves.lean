import CiteRender.Proofs.Document.Rows

/-!
# Moves of an Element

What moving an element does to the rows, wherever it was and whatever is in it. The element is
taken out first and goes into the target as it is, so every row loses it and the target's row
then gains it. The obvious way to say so fails on the elements themselves: the ones that held
it, or hold the target, see other children below them. Rows show children by number, and keep
theirs.

The elements of the document come in three kinds. Those inside the moved element travel with
it and do not change. The target gets one more child. The others are still there with what is
left below them, and the last two kinds are outside of the moved element, since the target is.

## Main definitions

* `Inserts`: What it means that a list gets a new member.

## Theorems

* `row_removeFrom`, `row_updateIn`: Rows when an element is taken out, or changed.
* `mem_moved_of_mem`: What is inside the moved element goes along.
* `exists_moved_of_not_mem`: What is outside of it stays.
* `moved_hasRow`: The rows after a move.
-/

namespace CiteRender

namespace Node

/-- A row loses the element that is taken out, and nothing else. -/
theorem row_removeFrom (id : Nat) (nodes : List (Node Nat)) :
    row (removeFrom id nodes) = (row nodes).filter (· ≠ .element id) := by
  induction nodes with
  | nil => rfl
  | cons node nodes ih =>
      rw [row, row] at ih
      -- Only an element can be the one that is out; other nodes have no number.
      cases node with
      | element label tag attributes contents children =>
          by_cases hlabel : label = id
          · subst hlabel
            rw [removeFrom_self, row, row, List.map_cons, child,
              List.filter_cons_of_neg (by simp), ih]
          · rw [removeFrom_other _ _ _ _ _ _ _ hlabel, row, row, List.map_cons, List.map_cons,
              child, child, List.filter_cons_of_pos (by simpa using hlabel), ih]
      | _ =>
          rw [removeFrom_leaf id _ nodes rfl, row, row, List.map_cons, List.map_cons,
            List.filter_cons_of_pos (by simp [child]), ih]

/-- An update that keeps numbers keeps the row of the nodes that it goes through. -/
theorem row_updateIn (id : Nat) (f : Element Nat → Element Nat)
    (hf : ∀ e, (f e).label = e.label) (nodes : List (Node Nat)) :
    row (updateIn id f nodes) = row nodes := by
  rw [updateIn_eq_map, row, row, List.map_map]
  refine List.map_congr_left fun node _ => ?_
  cases node with
  | element label tag attributes contents children =>
      rw [Function.comp_apply, updateAt]
      split
      · exact congrArg Child.element (hf _)
      · rfl
  | _ => rfl

theorem elementsIn_eq_flatMap (nodes : List (Node Nat)) :
    elementsIn nodes = nodes.flatMap elements := by
  induction nodes with
  | nil => rfl
  | cons node nodes ih => rw [elementsIn, ih, List.flatMap_cons]

/-- Elements of the same trees in another order are the same. -/
theorem elementsIn_perm {nodes more : List (Node Nat)} (h : nodes.Perm more) :
    (elementsIn nodes).Perm (elementsIn more) := by
  rw [elementsIn_eq_flatMap, elementsIn_eq_flatMap]
  exact h.flatMap_right elements

end Node

open Node

/-- A list gets a new member, and a row of it shows that one where it went. -/
structure Inserts (put : Node Nat → List (Node Nat) → List (Node Nat))
    (shown : Child → List Child → List Child) : Prop where
  perm : ∀ node nodes, (put node nodes).Perm (node :: nodes)
  row : ∀ node nodes, row (put node nodes) = shown node.child (row nodes)
  mem : ∀ child row, child ∈ shown child row

theorem inserts_last :
    Inserts (fun node nodes => nodes ++ [node]) (fun child row => row ++ [child]) where
  perm node nodes := List.perm_append_singleton node nodes
  row _ _ := List.map_append
  mem _ _ := List.mem_append_right _ List.mem_cons_self

theorem inserts_first :
    Inserts (fun node nodes => node :: nodes) (fun child row => child :: row) where
  perm _ _ := .refl _
  row _ _ := rfl
  mem _ _ := List.mem_cons_self

/-- Numbers do not depend on where the new member went. -/
theorem Inserts.labels {put : Node Nat → List (Node Nat) → List (Node Nat)}
    {shown : Child → List Child → List Child} (hput : Inserts put shown) (node : Node Nat)
    (nodes : List (Node Nat)) : (labelsOf (put node nodes)).Perm (labelsOf (nodes ++ [node])) := by
  rw [labelsOf_eq, labelsOf_eq]
  exact (elementsIn_perm ((hput.perm node nodes).trans
    (List.perm_append_singleton node nodes).symm)).map Element.label

namespace Document

section Move

variable {document : Document} (h : document.Numbered) (m target : Element Nat)
  (hm : m ∈ elementsIn document.trees) (htarget : target ∈ elementsIn document.trees)
  (hoff : target.label ∉ labelsOf [m.node])
  {put : Node Nat → List (Node Nat) → List (Node Nat)}
  {shown : Child → List Child → List Child} (hput : Inserts put shown)

include h hm

/-- The moved element is not in the row of an element that is inside it. -/
theorem not_mem_row_inside (e : Element Nat) (he : e ∈ elementsIn [m.node]) :
    Child.element m.label ∉ row e.children := by
  intro hrow
  -- What is in the row is inside the moved element too, which would then be inside itself.
  have hlabel := mem_labelsOf_of_root e.children _ ((mem_row_iff _ _).mp hrow)
  rcases exists_of_mem_labelsOf _ _ hlabel with ⟨x, hx, hlabel⟩
  rw [Element.node, elementsIn_element, elementsIn_nil, List.append_nil, List.mem_cons] at he
  have hinside : x ∈ elementsIn m.children := by
    rcases he with rfl | he
    · exact hx
    · exact mem_elementsIn_of_mem_children m.children e x he hx
  refine label_not_mem_children _ h.nodup_trees m hm ?_
  exact hlabel ▸ mem_labelsOf _ x hinside

include htarget hoff

/-- The changed target is there after a move. -/
theorem target_mem_moved :
    target.withChildren (put m.node (removeFrom m.label target.children)) ∈
      elementsIn (document.moved m target put).trees := by
  rw [trees_moved]
  exact mem_updateIn _ (nodup_remove h m hm) _ (target_mem_remove h m target hm htarget hoff) _

include hput

/-- What is inside the moved element goes along, and is not changed. -/
theorem mem_moved_of_mem (x : Element Nat) (hx : x ∈ elementsIn [m.node]) :
    x ∈ elementsIn (document.moved m target put).trees := by
  refine mem_elementsIn_of_mem_children _ _ x
    (target_mem_moved h m target hm htarget hoff) ?_
  refine (elementsIn_perm (hput.perm m.node _)).mem_iff.mpr ?_
  exact mem_elementsIn_of_mem _ m.node List.mem_cons_self x hx

/-- An element outside of the moved one stays, and has the row that the move leaves it. -/
theorem exists_moved_of_not_mem (e : Element Nat) (he : e ∈ elementsIn document.trees)
    (hout : e ∉ elementsIn [m.node]) :
    ∃ x ∈ elementsIn (document.moved m target put).trees, x.label = e.label ∧
      row x.children =
        if e.label = target.label then
          shown (.element m.label) ((row e.children).filter (· ≠ .element m.label))
        else (row e.children).filter (· ≠ .element m.label) := by
  by_cases hself : e.label = target.label
  · -- If it was a child of the target before, it is taken out of that row first.
    obtain rfl := eq_of_mem_trees document h e target he htarget hself
    refine ⟨_, target_mem_moved h m e hm htarget hoff, rfl, ?_⟩
    rw [if_pos rfl, ← row_removeFrom]
    exact hput.row m.node _
  · -- The second step only adds to the target, so what was in it is still there.
    have hstays := mem_remove_of_not_mem h m hm e he hout
    have hkeeps (y x : Element Nat) (hx : x ∈ elementsIn y.children) :
        x ∈ elementsIn (put m.node y.children) :=
      (elementsIn_perm (hput.perm m.node y.children)).mem_iff.mpr
        (by rw [elementsIn]; exact List.mem_append_right _ hx)
    have hmem := mem_updateIn_withChildren _ target.label
      (fun y => y.withChildren (put m.node y.children)) _ hstays hself fun y hy hlabel hin => by
        rw [← hlabel, updateIn_below _ (nodup_remove h m hm) _ y hy _ hin]
        exact hkeeps y _ hin
    rw [← trees_moved] at hmem
    refine ⟨_, hmem, rfl, ?_⟩
    rw [if_neg hself, ← row_removeFrom]
    exact row_updateIn _ (fun e => e.withChildren (put m.node e.children)) (fun _ => rfl) _

/-- Every row loses the moved element, and the row of the target then gets it. -/
theorem moved_hasRow (p : Option Nat) (r : List Child) (hr : document.HasRow p r) :
    (document.moved m target put).HasRow p
      (if p = some target.label then
        shown (.element m.label) (r.filter (· ≠ .element m.label))
      else r.filter (· ≠ .element m.label)) := by
  cases p with
  | none =>
      -- The document itself is no target; it may only lose the element.
      rw [if_neg (by simp), ← hr, ← row_removeFrom]
      exact row_updateIn target.label (fun e => e.withChildren (put m.node e.children))
        (fun _ => rfl) (removeFrom m.label document.nodes)
  | some id =>
      rcases hr with ⟨e, he, rfl, rfl⟩
      by_cases hin : e ∈ elementsIn [m.node]
      · -- The target is outside, and the moved element is not inside itself.
        have hother : e.label ≠ target.label := fun heq => hoff (heq ▸ mem_labelsOf _ e hin)
        have hself : (row e.children).filter (· ≠ .element m.label) = row e.children := by
          refine List.filter_eq_self.mpr fun c hc => decide_eq_true ?_
          rintro rfl
          exact not_mem_row_inside h m hm e hin hc
        rw [if_neg (by simpa using hother), hself]
        exact ⟨e, mem_moved_of_mem h m target hm htarget hoff hput e hin, rfl, rfl⟩
      · rcases exists_moved_of_not_mem h m target hm htarget hoff hput e he hin with
          ⟨x, hx, hlabel, hrow⟩
        exact ⟨x, hx, hlabel, by simpa only [Option.some.injEq] using hrow⟩

end Move

end Document

end CiteRender
