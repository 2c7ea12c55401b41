import CiteRender.Proofs.Document.Edits
import CiteRender.Render.Citations
import Mathlib.Data.List.Induction

/-!
# Filled Markers

What a document looks like when its markers have been filled one by one. The
markers are found in the original, and by the time one of them is filled it may
have lost its place to an earlier one that held it. Nothing is said about the
order of the fills here. What is said is that an element of the filled document
opens like one of the original, and that it holds its own text and nothing else
if it is one of the markers.

The second holds for markers of any selector. A later fill only reaches into
another marker if that one has elements in it, and a filled marker has none.

It also says when filling does nothing. A document that comes out unchanged
shows the text of each of its markers already, and one that shows them all
comes out unchanged.

## Main definitions

* `markerText`: The text that a marker is filled with.
* `Element.OpensLike`: Elements that differ at most in what is in them.
* `Shown`: The elements that have a marker's number hold its text.

## Theorems

* `fillMarkers_numbered`: Filling keeps a document numbered.
* `fillMarkers_opensLike`, `fillMarkers_opensLike_trees`: The elements of a filled document
  are old ones.
* `fillMarkers_shown`, `fillMarkers_shown_trees`: Filled markers hold their texts.
* `mem_fillMarkers`: A filled marker is still there.
* `fillMarkers_eq_self_iff`: When filling changes nothing.
-/

namespace CiteRender

open Node

/-- The text that a marker is filled with. -/
def markerText (ledger : Ledger) (marker : Element Nat) : String :=
  numericText (markerReferences ledger marker)

/-- Whether two elements differ at most in what is in them. -/
def Element.OpensLike (e x : Element Nat) : Prop :=
  e.label = x.label ∧ e.tag = x.tag ∧ e.attributes = x.attributes

theorem markerKeys_of_opensLike (e x : Element Nat) (h : e.OpensLike x) :
    markerKeys e = markerKeys x := by
  rw [markerKeys, markerKeys, Element.attribute?, Element.attribute?, h.2.2]

/-- What a marker shows is decided by its attributes. -/
theorem markerText_of_opensLike (ledger : Ledger) (e x : Element Nat) (h : e.OpensLike x) :
    markerText ledger e = markerText ledger x := by
  rw [markerText, markerText, markerReferences, markerReferences, shownKeys, shownKeys,
    markerKeys_of_opensLike e x h]

/-- In some trees, every element with the number of a marker holds the text of
    the marker and nothing else. -/
def Shown (ledger : Ledger) (markers : List (Element Nat)) (nodes : List (Node Nat)) : Prop :=
  ∀ e ∈ elementsIn nodes, ∀ m ∈ markers, e.label = m.label →
    e.children = [.text (markerText ledger m)]

theorem fillMarkers_append_singleton (ledger : Ledger) (document : Document)
    (markers : List (Element Nat)) (marker : Element Nat) :
    fillMarkers ledger document (markers ++ [marker]) =
      fillMarker ledger (fillMarkers ledger document markers) marker := by
  rw [fillMarkers, List.foldl_append]
  rfl

theorem fillMarker_nodes (ledger : Ledger) (document : Document) (marker : Element Nat) :
    (fillMarker ledger document marker).nodes =
      updateIn marker.label (fun e => e.withChildren [.text (markerText ledger marker)])
        document.nodes := rfl

theorem fillMarkers_numbered (ledger : Ledger) (document : Document) (h : document.Numbered)
    (markers : List (Element Nat)) : (fillMarkers ledger document markers).Numbered := by
  induction markers using List.reverseRecOn with
  | nil => exact h
  | append_singleton markers marker ih =>
      rw [fillMarkers_append_singleton]
      exact Document.setText_numbered _ ih _ _

/-- An element of a filled document is one of the original, with other things
    in it perhaps. -/
theorem fillMarkers_opensLike (ledger : Ledger) (document : Document)
    (markers : List (Element Nat)) :
    ∀ e ∈ elementsIn (fillMarkers ledger document markers).nodes,
      ∃ x ∈ elementsIn document.nodes, e.OpensLike x := by
  induction markers using List.reverseRecOn with
  | nil =>
      intro e he
      exact ⟨e, he, rfl, rfl, rfl⟩
  | append_singleton markers marker ih =>
      rw [fillMarkers_append_singleton, fillMarker_nodes]
      refine forall_updateIn _ _ _ _ ?_ ?_
      · -- A text has no elements in it.
        intro e he _
        refine ⟨ih e he, fun x hx => ?_⟩
        simp [Element.withChildren] at hx
      · intro e he _
        exact ih e he

/-- The same among all trees: a marker that has lost its place opens as it did. -/
theorem fillMarkers_opensLike_trees (ledger : Ledger) (document : Document)
    (h : document.Numbered) (markers : List (Element Nat)) :
    ∀ e ∈ elementsIn (fillMarkers ledger document markers).trees,
      ∃ x ∈ elementsIn document.trees, e.OpensLike x := by
  induction markers using List.reverseRecOn with
  | nil =>
      intro e he
      exact ⟨e, he, rfl, rfl, rfl⟩
  | append_singleton markers marker ih =>
      rw [fillMarkers_append_singleton, fillMarker, Document.trees_setText]
      intro e he
      rw [elementsIn_append, List.mem_append] at he
      -- An element is in the tree or among those that a fill has set free.
      rcases he with he | he
      · refine forall_updateIn (fun e => ∃ x ∈ elementsIn document.trees, e.OpensLike x) _ _ _ ?_ ?_
          e he
        · intro e he _
          refine ⟨ih e he, fun x hx => ?_⟩
          simp [Element.withChildren] at hx
        · intro e he _
          exact ih e he
      · exact ih e (Document.mem_of_mem_childElements _
          (fillMarkers_numbered ledger document h markers) _ e he).1

/-- One more text: the new marker holds its own, and the others keep theirs. -/
theorem updateIn_shown (ledger : Ledger) (nodes : List (Node Nat)) (markers : List (Element Nat))
    (marker : Element Nat) (hnew : marker.label ∉ markers.map Element.label)
    (h : Shown ledger markers nodes) :
    Shown ledger (markers ++ [marker])
      (updateIn marker.label (fun e => e.withChildren [.text (markerText ledger marker)]) nodes) := by
  refine forall_updateIn _ _ _ _ ?_ ?_
  · intro e _ hlabel
    refine ⟨fun m hm hsame => ?_, fun x hx => ?_⟩
    · rcases List.mem_append.mp hm with hm | hm
      · have heq : m.label = marker.label := hsame.symm.trans hlabel
        exact absurd (heq ▸ List.mem_map_of_mem hm) hnew
      · rw [List.mem_singleton.mp hm]
        rfl
    · simp [Element.withChildren] at hx
  · intro e he hlabel m hm hsame
    -- An earlier marker has only its text in it, so this fill finds nothing there.
    rcases List.mem_append.mp hm with hm | hm
    · show updateIn _ _ e.children = _
      rw [h e he m hm hsame, updateIn_text]
    · rw [List.mem_singleton.mp hm] at hsame
      exact absurd hsame hlabel

/-- One more fill, among all trees. What it frees shows what it showed inside the
    marker. -/
theorem fillMarker_shown_trees (ledger : Ledger) (document : Document) (hnumbered : document.Numbered)
    (markers : List (Element Nat)) (marker : Element Nat)
    (hnew : marker.label ∉ markers.map Element.label) (h : Shown ledger markers document.trees) :
    Shown ledger (markers ++ [marker]) (fillMarker ledger document marker).trees := by
  rw [fillMarker, Document.trees_setText]
  intro e he
  rw [elementsIn_append, List.mem_append] at he
  rcases he with he | he
  · exact updateIn_shown ledger document.trees markers marker hnew h e he
  · rcases Document.mem_of_mem_childElements document hnumbered _ e he with ⟨hmem, hne⟩
    intro m hm hsame
    rcases List.mem_append.mp hm with hm | hm
    · exact h e hmem m hm hsame
    · rw [List.mem_singleton.mp hm] at hsame
      exact absurd hsame hne

/-- Filled markers hold their texts, wherever they are still in their place. -/
theorem fillMarkers_shown (ledger : Ledger) (document : Document) (markers : List (Element Nat))
    (hnodup : (markers.map Element.label).Nodup) :
    Shown ledger markers (fillMarkers ledger document markers).nodes := by
  induction markers using List.reverseRecOn with
  | nil =>
      intro e _ m hm
      simp at hm
  | append_singleton markers marker ih =>
      rw [List.map_append, List.map_singleton] at hnodup
      rcases List.nodup_append.mp hnodup with ⟨hbefore, -, hdisjoint⟩
      rw [fillMarkers_append_singleton, fillMarker_nodes]
      refine updateIn_shown ledger _ markers marker ?_ (ih hbefore)
      intro hmem
      exact hdisjoint _ hmem _ (List.mem_singleton_self _) rfl

/-- Filled markers hold their texts, also where they have lost their place. -/
theorem fillMarkers_shown_trees (ledger : Ledger) (document : Document) (h : document.Numbered)
    (markers : List (Element Nat)) (hnodup : (markers.map Element.label).Nodup) :
    Shown ledger markers (fillMarkers ledger document markers).trees := by
  induction markers using List.reverseRecOn with
  | nil =>
      intro e _ m hm
      simp at hm
  | append_singleton markers marker ih =>
      rw [List.map_append, List.map_singleton] at hnodup
      rcases List.nodup_append.mp hnodup with ⟨hbefore, -, hdisjoint⟩
      rw [fillMarkers_append_singleton]
      refine fillMarker_shown_trees ledger _ (fillMarkers_numbered ledger document h markers)
        markers marker ?_ (ih hbefore)
      intro hmem
      exact hdisjoint _ hmem _ (List.mem_singleton_self _) rfl

/-- Filling markers moves elements, and loses none. -/
theorem labelsOf_fillMarkers_perm (ledger : Ledger) (document : Document) (h : document.Numbered)
    (markers : List (Element Nat)) :
    (labelsOf (fillMarkers ledger document markers).trees).Perm (labelsOf document.trees) := by
  induction markers using List.reverseRecOn with
  | nil => exact .refl _
  | append_singleton markers marker ih =>
      rw [fillMarkers_append_singleton]
      exact (Document.labelsOf_setText_perm _ (fillMarkers_numbered ledger document h markers)
        _ _).trans ih

/-- A filled marker is still there, and has its text in it and nothing else. -/
theorem mem_fillMarkers (ledger : Ledger) (document : Document) (h : document.Numbered)
    (markers : List (Element Nat)) (hmarkers : markers.Sublist (elementsIn document.nodes))
    (marker : Element Nat) (hmarker : marker ∈ markers) :
    ∃ e ∈ elementsIn (fillMarkers ledger document markers).trees,
      e.label = marker.label ∧ e.children = [.text (markerText ledger marker)] := by
  have hlabel : marker.label ∈ labelsOf (fillMarkers ledger document markers).trees := by
    rw [(labelsOf_fillMarkers_perm ledger document h markers).mem_iff]
    exact mem_labelsOf _ _ (document.mem_trees marker (hmarkers.subset hmarker))
  rcases exists_of_mem_labelsOf _ _ hlabel with ⟨e, he, hsame⟩
  exact ⟨e, he, hsame, fillMarkers_shown_trees ledger document h markers
    (h.nodup_of_sublist markers hmarkers) e he marker hmarker hsame⟩

/-- Filling a marker that shows its text already. -/
theorem fillMarker_eq_self (ledger : Ledger) (document : Document) (h : document.Numbered)
    (marker : Element Nat) (hmem : marker ∈ elementsIn document.nodes)
    (hshown : marker.children = [.text (markerText ledger marker)]) :
    fillMarker ledger document marker = document := by
  -- Nothing changes among the placed trees, nor among the loose ones, and the
  -- text that goes frees no element.
  have hnodes : updateIn marker.label
      (fun e => e.withChildren [.text (markerText ledger marker)]) document.nodes =
        document.nodes := by
    refine updateIn_eq_self _ _ _ fun e he hlabel => ?_
    rw [eq_of_label_eq document.nodes h.nodup_nodes e marker he hmem hlabel, ← hshown]
    rfl
  have hloose : updateIn marker.label
      (fun e => e.withChildren [.text (markerText ledger marker)]) document.loose =
        document.loose :=
    updateIn_of_not_mem _ _ _ (h.not_mem_loose _ (mem_labelsOf _ _ hmem))
  have hfreed : document.childElements marker.label = [] := by
    rw [Document.childElements, document.element?_of_mem h marker (document.mem_trees marker hmem),
      Option.map_some, Option.getD_some, hshown]
    rfl
  show { document with
    nodes := updateIn marker.label
      (fun e => e.withChildren [.text (markerText ledger marker)]) document.nodes
    loose := updateIn marker.label
      (fun e => e.withChildren [.text (markerText ledger marker)]) document.loose ++
        document.childElements marker.label } = document
  rw [hnodes, hloose, hfreed, List.append_nil]

/-- Filling changes nothing exactly if every marker shows its text already. -/
theorem fillMarkers_eq_self_iff (ledger : Ledger) (document : Document) (h : document.Numbered)
    (markers : List (Element Nat)) (hmarkers : markers.Sublist (elementsIn document.nodes)) :
    fillMarkers ledger document markers = document ↔
      ∀ m ∈ markers, m.children = [.text (markerText ledger m)] := by
  have hnodup := h.nodup_of_sublist markers hmarkers
  constructor
  · intro hsame m hm
    have hshown := fillMarkers_shown ledger document markers hnodup
    rw [hsame] at hshown
    exact hshown m (hmarkers.subset hm) m hm rfl
  · intro hshown
    have hmem : ∀ m ∈ markers, m ∈ elementsIn document.nodes := fun m hm => hmarkers.subset hm
    clear hmarkers hnodup
    induction markers with
    | nil => rfl
    | cons marker markers ih =>
        rw [List.forall_mem_cons] at hshown hmem
        rw [fillMarkers, List.foldl_cons, fillMarker_eq_self ledger document h marker hmem.1 hshown.1]
        exact ih hshown.2 hmem.2

end CiteRender
