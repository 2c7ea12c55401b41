import CiteRender.Proofs.Render.OnePass

/-!
# What Is Left of a Tree

The elements that a tree still has once its outermost markers are filled. What
was in a marker is gone, whatever it was, and an element that was in none is
still there with the same tag and the same attributes. So what can be found in a
rendered tree is known from the tree it was rendered from, by asking of each
element whether a marker holds it.

The steps behind the filling change one element each, the placeholder and then
the body. Neither is a marker, and a filled marker has no elements that a change
could reach, so the markers of the tree stay as the filling left them, down to
their texts.

## Main definitions

* `Outside`: An element is in no marker of some trees.
* `Element.filled`: An element whose outermost markers are filled.

## Theorems

* `outside_element_iff`: Being outside, by the place in a tree.
* `mem_fillOutermostIn_iff`: The elements that are left.
* `markersIn_updateIn`: Changes that keep the markers.
* `fillBibliography_default`: The placeholder that gets the list.
* `render_tree`: The tree that a render leaves, and its markers.
* `render_outcome`: How a render with the default names ends.
-/

namespace CiteRender

namespace Node

/-- No marker of some trees has an element in it. -/
def Outside (nodes : List (Node Nat)) (e : Element Nat) : Prop :=
  ∀ m ∈ markersIn nodes, e ∉ elementsIn m.children

theorem markersIn_leaf (node : Node Nat) (rest : List (Node Nat)) (h : node.asElement? = none) :
    markersIn (node :: rest) = markersIn rest := by
  rw [markersIn, elementsIn_leaf node rest h, markersIn]

theorem markersIn_append (nodes more : List (Node Nat)) :
    markersIn (nodes ++ more) = markersIn nodes ++ markersIn more := by
  rw [markersIn, elementsIn_append, List.filter_append, markersIn, markersIn]

theorem mem_markersIn_iff (nodes : List (Node Nat)) (m : Element Nat) :
    m ∈ markersIn nodes ↔ m ∈ elementsIn nodes ∧ m.tag.name = "dt-cite" := by
  rw [markersIn, List.mem_filter, decide_eq_true_iff]

/-- Where an element with children comes first, being outside is decided on each part of
    the tree alone, and by the element for what is in it. -/
theorem outside_element_iff (e : Element Nat) (rest : List (Node Nat))
    (hnodup : (labelsOf (e.node :: rest)).Nodup) :
    Outside (e.node :: rest) e ∧
      (∀ x ∈ elementsIn e.children,
        Outside (e.node :: rest) x ↔ e.tag.name ≠ "dt-cite" ∧ Outside e.children x) ∧
      ∀ x ∈ elementsIn rest, Outside (e.node :: rest) x ↔ Outside rest x := by
  rw [Element.node, labelsOf_element, List.nodup_cons, List.mem_append, not_or] at hnodup
  rcases hnodup with ⟨⟨hinside, hbehind⟩, hnodup⟩
  rcases List.nodup_append.mp hnodup with ⟨-, -, hdisjoint⟩
  -- What is in a marker of one part is in that part.
  have hpart (nodes : List (Node Nat)) (m x : Element Nat) (hm : m ∈ markersIn nodes)
      (hx : x ∈ elementsIn m.children) : x.label ∈ labelsOf nodes :=
    mem_labelsOf nodes x
      (mem_elementsIn_of_mem_children nodes m x ((mem_markersIn_iff nodes m).mp hm).1 hx)
  have hmarkers (x : Element Nat) : Outside (e.node :: rest) x ↔
      (e.tag.name = "dt-cite" → x ∉ elementsIn e.children) ∧ Outside e.children x ∧
        Outside rest x := by
    rw [Outside, markersIn_element, List.forall_mem_append, List.forall_mem_append]
    refine and_congr ?_ Iff.rfl
    by_cases hname : e.tag.name = "dt-cite"
    · simp [hname]
    · simp [hname]
  refine ⟨(hmarkers e).mpr ⟨fun _ he => hinside (mem_labelsOf _ e he), fun m hm he => ?_,
    fun m hm he => ?_⟩, fun x hx => ?_, fun x hx => ?_⟩
  · exact hinside (hpart _ m e hm he)
  · exact hbehind (hpart _ m e hm he)
  · have hrest : Outside rest x := fun m hm hxm =>
      hdisjoint _ (mem_labelsOf _ x hx) _ (hpart rest m x hm hxm) rfl
    rw [hmarkers]
    exact ⟨fun h => ⟨fun hname => h.1 hname hx, h.2.1⟩,
      fun h => ⟨fun hname => absurd hname h.1, h.2, hrest⟩⟩
  · have hchildren : x ∉ elementsIn e.children := fun hmem =>
      hdisjoint _ (mem_labelsOf _ x hmem) _ (mem_labelsOf _ x hx) rfl
    have hout : Outside e.children x := fun m hm hxm =>
      hdisjoint _ (hpart e.children m x hm hxm) _ (mem_labelsOf _ x hx) rfl
    rw [hmarkers]
    exact ⟨fun h => h.2.2, fun h => ⟨fun _ => hchildren, hout, h⟩⟩

end Node

open Node Document

/-- An element whose outermost markers are filled, which may be the element itself. -/
def Element.filled (ledger : Ledger) (e : Element Nat) : Element Nat :=
  e.withChildren <|
    if e.tag.name = "dt-cite" then [.text (markerText ledger e)]
    else fillOutermostIn ledger e.children

theorem Element.filled_opensLike (ledger : Ledger) (e : Element Nat) :
    (e.filled ledger).OpensLike e :=
  ⟨rfl, rfl, rfl⟩

theorem Element.filled_of_marker (ledger : Ledger) (e : Element Nat)
    (hname : e.tag.name = "dt-cite") :
    e.filled ledger = e.withChildren [.text (markerText ledger e)] := by
  rw [Element.filled, if_pos hname]

namespace Node

theorem fillOutermostIn_element (ledger : Ledger) (e : Element Nat) (rest : List (Node Nat)) :
    fillOutermostIn ledger (e.node :: rest) =
      (e.filled ledger).node :: fillOutermostIn ledger rest := by
  rw [fillOutermostIn, Element.node, fillOutermost]
  rfl

/-- The elements that are left when the outermost markers of some trees are filled. -/
theorem mem_fillOutermostIn_iff (ledger : Ledger) (nodes : List (Node Nat))
    (hnodup : (labelsOf nodes).Nodup) :
    ∀ x, x ∈ elementsIn (fillOutermostIn ledger nodes) ↔
      ∃ e ∈ elementsIn nodes, Outside nodes e ∧ e.filled ledger = x := by
  induction nodes using forestInduction with
  | nil => exact fun x => iff_of_false List.not_mem_nil (by rintro ⟨e, he, -⟩; simp at he)
  | leaf node rest hleaf ih =>
      intro x
      rw [labelsOf_leaf node rest hleaf] at hnodup
      rw [fillOutermostIn_leaf ledger node rest hleaf, elementsIn_leaf node _ hleaf,
        elementsIn_leaf node rest hleaf, ih hnodup]
      simp only [Outside, markersIn_leaf node rest hleaf]
  | element label tag attributes contents children rest _ ihchildren ihrest =>
      intro x
      let e : Element Nat := ⟨label, tag, attributes, contents, children⟩
      -- An element is outside of all markers as a whole if it is so in its part of the tree.
      rcases outside_element_iff e rest hnodup with ⟨hself, hinside, hbehind⟩
      rw [labelsOf_element, List.nodup_cons] at hnodup
      rcases List.nodup_append.mp hnodup.2 with ⟨hchildren, hrest, -⟩
      have hfilled : x ∈ elementsIn (e.filled ledger).children ↔
          ∃ y ∈ elementsIn children, (tag.name ≠ "dt-cite" ∧ Outside children y) ∧
            y.filled ledger = x := by
        by_cases hname : tag.name = "dt-cite"
        · -- A text is all that a filled marker has in it.
          rw [e.filled_of_marker ledger hname]
          exact iff_of_false List.not_mem_nil fun ⟨_, _, h, _⟩ => h.1 hname
        · rw [Element.filled, if_neg hname]
          refine (ihchildren hchildren x).trans (exists_congr fun y => and_congr_right fun _ => ?_)
          rw [and_iff_right hname]
      show x ∈ elementsIn (fillOutermostIn ledger (e.node :: rest)) ↔
        ∃ y ∈ elementsIn (e.node :: rest), Outside (e.node :: rest) y ∧ y.filled ledger = x
      rw [fillOutermostIn_element, Element.node, elementsIn_element, List.mem_cons, List.mem_append,
        hfilled, ihrest hrest]
      simp only [Element.node, elementsIn_element, List.mem_cons, List.mem_append]
      constructor
      · rintro (rfl | ⟨y, hy, hout, rfl⟩ | ⟨y, hy, hout, rfl⟩)
        · exact ⟨e, Or.inl rfl, hself, rfl⟩
        · exact ⟨y, Or.inr (Or.inl hy), (hinside y hy).mpr hout, rfl⟩
        · exact ⟨y, Or.inr (Or.inr hy), (hbehind y hy).mpr hout, rfl⟩
      · rintro ⟨y, rfl | hy | hy, hout, rfl⟩
        · exact Or.inl rfl
        · exact Or.inr (Or.inl ⟨y, hy, (hinside y hy).mp hout, rfl⟩)
        · exact Or.inr (Or.inr ⟨y, hy, (hbehind y hy).mp hout, rfl⟩)

/-- No marker of some trees has elements in it. -/
def MarkersHoldNone (nodes : List (Node Nat)) : Prop :=
  ∀ m ∈ markersIn nodes, elementsIn m.children = []

theorem fillOutermostIn_holdNone (ledger : Ledger) (nodes : List (Node Nat))
    (hnodup : (labelsOf nodes).Nodup) : MarkersHoldNone (fillOutermostIn ledger nodes) := by
  intro m hm
  rcases (mem_markersIn_iff _ m).mp hm with ⟨hmem, hname⟩
  rcases (mem_fillOutermostIn_iff ledger nodes hnodup m).mp hmem with ⟨e, -, -, rfl⟩
  rw [e.filled_of_marker ledger hname]
  rfl

/-- A change of an element that is no marker keeps the markers as they are, if it keeps
    those in the element and if no marker has elements in it that it could reach. -/
theorem markersIn_updateIn (id : Nat) (f : Element Nat → Element Nat) (nodes : List (Node Nat))
    (hnone : MarkersHoldNone nodes)
    (hf : ∀ e ∈ elementsIn nodes, e.label = id → e.tag.name ≠ "dt-cite" ∧
      (f e).tag = e.tag ∧ markersIn (f e).children = markersIn e.children) :
    markersIn (updateIn id f nodes) = markersIn nodes := by
  induction nodes using forestInduction with
  | nil => rfl
  | leaf node rest hleaf ih =>
      rw [MarkersHoldNone, markersIn_leaf node rest hleaf] at hnone
      rw [elementsIn_leaf node rest hleaf] at hf
      rw [updateIn_leaf id f node rest hleaf, markersIn_leaf node _ hleaf,
        markersIn_leaf node rest hleaf, ih hnone hf]
  | element label tag attributes contents children rest _ ihchildren ihrest =>
      let e : Element Nat := ⟨label, tag, attributes, contents, children⟩
      have hmarkers : markersIn (.element label tag attributes contents children :: rest) = _ :=
        markersIn_element e rest
      rw [MarkersHoldNone, hmarkers, List.forall_mem_append, List.forall_mem_append] at hnone
      rw [elementsIn_element, List.forall_mem_cons, List.forall_mem_append] at hf
      rcases hnone with ⟨hself, hinside, hbehind⟩
      rw [hmarkers]
      by_cases hlabel : label = id
      · subst hlabel
        rcases hf.1 rfl with ⟨hname, htag, hchildren⟩
        rw [updateIn_self, markersIn_element, htag, hchildren, ihrest hbehind hf.2.2, if_neg hname,
          if_neg hname]
      · have hother : updateIn id f (.element label tag attributes contents children :: rest) =
            (e.withChildren (updateIn id f children)).node :: updateIn id f rest :=
          updateIn_other id label f tag attributes contents children rest hlabel
        rw [hother, markersIn_element, ihrest hbehind hf.2.2]
        by_cases hname : tag.name = "dt-cite"
        · -- The update passes over a marker, as it has no elements.
          have hempty : elementsIn children = [] := hself e (by simp [e, hname])
          have hsame : updateIn id f children = children :=
            updateIn_of_not_mem id f children (by rw [labelsOf_eq, hempty]; exact List.not_mem_nil)
          rw [hsame]
          rfl
        · have hname' : (e.withChildren (updateIn id f children)).tag.name ≠ "dt-cite" := hname
          rw [if_neg hname', if_neg hname]
          exact congrArg (fun markers => [] ++ (markers ++ markersIn rest))
            (ihchildren hinside hf.2.1)

end Node

/-- A list of references has no markers in it. -/
theorem markersIn_referenceList (ledger : Ledger) (id : Nat) :
    markersIn [(referenceList ledger id).node] = [] := by
  rw [markersIn, List.filter_eq_nil_iff]
  intro e he
  have hname := name_of_mem_referenceList ledger id e he "dt-cite" (by simp) (by simp)
  simpa using hname

/-- Appending the list keeps the markers. -/
theorem markersIn_appendToFirst (ledger : Ledger) (id : Nat) (nodes : List (Node Nat))
    (hnodup : (labelsOf nodes).Nodup) (hnone : MarkersHoldNone nodes) :
    markersIn (appendToFirst "dt-bibliography" (referenceList ledger id).node nodes) =
      markersIn nodes := by
  rw [appendToFirst, appendToFirstIn?_eq _ _ nodes hnodup]
  rcases hfound : (elementsIn nodes).find? fun e => e.tag.name = "dt-bibliography" with
    _ | placeholder
  · rw [hfound]
    rfl
  · rw [hfound]
    have hmem := List.mem_of_find?_eq_some hfound
    have hname : placeholder.tag.name = "dt-bibliography" := by
      simpa using List.find?_some hfound
    refine markersIn_updateIn _ _ nodes hnone fun e he hlabel => ⟨?_, rfl, ?_⟩
    · rw [eq_of_label_eq nodes hnodup e placeholder he hmem hlabel, hname]
      decide
    · rw [Element.withChildren, markersIn_append, markersIn_referenceList, List.append_nil]

/-- Setting an attribute of the body keeps the markers. -/
theorem markersIn_setAttribute_body (document : Document) (h : document.Numbered)
    (hnone : MarkersHoldNone document.nodes) (body : Element Nat)
    (hbody : document.body? = some body) (name value : String) :
    markersIn (document.setAttribute body.label name value).nodes = markersIn document.nodes := by
  rcases document.mem_of_body? body hbody with ⟨hmem, hname⟩
  refine markersIn_updateIn _ _ document.nodes hnone fun e he hlabel => ⟨?_, rfl, rfl⟩
  rw [eq_of_label_eq document.nodes h.nodup_nodes e body he hmem hlabel, hname]
  decide

/-- With the default names, the first placeholder gets the list. -/
theorem fillBibliography_default (ledger : Ledger) (document : Document) (h : document.Numbered) :
    fillBibliography {} ledger document =
      .ok (((elementsIn document.nodes).find? fun e => e.tag.name = "dt-bibliography").elim document
        fun placeholder => withReferences ledger document placeholder.label) := by
  have hfirst := selectFirst_bibliography document
  rcases fillBibliography_cases {} ledger document h with
    ⟨error, hfailed, -⟩ | ⟨hnone, hfill⟩ | ⟨placeholder, hfound, hfill, -⟩
  · exact absurd (hfirst.symm.trans hfailed) (by simp)
  · -- Both say what the placeholder is, by the query and by going through the tree.
    rw [hfill, Except.ok.inj (hfirst.symm.trans hnone)]
    rfl
  · rw [hfill, Except.ok.inj (hfirst.symm.trans hfound)]
    rfl

/-- The list changes the elements of no other name than those in it. -/
theorem fillBibliography_numbersOf (ledger : Ledger) (document filled : Document)
    (h : document.Numbered) (hfilled : fillBibliography {} ledger document = .ok filled)
    (name : String) (hol : name ≠ "ol") (hli : name ≠ "li") :
    numbersOf name filled.nodes = numbersOf name document.nodes := by
  rw [fillBibliography_default ledger document h] at hfilled
  obtain rfl := Except.ok.inj hfilled
  rcases hfirst : (elementsIn document.nodes).find? fun e => e.tag.name = "dt-bibliography" with
    _ | placeholder
  · rw [hfirst]
    rfl
  · rw [hfirst]
    exact withReferences_numbersOf ledger document placeholder.label name hol hli

theorem nodup_fillOutermostIn (ledger : Ledger) (document : Document) (h : document.Numbered) :
    (labelsOf (fillOutermostIn ledger document.nodes)).Nodup := by
  rw [← fillMarkers_nodes ledger document h]
  exact (fillMarkers_numbered ledger document h _).nodup_nodes

/-- The list keeps the markers as they were filled, so they hold no elements. -/
theorem markersIn_fillBibliography (ledger : Ledger) (document filled : Document)
    (h : document.Numbered)
    (hfilled : fillBibliography {} ledger
      (fillMarkers ledger document (markersIn document.nodes)) = .ok filled) :
    markersIn filled.nodes = markersIn (fillOutermostIn ledger document.nodes) ∧
      MarkersHoldNone filled.nodes := by
  have hnone := fillOutermostIn_holdNone ledger document.nodes h.nodup_nodes
  have hkept : markersIn filled.nodes = markersIn (fillOutermostIn ledger document.nodes) := by
    rw [(fillBibliography_nodes ledger document filled h hfilled).2]
    exact markersIn_appendToFirst ledger document.next _ (nodup_fillOutermostIn ledger document h)
      hnone
  refine ⟨hkept, ?_⟩
  rw [MarkersHoldNone, hkept]
  exact hnone

/-- Marking the body keeps the markers, whether there is a body or not. -/
theorem markersIn_markRendered (document : Document) (h : document.Numbered)
    (hnone : MarkersHoldNone document.nodes) :
    markersIn (Pipeline.markRendered {} document).state.nodes = markersIn document.nodes := by
  rw [Pipeline.markRendered, mark]
  rcases hbody : document.body? with _ | body
  · rfl
  · exact markersIn_setAttribute_body document h hnone body hbody _ _

/-- What a render that is done, with the default names, leaves of a document and of its
    markers. -/
theorem render_tree (verbose : Bool) (document : Document) (h : document.Numbered)
    (ledger : Ledger)
    (hdone : ((Pipeline.standard {}).render verbose (document, ledger)).failure = none) :
    ∃ rendered known filled body,
      ((Pipeline.standard {}).render verbose (document, ledger)).state = (rendered, known) ∧
      fillBibliography {} known (fillMarkers known document (markersIn document.nodes)) =
        .ok filled ∧ filled.Numbered ∧
      filled.nodes = appendToFirst "dt-bibliography" (referenceList known document.next).node
        (fillOutermostIn known document.nodes) ∧
      filled.body? = some body ∧
      rendered = filled.setAttribute body.label "distill-prerendered" "" ∧
      markersIn filled.nodes = markersIn (fillOutermostIn known document.nodes) ∧
      markersIn rendered.nodes = markersIn (fillOutermostIn known document.nodes) := by
  rcases render_done {} verbose document ledger hdone with
    ⟨rendered, known, markers, filled, hstate, hmarkers, hfilled, hmark⟩
  obtain rfl : markersIn document.nodes = markers :=
    Except.ok.inj ((select_cite document).symm.trans hmarkers)
  rcases fillBibliography_nodes known document filled h hfilled with ⟨hnumbered, hnodes⟩
  rcases markersIn_fillBibliography known document filled h hfilled with ⟨hkept, hnone⟩
  rw [mark] at hmark
  -- A render that is done found a body to mark.
  rcases hbody : filled.body? with _ | body
  · rw [hbody] at hmark
    exact absurd hmark (by simp)
  · rw [hbody] at hmark
    obtain rfl := Except.ok.inj hmark
    refine ⟨_, known, filled, body, hstate, hfilled, hnumbered, hnodes, hbody, rfl, hkept, ?_⟩
    rw [← hkept]
    exact markersIn_setAttribute_body filled hnumbered hnone body hbody _ _

/-- A render with the default names fails in extraction or in marking the body, and in
    between it fills the markers and the bibliography. -/
theorem render_outcome (verbose : Bool) (document : Document) (h : document.Numbered)
    (ledger : Ledger) :
    let run := (Pipeline.standard {}).render verbose (document, ledger)
    let extracted := runStages .extract verbose document (Pipeline.standard {}).extractors ledger
    (∃ error, extracted.failure = some error ∧ run.failure = some error ∧
      run.state = (document, extracted.state)) ∨
    (extracted.failure = none ∧ ∃ filled,
      fillBibliography {} extracted.state
        (fillMarkers extracted.state document (markersIn document.nodes)) = .ok filled ∧
      run.failure = (Pipeline.markRendered {} filled).failure ∧
      run.state = ((Pipeline.markRendered {} filled).state, extracted.state)) := by
  intro run extracted
  -- There is one transform, and with the default names it is done.
  have hstage := runStages_singleton .transform verbose extracted.state (renderCitations {}) document
  have hdone : ((renderCitations {}).run verbose extracted.state document).failure = none ∧
      fillBibliography {} extracted.state
        (fillMarkers extracted.state document (markersIn document.nodes)) =
          .ok ((renderCitations {}).run verbose extracted.state document).state :=
    renderCitations_default verbose extracted.state document h
  rcases (Pipeline.standard {}).render_cases verbose document ledger with
    ⟨error, hextracted, hstate, hfailure⟩ | ⟨-, error, htransformed, -, -⟩ |
      ⟨hextracted, -, hstate, hfailure⟩
  · exact Or.inl ⟨error, hextracted, hfailure, hstate⟩
  · have hnone := hstage.2
    rw [hdone.1] at hnone
    exact absurd (htransformed.symm.trans hnone) (by simp)
  · refine Or.inr ⟨hextracted, _, hdone.2, ?_, ?_⟩
    · exact hfailure.trans (by rw [← hstage.1]; rfl)
    · exact hstate.trans (by rw [← hstage.1]; rfl)

end CiteRender
