import CiteRender.Proofs.Render.Agreement

/-!
# Markers Filled in One Pass

The stage that renders citations finds all markers first and then fills them one
after the other. While it does, a marker that was found may lose its place,
because one that holds it is filled before it. Here the tree that is left is
computed without any of that: one pass from the top fills a marker where it
meets one and does not look into it.

Filling one marker after the other comes to the same, and the reason is in the
numbers. A fill changes the element that has a marker's number, and once an
outer marker is filled the numbers of those inside it are nowhere in the tree,
so their fills do nothing there. Everything else in the tree is passed by both.

The list of references is then appended where the pass has left a placeholder.
The first placeholder of a tree is found by going through it as well, so this
too is said without a number.

## Main definitions

* `Node.fillOutermostIn`: Trees with their outermost markers filled.
* `Node.appendToFirst`: Trees with a node appended to the first element of a
  name.

## Theorems

* `fillEach_append`, `fillEach_element`: Fills reach each part of a tree alone.
* `fillEach_markersIn`, `fillMarkers_nodes`: Filling one by one is one pass.
* `appendToFirstIn?_eq`: The first element of a name by its number.
* `fillBibliography_nodes`: The tree a rendered list leaves.
* `renderCitations_onePass`: What the stage leaves of a tree.
-/

namespace CiteRender

namespace Node

mutual

/-- A tree with its outermost markers filled. What is in a marker gives way to its
    text, and what is in any other element is passed through. -/
def fillOutermost (ledger : Ledger) : Node Nat → Node Nat
  | .element label tag attributes contents children =>
    .element label tag attributes contents <|
      if tag.name = "dt-cite" then
        [.text (markerText ledger ⟨label, tag, attributes, contents, children⟩)]
      else fillOutermostIn ledger children
  | node => node

/-- Trees with their outermost markers filled. -/
def fillOutermostIn (ledger : Ledger) : List (Node Nat) → List (Node Nat)
  | [] => []
  | node :: rest => fillOutermost ledger node :: fillOutermostIn ledger rest

end

mutual

/-- A tree with a node appended to the children of the first element of a name,
    if it has such an element. -/
def appendToFirst? (name : String) (last : Node Nat) : Node Nat → Option (Node Nat)
  | .element label tag attributes contents children =>
    (if tag.name = name then some (children ++ [last]) else appendToFirstIn? name last children).map
      fun children => .element label tag attributes contents children
  | _ => none

/-- Trees with a node appended to the children of the first element of a name, if
    they have such an element. -/
def appendToFirstIn? (name : String) (last : Node Nat) :
    List (Node Nat) → Option (List (Node Nat))
  | [] => none
  | node :: rest =>
    match appendToFirst? name last node with
    | some node => some (node :: rest)
    | none => (appendToFirstIn? name last rest).map (node :: ·)

end

/-- Trees with a node appended to the children of the first element of a name, or
    as they are if they have none. -/
def appendToFirst (name : String) (last : Node Nat) (nodes : List (Node Nat)) :
    List (Node Nat) :=
  (appendToFirstIn? name last nodes).getD nodes

theorem fillOutermostIn_leaf (ledger : Ledger) (node : Node Nat) (rest : List (Node Nat))
    (h : node.asElement? = none) :
    fillOutermostIn ledger (node :: rest) = node :: fillOutermostIn ledger rest := by
  cases node with
  | element => simp [asElement?] at h
  | _ => rfl

theorem appendToFirst?_leaf (name : String) (last node : Node Nat)
    (h : node.asElement? = none) : appendToFirst? name last node = none := by
  cases node with
  | element => simp [asElement?] at h
  | _ => rfl

/-- Trees with the elements of some numbers filled, one after the other. -/
def fillEach (ledger : Ledger) (markers : List (Element Nat)) (nodes : List (Node Nat)) :
    List (Node Nat) :=
  markers.foldl (fun nodes marker =>
    updateIn marker.label (fun e => e.withChildren [.text (markerText ledger marker)]) nodes) nodes

@[simp] theorem fillEach_nil (ledger : Ledger) (nodes : List (Node Nat)) :
    fillEach ledger [] nodes = nodes := rfl

theorem fillEach_cons (ledger : Ledger) (marker : Element Nat) (markers : List (Element Nat))
    (nodes : List (Node Nat)) :
    fillEach ledger (marker :: markers) nodes =
      fillEach ledger markers (updateIn marker.label
        (fun e => e.withChildren [.text (markerText ledger marker)]) nodes) := rfl

theorem fillEach_append_markers (ledger : Ledger) (markers more : List (Element Nat))
    (nodes : List (Node Nat)) :
    fillEach ledger (markers ++ more) nodes = fillEach ledger more (fillEach ledger markers nodes) :=
  List.foldl_append ..

/-- Markers that are nowhere in some trees are filled nowhere in them. -/
theorem fillEach_of_disjoint (ledger : Ledger) (markers : List (Element Nat))
    (nodes : List (Node Nat)) (h : ∀ m ∈ markers, m.label ∉ labelsOf nodes) :
    fillEach ledger markers nodes = nodes := by
  induction markers with
  | nil => rfl
  | cons marker markers ih =>
      rw [List.forall_mem_cons] at h
      rw [fillEach_cons, updateIn_of_not_mem _ _ nodes h.1, ih h.2]

/-- Fills reach each of some trees alone. -/
theorem fillEach_append (ledger : Ledger) (markers : List (Element Nat))
    (nodes more : List (Node Nat)) :
    fillEach ledger markers (nodes ++ more) =
      fillEach ledger markers nodes ++ fillEach ledger markers more := by
  induction markers generalizing nodes more with
  | nil => rfl
  | cons marker markers ih => rw [fillEach_cons, updateIn_append, ih, fillEach_cons, fillEach_cons]

/-- Fills of others than an element reach what is in it. -/
theorem fillEach_element (ledger : Ledger) (markers : List (Element Nat)) (e : Element Nat)
    (h : ∀ m ∈ markers, m.label ≠ e.label) :
    fillEach ledger markers [e.node] = [(e.withChildren (fillEach ledger markers e.children)).node] := by
  induction markers generalizing e with
  | nil => rfl
  | cons marker markers ih =>
      rw [List.forall_mem_cons] at h
      let fill (x : Element Nat) := x.withChildren [.text (markerText ledger marker)]
      have hfirst : updateIn marker.label fill [e.node] =
          [(e.withChildren (updateIn marker.label fill e.children)).node] :=
        updateIn_other _ _ _ _ _ _ _ [] (Ne.symm h.1)
      rw [fillEach_cons, hfirst]
      exact ih _ h.2

/-- Fills bring no numbers into a tree. -/
theorem mem_labelsOf_fillEach (ledger : Ledger) (markers : List (Element Nat))
    (nodes : List (Node Nat)) (id : Nat) (hid : id ∈ labelsOf (fillEach ledger markers nodes)) :
    id ∈ labelsOf nodes := by
  induction markers generalizing nodes with
  | nil => exact hid
  | cons marker markers ih =>
      have hfirst := ih _ hid
      rw [labelsOf_eq] at hfirst
      rcases List.mem_map.mp hfirst with ⟨x, hx, rfl⟩
      -- What is filled in is a text, which has no number.
      exact forall_updateIn (fun e => e.label ∈ labelsOf nodes) marker.label
        (fun e => e.withChildren [.text (markerText ledger marker)]) nodes
        (fun e he _ => ⟨mem_labelsOf nodes e he, fun _ hx => absurd hx List.not_mem_nil⟩)
        (fun e he _ => mem_labelsOf nodes e he) x hx

/-- Of some markers, those that are nowhere in a tree need not be filled in it. -/
theorem fillEach_append_disjoint (ledger : Ledger) (markers more : List (Element Nat))
    (nodes : List (Node Nat)) (h : ∀ m ∈ more, m.label ∉ labelsOf nodes) :
    fillEach ledger (markers ++ more) nodes = fillEach ledger markers nodes := by
  rw [fillEach_append_markers]
  exact fillEach_of_disjoint ledger more _ fun m hm hmem =>
    h m hm (mem_labelsOf_fillEach ledger markers nodes _ hmem)

/-- The markers of some trees, in document order. -/
def markersIn (nodes : List (Node Nat)) : List (Element Nat) :=
  (elementsIn nodes).filter fun e => e.tag.name = "dt-cite"

theorem label_mem_of_mem_markersIn (nodes : List (Node Nat)) (m : Element Nat)
    (hm : m ∈ markersIn nodes) : m.label ∈ labelsOf nodes :=
  mem_labelsOf nodes m (List.mem_filter.mp hm).1

theorem markersIn_element (e : Element Nat) (rest : List (Node Nat)) :
    markersIn (e.node :: rest) =
      (if e.tag.name = "dt-cite" then [e] else []) ++ (markersIn e.children ++ markersIn rest) := by
  rw [markersIn, Element.node, elementsIn_element, List.filter_cons, List.filter_append]
  by_cases hname : e.tag.name = "dt-cite"
  · simp [hname, markersIn]
  · simp [hname, markersIn]

/-- An element that is filled in one pass, if what is in it is. -/
theorem fillEach_self (ledger : Ledger) (e : Element Nat)
    (hinside : e.label ∉ labelsOf e.children)
    (hchildren : fillEach ledger (markersIn e.children) e.children =
      fillOutermostIn ledger e.children) :
    fillEach ledger ((if e.tag.name = "dt-cite" then [e] else []) ++ markersIn e.children)
      [e.node] = [fillOutermost ledger e.node] := by
  have hother : ∀ m ∈ markersIn e.children, m.label ≠ e.label := fun m hm heq =>
    hinside (heq ▸ label_mem_of_mem_markersIn e.children m hm)
  rw [Element.node, fillOutermost]
  by_cases hname : e.tag.name = "dt-cite"
  · rw [if_pos hname, if_pos hname, List.singleton_append, fillEach_cons, updateIn_self]
    -- The markers inside have lost their place.
    refine fillEach_of_disjoint ledger _ _ fun m hm hmem => ?_
    rw [updateIn, Element.node, labelsOf_element, List.mem_cons] at hmem
    rcases hmem with heq | hmem
    · exact hother m hm heq
    · exact absurd hmem List.not_mem_nil
  · rw [if_neg hname, if_neg hname, List.nil_append]
    have helement := fillEach_element ledger _ e hother
    rw [hchildren] at helement
    exact helement

/-- Filling the markers of some trees one by one is one pass. -/
theorem fillEach_markersIn (ledger : Ledger) (nodes : List (Node Nat))
    (hnodup : (labelsOf nodes).Nodup) :
    fillEach ledger (markersIn nodes) nodes = fillOutermostIn ledger nodes := by
  induction nodes using forestInduction with
  | nil => rfl
  | leaf node rest hleaf ih =>
      have hmarkers : markersIn (node :: rest) = markersIn rest := by
        rw [markersIn, elementsIn_leaf node rest hleaf, markersIn]
      have hnode : fillEach ledger (markersIn rest) [node] = [node] :=
        fillEach_of_disjoint ledger _ _ fun m _ hmem => by
          rw [labelsOf_leaf node [] hleaf] at hmem
          exact absurd hmem List.not_mem_nil
      rw [labelsOf_leaf node rest hleaf] at hnodup
      rw [hmarkers, fillOutermostIn_leaf ledger node rest hleaf, ← ih hnodup,
        ← List.singleton_append, fillEach_append, hnode]
      rfl
  | element label tag attributes contents children rest _ ihchildren ihrest =>
      rw [labelsOf_element, List.nodup_cons, List.mem_append, not_or] at hnodup
      rcases hnodup with ⟨⟨hinside, hbehind⟩, hnodup⟩
      rcases List.nodup_append.mp hnodup with ⟨hchildren, hrest, hdisjoint⟩
      let e : Element Nat := ⟨label, tag, attributes, contents, children⟩
      let own := (if e.tag.name = "dt-cite" then [e] else []) ++ markersIn children
      -- The element's own markers are not behind it, and those behind it not in it.
      have hown : fillEach ledger own rest = rest := by
        refine fillEach_of_disjoint ledger _ _ fun m hm hmem => ?_
        rcases List.mem_append.mp hm with hm | hm
        · by_cases hname : e.tag.name = "dt-cite"
          · rw [if_pos hname, List.mem_singleton] at hm
            rw [hm] at hmem
            exact hbehind hmem
          · rw [if_neg hname] at hm
            exact absurd hm List.not_mem_nil
        · exact hdisjoint _ (label_mem_of_mem_markersIn children m hm) _ hmem rfl
      have hother : ∀ m ∈ markersIn rest, m.label ∉ labelsOf [e.node] := by
        intro m hm hmem
        have hlabel := label_mem_of_mem_markersIn rest m hm
        rw [Element.node, labelsOf_element, List.mem_cons, List.mem_append] at hmem
        rcases hmem with heq | hmem | hmem
        · rw [heq] at hlabel
          exact hbehind hlabel
        · exact hdisjoint _ hmem _ hlabel rfl
        · exact absurd hmem List.not_mem_nil
      show fillEach ledger (markersIn (e.node :: rest)) ([e.node] ++ rest) =
        [fillOutermost ledger e.node] ++ fillOutermostIn ledger rest
      rw [markersIn_element, ← List.append_assoc, fillEach_append,
        fillEach_append_disjoint ledger own _ _ hother, fillEach_append_markers ledger own, hown,
        ihrest hrest, fillEach_self ledger e hinside (ihchildren hchildren)]

/-- The first element of a name gets a node, and it is the element of its number. -/
theorem appendToFirstIn?_eq (name : String) (last : Node Nat) (nodes : List (Node Nat))
    (hnodup : (labelsOf nodes).Nodup) :
    appendToFirstIn? name last nodes =
      ((elementsIn nodes).find? fun e => e.tag.name = name).map fun e =>
        updateIn e.label (fun x => x.withChildren (x.children ++ [last])) nodes := by
  induction nodes using forestInduction with
  | nil => rfl
  | leaf node rest hleaf ih =>
      rw [labelsOf_leaf node rest hleaf] at hnodup
      rw [appendToFirstIn?, appendToFirst?_leaf name last node hleaf,
        elementsIn_leaf node rest hleaf, ih hnodup, Option.map_map]
      refine Option.map_congr fun e _ => ?_
      rw [updateIn_leaf _ _ node rest hleaf]
      rfl
  | element label tag attributes contents children rest _ ihchildren ihrest =>
      rw [labelsOf_element, List.nodup_cons, List.mem_append, not_or] at hnodup
      rcases hnodup with ⟨⟨hinside, hbehind⟩, hnodup⟩
      rcases List.nodup_append.mp hnodup with ⟨hchildren, hrest, hdisjoint⟩
      rw [appendToFirstIn?, appendToFirst?, elementsIn_element]
      by_cases hname : tag.name = name
      · rw [if_pos hname, List.find?_cons_of_pos (by simpa using hname), Option.map_some,
          Option.map_some, updateIn_self, updateIn_of_not_mem _ _ rest hbehind]
        rfl
      · rw [if_neg hname, List.find?_cons_of_neg (by simpa using hname), List.find?_append,
          ihchildren hchildren, ihrest hrest]
        -- The first element of the name is inside, or else behind.
        rcases hfirst : (elementsIn children).find? fun e => e.tag.name = name with _ | x
        · rw [hfirst, Option.none_or]
          rcases hsecond : (elementsIn rest).find? fun e => e.tag.name = name with _ | x
          · rw [hsecond]
            rfl
          · have hx := mem_labelsOf rest x (List.mem_of_find?_eq_some hsecond)
            have hne : label ≠ x.label := fun heq => hbehind (heq ▸ hx)
            have hnot : x.label ∉ labelsOf children := fun hmem => hdisjoint _ hmem _ hx rfl
            rw [hsecond]
            dsimp only [Option.map_none, Option.map_some]
            rw [updateIn_other _ _ _ _ _ _ _ _ hne, updateIn_of_not_mem _ _ children hnot]
        · have hx := mem_labelsOf children x (List.mem_of_find?_eq_some hfirst)
          have hne : label ≠ x.label := fun heq => hinside (heq ▸ hx)
          have hnot : x.label ∉ labelsOf rest := fun hmem => hdisjoint _ hx _ hmem rfl
          rw [hfirst, Option.some_or]
          dsimp only [Option.map_some]
          rw [updateIn_other _ _ _ _ _ _ _ _ hne, updateIn_of_not_mem _ _ rest hnot]

end Node

open Node Document

/-- The markers of a document filled one by one, in one pass. -/
theorem fillMarkers_nodes (ledger : Ledger) (document : Document) (h : document.Numbered) :
    (fillMarkers ledger document (markersIn document.nodes)).nodes =
      fillOutermostIn ledger document.nodes := by
  have heach (markers : List (Element Nat)) (document : Document) :
      (fillMarkers ledger document markers).nodes = fillEach ledger markers document.nodes := by
    induction markers generalizing document with
    | nil => rfl
    | cons marker markers ih => exact ih (fillMarker ledger document marker)
  rw [heach, fillEach_markersIn ledger document.nodes h.nodup_nodes]

/-- Filling markers takes no new numbers. -/
theorem fillMarkers_next (ledger : Ledger) (document : Document) (markers : List (Element Nat)) :
    (fillMarkers ledger document markers).next = document.next := by
  induction markers generalizing document with
  | nil => rfl
  | cons marker markers ih => exact ih (fillMarker ledger document marker)

/-- The tree with its markers filled and its list appended. -/
theorem fillBibliography_nodes (ledger : Ledger) (document filled : Document)
    (h : document.Numbered)
    (hfilled : fillBibliography {} ledger
      (fillMarkers ledger document (markersIn document.nodes)) = .ok filled) :
    filled.Numbered ∧
      filled.nodes = appendToFirst "dt-bibliography" (referenceList ledger document.next).node
        (fillOutermostIn ledger document.nodes) := by
  let marked := fillMarkers ledger document (markersIn document.nodes)
  have hmarked : marked.Numbered := fillMarkers_numbered ledger document h _
  have hnext : marked.next = document.next := fillMarkers_next ledger document _
  have hplace := appendToFirstIn?_eq "dt-bibliography" (referenceList ledger marked.next).node
    marked.nodes hmarked.nodup_nodes
  have hfirst := selectFirst_bibliography marked
  rw [← fillMarkers_nodes ledger document h, ← hnext, appendToFirst, hplace]
  rcases fillBibliography_ok {} ledger marked filled hmarked hfilled with
    ⟨hnumbered, ⟨hnone, rfl⟩ | ⟨placeholder, hfound, rfl⟩⟩
  · -- There is no placeholder, and appending does nothing.
    rw [Except.ok.inj (hfirst.symm.trans hnone)]
    exact ⟨hnumbered, rfl⟩
  · -- The list goes to the placeholder by its number.
    rw [Except.ok.inj (hfirst.symm.trans hfound)]
    exact ⟨hnumbered, rfl⟩

/-- What rendering the citations of a document leaves of its tree, with the default
    names. It never fails. Its outermost markers are filled in one pass that
    keeps everything else as it is, and the first placeholder that is left, if any,
    gets one list behind what it had in it, with an item for each cited key. -/
theorem renderCitations_onePass (verbose : Bool) (ledger : Ledger) (document : Document)
    (h : document.Numbered) :
    let run := (renderCitations {}).run verbose ledger document
    run.failure = none ∧ ∃ items, List.Forall₂ (IsItemOf ledger) ledger.cited items ∧
      run.state.nodes =
        appendToFirst "dt-bibliography" (.element document.next (Tag.html "ol") [] [] items)
          (fillOutermostIn ledger document.nodes) := by
  intro run
  rcases renderCitations_default verbose ledger document h with ⟨hdone, hfilled⟩
  have hitems := listItems_areItems ledger ledger.cited (document.next + 1)
  exact ⟨hdone, _, hitems, (fillBibliography_nodes ledger document run.state h hfilled).2⟩

/-- A marker with another and a placeholder inside, both of which lose their
    place, and a placeholder behind it. -/
theorem renderCitations_onePass_nested :
    let document := Document.parse
      ("<dt-cite key=a><dt-cite key=b></dt-cite><dt-bibliography></dt-bibliography></dt-cite>" ++
        "<p><dt-cite></dt-cite></p><dt-bibliography>x</dt-bibliography>")
    let ledger : Ledger := { cited := ["a", "b"] }
    let run := (renderCitations {}).run false ledger document
    run.failure = none ∧ ∃ items, List.Forall₂ (IsItemOf ledger) ledger.cited items ∧
      run.state.nodes =
        appendToFirst "dt-bibliography" (.element document.next (Tag.html "ol") [] [] items)
          (fillOutermostIn ledger document.nodes) :=
  renderCitations_onePass false _ _ (Document.parse_numbered _)

end CiteRender
