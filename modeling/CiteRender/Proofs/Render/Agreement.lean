import CiteRender.Proofs.Citation.Keys
import CiteRender.Proofs.Render.Numbering
import CiteRender.Proofs.Render.Stages

/-!
# Markers and References Agree

A render reads the keys of the markers once to number them, and once more to
show the numbers, and lists the numbered keys in a third place. That the three
agree is what a reader relies on who follows the number in a marker to the list.

The keys are read from attributes, and a render changes no attribute of a
marker. So the keys that a marker shows are those it had when the keys were
recorded, and each of them has a number. What is left to chance is only whether
a key has an entry, and where it has none the marker says so.

Two properties of trees carry the argument through the steps after the markers
are filled. Every marker shows its text, and the placeholder ends in the list.
Neither the list nor the mark on the body disturbs them, since what is put in
is never a marker or a placeholder, and the body is neither.

## Main definitions

* `ShowsKey`, `ShowsKeys`: What stands in a marker, for a key and for all.
* `IsItemOf`, `IsListOf`: The item of a key, and the list of all items.
* `Agrees`: Markers and list of a rendered document agree with its ledger.

## Theorems

* `cited_of_render`: The ledger after a render numbers the keys of its markers.
* `showsKeys_of_text`: A marker with its text shows its keys.
* `renderCitations_default`: With the default names the stage is done.
* `render_agrees`: A render that is done leaves a document that agrees.
-/

namespace CiteRender

open Node Document

/-- What stands in a marker for a key: its number if it has an entry, counted
    from one, and a question mark otherwise. -/
inductive ShowsKey (ledger : Ledger) (key : String) : List Char → Prop
  | number (n : Nat) (hcited : ledger.cited[n]? = some key)
      (hentry : (ledger.entry key).isSome) : ShowsKey ledger key (decimal (n + 1))
  | placeholder (hentry : ledger.entry key = none) : ShowsKey ledger key ['?']

/-- A marker has one text in it. It shows the keys of the marker in brackets,
    or a question mark if there are none. -/
def ShowsKeys (ledger : Ledger) (marker : Element Nat) : Prop :=
  ∃ text, marker.children = [.text text] ∧
    if markerKeys marker = [] then text = "[?]"
    else ∃ shown, List.Forall₂ (ShowsKey ledger) (markerKeys marker) shown ∧
      text = String.ofList ('[' :: [',', ' '].intercalate shown ++ [']'])

/-- A node is the item of a key: it has the line of the key in it, which is a
    question mark if the key has no entry. -/
def IsItemOf (ledger : Ledger) (key : String) (node : Node Nat) : Prop :=
  ∃ id, node = Node.element id (Tag.html "li") [] []
    [.text (lineText (bibliographyLine (ledger.entry key)))]

/-- A node is a list of references: its children are the items of the cited
    keys, in order, and a number that is shown for a key counts to its item. -/
def IsListOf (ledger : Ledger) (node : Node Nat) : Prop :=
  ∃ id items, node = Node.element id (Tag.html "ol") [] [] items ∧
    List.Forall₂ (IsItemOf ledger) ledger.cited items ∧
    ∀ key n, ledger.numericReference key = .resolved n →
      1 ≤ n ∧ ∃ item, items[n - 1]? = some item ∧ IsItemOf ledger key item

/-- A rendered document agrees with its ledger. The document with its markers
    filled says which placeholder gets the list. -/
structure Agrees (filled rendered : Document) (ledger : Ledger) : Prop where
  /-- the filled markers are found, and every marker that is found shows its keys -/
  markers : ∃ found kept, rendered.select "dt-cite" = .ok found ∧
    filled.select "dt-cite" = .ok kept ∧ found.map Element.label = kept.map Element.label ∧
    ∀ m ∈ found, ShowsKeys ledger m
  /-- the first placeholder ends in the list of the cited keys -/
  list : ∀ placeholder, filled.selectFirst "dt-bibliography" = .ok (some placeholder) →
    ∃ found node, rendered.selectFirst "dt-bibliography" = .ok (some found) ∧
      found.label = placeholder.label ∧ found.children.getLast? = some node ∧
      IsListOf ledger node

/-- No marker names the empty key. -/
theorem empty_not_mem_markerKeys (marker : Element Nat) : "" ∉ markerKeys marker := by
  intro hmem
  rw [markerKeys] at hmem
  rcases hkey : marker.attribute? "key" with _ | text
  · simp [hkey] at hmem
  · rw [hkey, Option.map_some, Option.getD_some] at hmem
    exact (isKey_of_mem_splitKeys text "" hmem).ne_empty rfl

/-- The ledger after a render that is done: it numbers every key of every marker
    of the document, and never the empty key. -/
theorem cited_of_render (config : Config) (verbose : Bool) (document : Document) (ledger : Ledger)
    (hnodup : ledger.cited.Nodup) (hempty : "" ∉ ledger.cited) (markers : List (Element Nat))
    (hmarkers : document.select config.citeTag = .ok markers)
    (hdone : ((Pipeline.standard config).render verbose (document, ledger)).failure = none) :
    let known := ((Pipeline.standard config).render verbose (document, ledger)).state.2
    known.cited.Nodup ∧ "" ∉ known.cited ∧
      ∀ m ∈ markers, ∀ key ∈ markerKeys m, key ∈ known.cited := by
  intro known
  -- The bibliography blocks were read, or the render would have stopped.
  have hextracted : (runStages .extract verbose document (Pipeline.standard config).extractors
      ledger).failure = none := by
    rcases (Pipeline.standard config).render_cases verbose document ledger with
      ⟨error, -, -, herror⟩ | ⟨h, -⟩ | ⟨h, -⟩
    · rw [hdone] at herror
      simp at herror
    · exact h
    · exact h
  have hreadable : isReadable config document = true := by
    rw [Pipeline.standard, runStages, Run.forEach, Run.andThen_failure_eq_none_iff, runStage,
      Option.map_eq_none_iff] at hextracted
    exact (extractBibliography_failure_eq_none_iff config verbose document ledger).mp hextracted.1
  have hknown := render_recordsOf config verbose document ledger.cited ledger
    (eraseDups_of_nodup ledger.cited hnodup).symm
  rw [if_pos hreadable, namedKeys, hmarkers, RecordsOf] at hknown
  dsimp only at hknown
  have hmem (key : String) :
      key ∈ known.cited ↔ key ∈ ledger.cited ∨ key ∈ markers.flatMap markerKeys := by
    rw [hknown, List.mem_eraseDups, List.mem_append]
  refine ⟨?_, ?_, fun m hm key hkey => ?_⟩
  · rw [hknown]
    exact nodup_eraseDups _
  · rw [hmem, not_or]
    refine ⟨hempty, fun hmarker => ?_⟩
    rcases List.mem_flatMap.mp hmarker with ⟨m, -, hm⟩
    exact empty_not_mem_markerKeys m hm
  · exact (hmem key).mpr (Or.inr (List.mem_flatMap.mpr ⟨m, hm, hkey⟩))

/-- The number of a cited key counts to its place. -/
theorem showsKey_of_cited (ledger : Ledger) (key : String) (hkey : key ∈ ledger.cited) :
    ShowsKey ledger key ((ledger.numericReference key).text decimal) := by
  rw [Ledger.numericReference]
  -- A cited key has a number, so only its entry can be missing.
  rcases hentry : ledger.entry key with _ | entry
  · exact ShowsKey.placeholder hentry
  · rcases hplace : ledger.cited.idxOf? key with _ | n
    · exact absurd hkey (List.idxOf?_eq_none_iff.mp hplace)
    · rcases List.idxOf?_eq_some_iff.mp hplace with ⟨hlt, hat, -⟩
      rw [Ledger.number, hplace]
      refine ShowsKey.number n ?_ (by rw [hentry]; rfl)
      rw [List.getElem?_eq_getElem hlt, hat]

/-- A marker with its text shows its keys, if they are cited. -/
theorem showsKeys_of_text (ledger : Ledger) (hempty : "" ∉ ledger.cited) (marker : Element Nat)
    (hkeys : ∀ key ∈ markerKeys marker, key ∈ ledger.cited)
    (htext : marker.children = [.text (markerText ledger marker)]) : ShowsKeys ledger marker := by
  refine ⟨markerText ledger marker, htext, ?_⟩
  rw [markerText, markerReferences, shownKeys]
  rcases hnamed : markerKeys marker with _ | ⟨key, keys⟩
  · -- The empty key has no number, whether it has an entry or not.
    have hnone : ledger.number "" = none := by
      rw [Ledger.number, List.idxOf?_eq_none_iff.mpr hempty, Option.map_none]
    have hmissing : ledger.numericReference "" = .missing := by
      rw [Ledger.numericReference, hnone]
      rcases ledger.entry "" with _ | entry
      · rfl
      · rfl
    rw [if_pos rfl, Ledger.numeric, List.map_cons, List.map_nil, hmissing]
    rfl
  · rw [if_neg (List.cons_ne_nil key keys)]
    rw [hnamed] at hkeys
    refine ⟨_, ?_, rfl⟩
    rw [Ledger.numeric, List.map_map, List.forall₂_map_right_iff, List.forall₂_same]
    exact fun key hkey => showsKey_of_cited ledger key (hkeys key hkey)

/-- In some trees, every marker has its text in it, and names only cited keys. -/
def MarkersShow (ledger : Ledger) (nodes : List (Node Nat)) : Prop :=
  ∀ e ∈ elementsIn nodes, e.tag.name = "dt-cite" →
    e.children = [.text (markerText ledger e)] ∧ ∀ key ∈ markerKeys e, key ∈ ledger.cited

/-- In some trees, the placeholder of a number ends in a node. -/
def EndsIn (node : Node Nat) (placeholder : Nat) (nodes : List (Node Nat)) : Prop :=
  ∀ e ∈ elementsIn nodes, e.tag.name = "dt-bibliography" → e.label = placeholder →
    e.children.getLast? = some node

/-- Once the markers of a document are filled, every marker shows its text. -/
theorem fillMarkers_markersShow (ledger : Ledger) (document : Document) (h : document.Numbered)
    (markers : List (Element Nat))
    (hmarkers : markers = (elementsIn document.nodes).filter fun e => e.tag.name = "dt-cite")
    (hkeys : ∀ m ∈ markers, ∀ key ∈ markerKeys m, key ∈ ledger.cited) :
    MarkersShow ledger (fillMarkers ledger document markers).nodes := by
  intro e he htag
  have hnodup : (markers.map Element.label).Nodup := by
    rw [hmarkers]
    exact h.nodup_of_sublist _ List.filter_sublist
  -- The element was a marker of the original, under the same number.
  rcases fillMarkers_opensLike ledger document markers e he with ⟨x, hx, hlike⟩
  have hmarker : x ∈ markers := by
    rw [hmarkers]
    refine List.mem_filter.mpr ⟨hx, decide_eq_true ?_⟩
    rw [← hlike.2.1]
    exact htag
  constructor
  · rw [fillMarkers_shown ledger document markers hnodup e he x hmarker hlike.1,
      markerText_of_opensLike ledger e x hlike]
  · rw [markerKeys_of_opensLike e x hlike]
    exact hkeys x hmarker

/-- A list of references is made of its two tags and nothing else. -/
theorem name_of_mem_referenceList (ledger : Ledger) (id : Nat) (e : Element Nat)
    (he : e ∈ elementsIn [(referenceList ledger id).node]) (name : String) (hol : name ≠ "ol")
    (hli : name ≠ "li") : e.tag.name ≠ name := by
  rcases tag_of_mem_referenceList ledger id e he with htag | htag
  · rw [htag]
    exact hol.symm
  · rw [htag]
    exact hli.symm

/-- The list disturbs no marker, as it goes into a placeholder. -/
theorem withReferences_markersShow (ledger : Ledger) (document : Document)
    (h : document.Numbered) (placeholder : Element Nat)
    (hplaceholder : placeholder ∈ elementsIn document.nodes)
    (hname : placeholder.tag.name = "dt-bibliography")
    (hshow : MarkersShow ledger document.nodes) :
    MarkersShow ledger (withReferences ledger document placeholder.label).nodes := by
  refine forall_updateIn _ _ _ _ ?_ ?_
  · intro e he hlabel
    constructor
    · intro htag
      have hsame := eq_of_label_eq document.nodes h.nodup_nodes e placeholder he hplaceholder hlabel
      rw [← hsame, show e.tag.name = "dt-cite" from htag] at hname
      exact absurd hname (by simp)
    · intro x hx htag
      rw [Element.withChildren, elementsIn_append, List.mem_append] at hx
      rcases hx with hx | hx
      · exact hshow x (mem_elementsIn_of_mem_children _ e x he hx) htag
      · exact absurd htag
          (name_of_mem_referenceList ledger _ x hx "dt-cite" (by simp) (by simp))
  · intro e he _ htag
    -- A text is all that a marker has in it, so the update passes over it.
    refine ⟨?_, (hshow e he htag).2⟩
    show updateIn _ _ e.children = _
    rw [(hshow e he htag).1, updateIn_text]
    rfl

theorem withReferences_endsIn (ledger : Ledger) (document : Document) (h : document.Numbered)
    (placeholder : Nat) :
    EndsIn (referenceList ledger document.next).node placeholder
      (withReferences ledger document placeholder).nodes := by
  refine forall_updateIn _ _ _ _ ?_ ?_
  · intro e he hlabel
    constructor
    · intro _ _
      exact List.getLast?_concat
    · intro x hx htag hsame
      rw [Element.withChildren, elementsIn_append, List.mem_append] at hx
      rcases hx with hx | hx
      · have hinside := mem_labelsOf _ x hx
        rw [hsame, ← hlabel] at hinside
        exact absurd hinside (label_not_mem_children document.nodes h.nodup_nodes e he)
      · exact absurd htag
          (name_of_mem_referenceList ledger _ x hx "dt-bibliography" (by simp) (by simp))
  · intro e _ hlabel _ hsame
    exact absurd hsame hlabel

/-- The numbers of the elements of a name, in document order. -/
def numbersOf (name : String) (nodes : List (Node Nat)) : List Nat :=
  labelsNamed (fun tag => tag.name = name) nodes

theorem withReferences_numbersOf (ledger : Ledger) (document : Document) (placeholder : Nat)
    (name : String) (hol : name ≠ "ol") (hli : name ≠ "li") :
    numbersOf name (withReferences ledger document placeholder).nodes =
      numbersOf name document.nodes := by
  refine labelsNamed_updateIn _ _ _ ?_ _
  intro e
  refine ⟨rfl, rfl, ?_⟩
  have hnone : labelsNamed (fun tag => tag.name = name)
      [(referenceList ledger document.next).node] = [] := by
    rw [labelsNamed, List.map_eq_nil_iff, List.filter_eq_nil_iff]
    intro x hx
    exact (decide_eq_true_iff).not.mpr (name_of_mem_referenceList ledger _ x hx name hol hli)
  rw [Element.withChildren, labelsNamed_append, hnone, List.append_nil]

/-- An attribute that is not the key of a marker may be set on any element. -/
theorem setAttribute_markersShow (ledger : Ledger) (document : Document) (id : Nat)
    (name value : String) (hname : "key" ≠ name) (hshow : MarkersShow ledger document.nodes) :
    MarkersShow ledger (document.setAttribute id name value).nodes := by
  refine forall_updateIn _ _ _ _ ?_ ?_
  · intro e he _
    constructor
    · intro htag
      have hold := hshow e he htag
      rw [markerText, markerReferences, shownKeys, markerKeys, Element.attribute?] at hold ⊢
      dsimp only
      rw [Attribute.find?_set_of_ne e.attributes name value "key" hname]
      exact hold
    · intro x hx htag
      exact hshow x (mem_elementsIn_of_mem_children _ e x he hx) htag
  · intro e he _ htag
    refine ⟨?_, (hshow e he htag).2⟩
    show updateIn _ _ e.children = _
    rw [(hshow e he htag).1, updateIn_text]
    rfl

/-- Setting an attribute of an element does not reach into a node with elements
    of other names. -/
theorem setAttribute_endsIn (document : Document) (h : document.Numbered) (target : Element Nat)
    (htarget : target ∈ elementsIn document.nodes) (name value : String) (node : Node Nat)
    (hnode : ∀ x ∈ elementsIn [node], x.tag.name ≠ target.tag.name) (placeholder : Nat)
    (hends : EndsIn node placeholder document.nodes) :
    EndsIn node placeholder (document.setAttribute target.label name value).nodes := by
  refine forall_updateIn _ _ _ _ ?_ ?_
  · intro e he _
    refine ⟨hends e he, fun x hx => ?_⟩
    exact hends x (mem_elementsIn_of_mem_children _ e x he hx)
  · intro e he _ htag hlabel
    have hlast := hends e he htag hlabel
    -- Were the target in the node, it would be one of its elements.
    have hoff : target.label ∉ labelsOf [node] := by
      intro hmem
      rcases exists_of_mem_labelsOf _ _ hmem with ⟨x, hx, hsame⟩
      have hinside := mem_elementsIn_of_mem e.children node (List.mem_of_getLast? hlast) x hx
      have hx' := mem_elementsIn_of_mem_children document.nodes e x he hinside
      have heq := eq_of_label_eq document.nodes h.nodup_nodes x target hx' htarget hsame
      exact hnode x hx (by rw [heq])
    rw [Element.withChildren, updateIn_eq_map, List.getLast?_map, hlast, Option.map_some,
      updateAt_of_not_mem _ _ node hoff]

theorem setAttribute_numbersOf (document : Document) (id : Nat) (name value tag : String) :
    numbersOf tag (document.setAttribute id name value).nodes = numbersOf tag document.nodes := by
  refine labelsNamed_updateIn _ _ _ ?_ _
  intro e
  exact ⟨rfl, rfl, rfl⟩

theorem select_cite (document : Document) :
    document.select "dt-cite" =
      .ok ((elementsIn document.nodes).filter fun e => e.tag.name = "dt-cite") :=
  document.select_named "dt-cite" rfl (by decide)

theorem selectFirst_bibliography (document : Document) :
    document.selectFirst "dt-bibliography" =
      .ok ((elementsIn document.nodes).find? fun e => e.tag.name = "dt-bibliography") :=
  document.selectFirst_named "dt-bibliography" rfl (by decide)

/-- With the default names the stage is always done, as both selectors can be read. -/
theorem renderCitations_default (verbose : Bool) (ledger : Ledger) (document : Document)
    (h : document.Numbered) :
    let run := (renderCitations {}).run verbose ledger document
    run.failure = none ∧
      fillBibliography {} ledger (fillMarkers ledger document
        ((elementsIn document.nodes).filter fun e => e.tag.name = "dt-cite")) = .ok run.state := by
  rcases renderCitations_cases {} verbose ledger document with
    ⟨error, hselect, -⟩ | ⟨markers, hmarkers, ⟨error, hfailed, -⟩ | ⟨hfilled, hdone⟩⟩
  · exact absurd ((select_cite document).symm.trans hselect) (by simp)
  · have hfirst := fillBibliography_error {} ledger _
      (fillMarkers_numbered ledger document h markers) error hfailed
    exact absurd ((selectFirst_bibliography _).symm.trans hfirst) (by simp)
  · rw [← Except.ok.inj ((select_cite document).symm.trans hmarkers)] at hfilled
    exact ⟨hdone, hfilled⟩

/-- The number of the first element of a name. -/
theorem find?_numbersOf (name : String) (nodes : List (Node Nat)) :
    ((elementsIn nodes).find? fun e => e.tag.name = name).map Element.label =
      (numbersOf name nodes).head? := by
  rw [numbersOf, labelsNamed, List.head?_map, List.head?_filter]

/-- The items of some keys are items of these keys. -/
theorem listItems_areItems (ledger : Ledger) (keys : List String) :
    ∀ id, List.Forall₂ (IsItemOf ledger) keys ((listItems ledger id keys).map Element.node) := by
  induction keys with
  | nil => exact fun _ => List.Forall₂.nil
  | cons key keys ih => exact fun id => List.Forall₂.cons ⟨id, rfl⟩ (ih (id + 1))

/-- A list of references is what it is said to be. -/
theorem referenceList_isListOf (ledger : Ledger) (hnodup : ledger.cited.Nodup) (id : Nat) :
    IsListOf ledger (referenceList ledger id).node := by
  let items := listItems ledger (id + 1) ledger.cited
  have hitem (n : Nat) (key : String) (hkey : ledger.cited[n]? = some key) :
      ∃ item, (items.map Element.node)[n]? = some item ∧ IsItemOf ledger key item := by
    refine ⟨(listItem ledger (id + 1 + n) key).node, ?_, id + 1 + n, rfl⟩
    rw [List.getElem?_map, getElem?_listItems, hkey]
    rfl
  refine ⟨id, items.map Element.node, rfl, listItems_areItems ledger ledger.cited (id + 1), ?_⟩
  intro key n hresolved
  -- A number is only shown if there is one, and then it counts to a place.
  have hnumber : ledger.number key = some n := by
    rw [Ledger.numericReference] at hresolved
    rcases hentry : ledger.entry key with _ | entry
    · simp [hentry] at hresolved
    · rcases hplace : ledger.number key with _ | m
      · simp [hentry, hplace] at hresolved
      · rw [hentry, hplace] at hresolved
        rw [Reference.resolved.inj hresolved]
  rcases (ledger.number_eq_some_iff hnodup key n).mp hnumber with ⟨hpos, -, hat⟩
  exact ⟨hpos, hitem (n - 1) key hat⟩

/-- What the list of references leaves as it was, and where it stands. -/
theorem fillBibliography_keeps (ledger : Ledger) (document : Document) (h : document.Numbered)
    (hshow : MarkersShow ledger document.nodes) (filled : Document)
    (hfilled : fillBibliography {} ledger document = .ok filled) :
    filled.Numbered ∧ MarkersShow ledger filled.nodes ∧
      (∀ name, name ≠ "ol" → name ≠ "li" →
        numbersOf name filled.nodes = numbersOf name document.nodes) ∧
      ∀ placeholder, document.selectFirst "dt-bibliography" = .ok (some placeholder) →
        EndsIn (referenceList ledger document.next).node placeholder.label filled.nodes := by
  rcases fillBibliography_ok {} ledger document filled h hfilled with
    ⟨hnumbered, ⟨hnone, rfl⟩ | ⟨placeholder, hfirst, rfl⟩⟩
  · refine ⟨h, hshow, fun _ _ _ => rfl, fun placeholder hfirst => ?_⟩
    exact absurd (hnone.symm.trans hfirst) (by simp)
  · have hmem := document.mem_of_selectFirst _ placeholder hfirst
    -- The list goes into a placeholder, so into no marker and no body.
    have hname : placeholder.tag.name = "dt-bibliography" := by
      have htest := List.find?_some
        (Except.ok.inj ((selectFirst_bibliography document).symm.trans hfirst))
      exact of_decide_eq_true htest
    refine ⟨hnumbered, withReferences_markersShow ledger document h placeholder hmem hname hshow,
      withReferences_numbersOf ledger document placeholder.label, fun other hother => ?_⟩
    obtain rfl := Option.some.inj (Except.ok.inj (hfirst.symm.trans hother))
    exact withReferences_endsIn ledger document h placeholder.label

/-- What the mark on the body leaves as it was. -/
theorem mark_keeps (ledger : Ledger) (document rendered : Document) (h : document.Numbered)
    (hmark : document.mark "distill-prerendered" = .ok rendered)
    (hshow : MarkersShow ledger document.nodes) :
    MarkersShow ledger rendered.nodes ∧
      (∀ name, numbersOf name rendered.nodes = numbersOf name document.nodes) ∧
      ∀ id placeholder, EndsIn (referenceList ledger id).node placeholder document.nodes →
        EndsIn (referenceList ledger id).node placeholder rendered.nodes := by
  rw [mark] at hmark
  rcases hbody : document.body? with _ | body
  · rw [hbody] at hmark
    exact absurd hmark (by simp)
  · rw [hbody] at hmark
    rw [← Except.ok.inj hmark]
    -- The mark changes attributes of the body, which is in no list and holds no text of a marker.
    rcases document.mem_of_body? body hbody with ⟨hmem, hname⟩
    refine ⟨setAttribute_markersShow ledger document _ _ _ (by simp) hshow,
      setAttribute_numbersOf document _ _ _, fun id placeholder hends => ?_⟩
    refine setAttribute_endsIn document h body hmem _ _ _ ?_ placeholder hends
    intro x hx
    rw [hname]
    exact name_of_mem_referenceList ledger id x hx "body" (by simp) (by simp)

/-- Markers and references agree in every document that is rendered with the
    default names. The ledger may know any entries and any citations, if these
    are without repetitions and without the empty key. -/
theorem render_agrees (document : Document) (hdocument : document.Numbered) (ledger : Ledger)
    (hnodup : ledger.cited.Nodup) (hempty : "" ∉ ledger.cited) (verbose : Bool)
    (hdone : ((Pipeline.standard {}).render verbose (document, ledger)).failure = none) :
    ∃ rendered known markers,
      ((Pipeline.standard {}).render verbose (document, ledger)).state = (rendered, known) ∧
      document.select "dt-cite" = .ok markers ∧
      Agrees (fillMarkers known document markers) rendered known := by
  rcases render_done {} verbose document ledger hdone with
    ⟨rendered, known, markers, filled, hstate, hmarkers, hfilled, hmark⟩
  have hcited := cited_of_render {} verbose document ledger hnodup hempty markers hmarkers hdone
  rw [hstate] at hcited
  dsimp only at hcited
  rcases hcited with ⟨hknown, hnever, hkeys⟩
  have hfound : markers = (elementsIn document.nodes).filter fun e => e.tag.name = "dt-cite" :=
    (Except.ok.inj ((select_cite document).symm.trans hmarkers)).symm
  -- The two properties, from the filled markers to the marked body.
  have hmarked := fillMarkers_numbered known document hdocument markers
  have hshow : MarkersShow known (fillMarkers known document markers).nodes := by
    exact fillMarkers_markersShow known document hdocument markers hfound hkeys
  rcases fillBibliography_keeps known _ hmarked hshow filled hfilled with
    ⟨hnumbered, hshow, hkept, hends⟩
  rcases mark_keeps known filled rendered hnumbered hmark hshow with ⟨hshow', hstill, hends'⟩
  refine ⟨rendered, known, markers, hstate, hmarkers,
    ⟨_, _, select_cite rendered, select_cite _, ?_, ?_⟩, ?_⟩
  · exact (hstill "dt-cite").trans (hkept "dt-cite" (by simp) (by simp))
  · intro m hm
    rcases List.mem_filter.mp hm with ⟨hmem, htag⟩
    rcases hshow' m hmem (of_decide_eq_true htag) with ⟨htext, hnamed⟩
    exact showsKeys_of_text known hnever m hnamed htext
  · intro placeholder hfirst
    -- The same placeholder comes first afterwards, and it ends in the list.
    have hlabel := find?_numbersOf "dt-bibliography" rendered.nodes
    rw [hstill, hkept _ (by simp) (by simp), ← find?_numbersOf] at hlabel
    have hfirst' := hfirst
    rw [selectFirst_bibliography] at hfirst'
    rw [Except.ok.inj hfirst', Option.map_some, Option.map_eq_some_iff] at hlabel
    rcases hlabel with ⟨found, hsearch, hlabel⟩
    have htag := List.find?_some hsearch
    have hlast := hends' _ _ (hends placeholder hfirst) found (List.mem_of_find?_eq_some hsearch)
      (of_decide_eq_true htag) hlabel
    refine ⟨found, _, ?_, hlabel, hlast, referenceList_isListOf known hknown _⟩
    rw [selectFirst_bibliography, hsearch]

/-- An article with a key that has an entry and one that has none, a marker
    without keys, and a place for the list. -/
theorem render_agrees_article :
    let article := Document.parse
      ("<script type=text/bibliography>@misc\x7ba, title=1\x7d</script>" ++
        "<dt-cite key=a,b></dt-cite><dt-cite></dt-cite><dt-bibliography></dt-bibliography>")
    ∃ rendered known markers,
      ((Pipeline.standard {}).render false (article, {})).state = (rendered, known) ∧
      article.select "dt-cite" = .ok markers ∧
      Agrees (fillMarkers known article markers) rendered known :=
  render_agrees _ (Document.parse_numbered _) {} List.nodup_nil List.not_mem_nil false
    (by decide +kernel)

end CiteRender
