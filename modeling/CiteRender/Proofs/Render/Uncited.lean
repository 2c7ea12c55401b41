import CiteRender.Proofs.Render.Lockstep
import CiteRender.Proofs.Render.Marking
import CiteRender.Proofs.Render.Survivors

/-!
# Entries That Are Not Cited

Two renders of one document that begin with different bibliographies. Entries
are looked up for the markers, for the warnings and for the list, and a marker
without keys even looks up the empty key, which a bibliography may well have. Of
all this only what is asked of the keys of markers gets into the document. The
empty key has an entry or not, but it never has a number, so it shows the
question mark either way.

What a marker shows is whether each of its keys has an entry, and the line of an
item is all that shows what the entry says. So bibliographies that agree on the
keys of the markers make no difference at all, and those that have entries for
the same keys of markers make one in the texts of items only.

## Main definitions

* `ItemsApart`: Trees that differ at most in the texts of items.
* `Document.ItemsApart`: Documents whose trees do, and nothing else in them.

## Theorems

* `named_of_render`: The cited keys are keys of markers.
* `markerText_congr`, `fillMarkers_congr`: What markers show.
* `fillBibliography_congr`: The list, where the entries are the same.
* `fillBibliography_apart`, `rendered_apart`: The list, where they are not.
* `render_alike`: How two renders of a document end.
* `render_uncited`: Renders with two bibliographies.
-/

namespace CiteRender

open Node Document

/-- The keys that a render cites in a ledger without citations are keys of markers. -/
theorem named_of_render (verbose : Bool) (document : Document) (bibliography : Bibliography)
    (key : String)
    (hkey : key ∈ ((Pipeline.standard {}).render verbose
      (document, { bibliography })).state.2.cited) :
    key ∈ (markersIn document.nodes).flatMap markerKeys := by
  have hknown := render_recordsOf {} verbose document [] { bibliography } rfl
  rw [RecordsOf, List.nil_append] at hknown
  rw [hknown, List.mem_eraseDups] at hkey
  by_cases hread : isReadable {} document = true
  · rw [if_pos hread, namedKeys_default] at hkey
    exact hkey
  · rw [if_neg hread] at hkey
    exact absurd hkey List.not_mem_nil

theorem empty_not_mem_cited (verbose : Bool) (document : Document) (bibliography : Bibliography) :
    "" ∉ ((Pipeline.standard {}).render verbose (document, { bibliography })).state.2.cited := by
  intro hempty
  rcases List.mem_flatMap.mp (named_of_render verbose document bibliography "" hempty) with
    ⟨m, -, hm⟩
  exact empty_not_mem_markerKeys m hm

section

variable {ledger ledger' : Ledger}

/-- The number shown for a key is decided by its place and by whether it has an entry. -/
theorem numericReference_congr (hcited : ledger.cited = ledger'.cited) (key : String)
    (hentry : (ledger.entry key).isSome = (ledger'.entry key).isSome) :
    ledger.numericReference key = ledger'.numericReference key := by
  have hnumber : ledger.number key = ledger'.number key := by
    rw [Ledger.number, Ledger.number, hcited]
  rw [Ledger.numericReference, Ledger.numericReference, hnumber]
  rcases hold : ledger.entry key with _ | entry <;> rcases hnew : ledger'.entry key with _ | entry'
  · rfl
  · exact absurd hentry (by simp [hold, hnew])
  · exact absurd hentry (by simp [hold, hnew])
  · rcases ledger'.number key with _ | n <;> rfl

theorem numericReference_of_not_cited (key : String) (hkey : key ∉ ledger.cited) :
    ledger.numericReference key = .missing := by
  rw [Ledger.numericReference, Ledger.number, List.idxOf?_eq_none_iff.mpr hkey]
  rcases ledger.entry key with _ | entry <;> rfl

/-- A marker shows the same where the same of its keys have entries. -/
theorem markerText_congr (hcited : ledger.cited = ledger'.cited) (hempty : "" ∉ ledger.cited)
    (marker : Element Nat)
    (hentries : ∀ key ∈ markerKeys marker,
      (ledger.entry key).isSome = (ledger'.entry key).isSome) :
    markerText ledger marker = markerText ledger' marker := by
  rw [markerText, markerText, markerReferences, markerReferences, shownKeys]
  refine congrArg numericText (List.map_congr_left fun key hkey => ?_)
  rcases hkeys : markerKeys marker with _ | ⟨first, others⟩
  · -- A marker without keys looks up the empty key, which has no number.
    rw [hkeys] at hkey
    rw [List.mem_singleton.mp hkey, numericReference_of_not_cited "" hempty,
      numericReference_of_not_cited "" (hcited ▸ hempty)]
  · rw [hkeys] at hkey hentries
    exact numericReference_congr hcited key (hentries key hkey)

theorem fillMarkers_congr (document : Document) (markers : List (Element Nat))
    (h : ∀ m ∈ markers, markerText ledger m = markerText ledger' m) :
    fillMarkers ledger document markers = fillMarkers ledger' document markers := by
  induction markers generalizing document with
  | nil => rfl
  | cons marker markers ih =>
      rw [List.forall_mem_cons] at h
      have hfirst : fillMarker ledger document marker = fillMarker ledger' document marker :=
        congrArg (document.setText marker.label) h.1
      rw [fillMarkers, List.foldl_cons, hfirst]
      exact ih _ h.2

theorem listItems_congr (id : Nat) (keys : List String)
    (h : ∀ key ∈ keys, ledger.entry key = ledger'.entry key) :
    listItems ledger id keys = listItems ledger' id keys := by
  induction keys generalizing id with
  | nil => rfl
  | cons key keys ih =>
      rw [List.forall_mem_cons] at h
      rw [listItems, listItems, listItem, listItem, h.1, ih (id + 1) h.2]

/-- A placeholder gets the same list where the cited keys have the same entries. -/
theorem withReferences_congr (hcited : ledger.cited = ledger'.cited)
    (hentries : ∀ key ∈ ledger.cited, ledger.entry key = ledger'.entry key) (document : Document)
    (placeholder : Nat) :
    withReferences ledger document placeholder = withReferences ledger' document placeholder := by
  have hlist : referenceList ledger document.next = referenceList ledger' document.next := by
    rw [referenceList, referenceList, ← hcited, listItems_congr _ _ hentries]
  rw [withReferences, withReferences, hlist, hcited]

end

/-- The list is the same where the cited keys have the same entries. -/
theorem fillBibliography_congr (known known' : Ledger) (hcited : known.cited = known'.cited)
    (hentries : ∀ key ∈ known.cited, known.entry key = known'.entry key) (document : Document)
    (h : document.Numbered) :
    fillBibliography {} known document = fillBibliography {} known' document := by
  rw [fillBibliography_default known document h, fillBibliography_default known' document h]
  simp only [withReferences_congr hcited hentries]

/-- Trees that differ at most in the texts of items: an item that was made for a cited key
    under a number from `next` on has the line of each of two ledgers, and they have
    different entries for the key. -/
inductive ItemsApart (known known' : Ledger) (next : Nat) :
    List (Node Nat) → List (Node Nat) → Prop where
  | nil : ItemsApart known known' next [] []
  | leaf (node : Node Nat) {rest rest' : List (Node Nat)} (hleaf : node.asElement? = none)
      (hrest : ItemsApart known known' next rest rest') :
      ItemsApart known known' next (node :: rest) (node :: rest')
  | element (e : Element Nat) {children rest rest' : List (Node Nat)}
      (hchildren : ItemsApart known known' next e.children children)
      (hrest : ItemsApart known known' next rest rest') :
      ItemsApart known known' next (e.node :: rest) ((e.withChildren children).node :: rest')
  | item (id : Nat) (key : String) {rest rest' : List (Node Nat)} (hid : next ≤ id)
      (hkey : key ∈ known.cited) (hentry : known.entry key ≠ known'.entry key)
      (hrest : ItemsApart known known' next rest rest') :
      ItemsApart known known' next ((listItem known id key).node :: rest)
        ((listItem known' id key).node :: rest')

/-- Documents whose trees differ at most in the texts of items. -/
structure Document.ItemsApart (known known' : Ledger) (next : Nat) (document document' : Document) :
    Prop where
  nodes : CiteRender.ItemsApart known known' next document.nodes document'.nodes
  loose : document.loose = document'.loose
  next : document.next = document'.next

namespace ItemsApart

variable {known known' : Ledger} {next : Nat}

theorem refl (nodes : List (Node Nat)) : ItemsApart known known' next nodes nodes := by
  induction nodes using forestInduction with
  | nil => exact nil
  | leaf node rest hleaf ih => exact leaf node hleaf ih
  | element label tag attributes contents children rest _ ihchildren ihrest =>
      exact element ⟨label, tag, attributes, contents, children⟩ ihchildren ihrest

theorem append {nodes nodes' more more' : List (Node Nat)}
    (h : ItemsApart known known' next nodes nodes')
    (hmore : ItemsApart known known' next more more') :
    ItemsApart known known' next (nodes ++ more) (nodes' ++ more') := by
  induction h with
  | nil => exact hmore
  | leaf node hleaf _ ih => exact leaf node hleaf ih
  | element e hchildren _ _ ih => exact element e hchildren ih
  | item id key hid hkey hentry _ ih => exact item id key hid hkey hentry ih

/-- Changes of an element that is no item, if they keep what is apart apart. -/
theorem updateIn {nodes nodes' : List (Node Nat)} (h : ItemsApart known known' next nodes nodes')
    (id : Nat) (hid : id < next) (f f' : Element Nat → Element Nat)
    (hf : ∀ e children, ItemsApart known known' next e.children children →
      ItemsApart known known' next [(f e).node] [(f' (e.withChildren children)).node]) :
    ItemsApart known known' next (updateIn id f nodes) (updateIn id f' nodes') := by
  induction h with
  | nil => exact nil
  | leaf node hleaf _ ih =>
      rw [updateIn_leaf _ _ node _ hleaf, updateIn_leaf _ _ node _ hleaf]
      exact leaf node hleaf ih
  | @element e children _ _ hchildren _ ihchildren ihrest =>
      by_cases hlabel : e.label = id
      · rw [updateIn_node_self id f e _ hlabel,
          updateIn_node_self id f' (e.withChildren children) _ hlabel]
        exact (hf e children hchildren).append ihrest
      · rw [updateIn_node_other id f e _ hlabel,
          updateIn_node_other id f' (e.withChildren children) _ hlabel]
        exact element (e.withChildren _) ihchildren ihrest
  | item id' key hid' hkey hentry _ ih =>
      -- Items are newer than the element, so the change passes over them.
      have hlabel : id' ≠ id := by omega
      rw [updateIn_node_other id f (listItem known id' key) _ hlabel,
        updateIn_node_other id f' (listItem known' id' key) _ hlabel]
      exact item id' key hid' hkey hentry ih

/-- The items of some keys. -/
theorem listItems (id : Nat) (hid : next ≤ id) (keys : List String)
    (hkeys : ∀ key ∈ keys, key ∈ known.cited) :
    ItemsApart known known' next ((listItems known id keys).map Element.node)
      ((listItems known' id keys).map Element.node) := by
  induction keys generalizing id with
  | nil => exact nil
  | cons key keys ih =>
      rw [List.forall_mem_cons] at hkeys
      have hrest := ih (id + 1) (Nat.le_succ_of_le hid) hkeys.2
      by_cases hentry : known.entry key = known'.entry key
      · -- The line is the same, and so is the item.
        rw [CiteRender.listItems, CiteRender.listItems, listItem, listItem, ← hentry]
        exact element _ (refl _) hrest
      · exact item id key hid hkeys.1 hentry hrest

theorem referenceList (hcited : known.cited = known'.cited) (id : Nat) (hid : next ≤ id) :
    ItemsApart known known' next [(referenceList known id).node]
      [(referenceList known' id).node] := by
  rw [CiteRender.referenceList, CiteRender.referenceList, ← hcited]
  refine element ((Element.bare id "ol").withChildren _) ?_ nil
  exact listItems (id + 1) (Nat.le_succ_of_le hid) known.cited fun _ hkey => hkey

end ItemsApart

/-- The lists of two ledgers in one document differ at most in the texts of items. -/
theorem fillBibliography_apart (known known' : Ledger) (hcited : known.cited = known'.cited)
    (document : Document) (h : document.Numbered) (filled filled' : Document)
    (hfilled : fillBibliography {} known document = .ok filled)
    (hfilled' : fillBibliography {} known' document = .ok filled') :
    Document.ItemsApart known known' document.next filled filled' := by
  rw [fillBibliography_default known document h] at hfilled
  rw [fillBibliography_default known' document h] at hfilled'
  obtain rfl := Except.ok.inj hfilled
  obtain rfl := Except.ok.inj hfilled'
  rcases hfirst : (elementsIn document.nodes).find? fun e => e.tag.name = "dt-bibliography" with
    _ | placeholder
  · rw [hfirst]
    exact ⟨.refl _, rfl, rfl⟩
  · rw [hfirst]
    have hmem := mem_labelsOf _ _ (List.mem_of_find?_eq_some hfirst)
    have hid : placeholder.label < document.next := h.below _ (List.mem_append_left _ hmem)
    have hloose := h.not_mem_loose _ hmem
    have hlist := ItemsApart.referenceList hcited document.next (Nat.le_refl _)
    -- One tree gets two lists in one place, and the loose trees are not concerned.
    refine ⟨?_, ?_, ?_⟩
    · refine (ItemsApart.refl document.nodes).updateIn placeholder.label hid _ _
        fun e children hchildren => ?_
      exact .element (e.withChildren _) (hchildren.append hlist) .nil
    · exact (updateIn_of_not_mem _ _ _ hloose).trans (updateIn_of_not_mem _ _ _ hloose).symm
    · show document.next + 1 + known.cited.length = document.next + 1 + known'.cited.length
      rw [hcited]

/-- Marking the bodies of two documents that differ at most in the texts of items. -/
theorem markRendered_apart (known known' : Ledger) (next : Nat) (filled filled' : Document)
    (h : Document.ItemsApart known known' next filled filled')
    (hbodies : numbersOf "body" filled.nodes = numbersOf "body" filled'.nodes)
    (hbelow : ∀ id ∈ numbersOf "body" filled.nodes, id < next) :
    Run.Alike (Document.ItemsApart known known' next) (Pipeline.markRendered {} filled)
      (Pipeline.markRendered {} filled') := by
  -- Both documents have the same bodies by number, so the mark goes to the same one or to none.
  have hfirst := label_body? filled
  have hfirst' := label_body? filled'
  rw [show labelsNamed _ filled'.nodes = _ from hbodies.symm] at hfirst'
  rw [Pipeline.markRendered, Pipeline.markRendered, mark, mark]
  rcases hbody : filled.body? with _ | body
  · rw [hbody] at hfirst
    have hnone : filled'.body? = none := Option.map_eq_none_iff.mp (hfirst'.trans hfirst.symm)
    rw [hnone]
    exact ⟨rfl, h⟩
  · rw [hbody, Option.map_some] at hfirst
    rcases Option.map_eq_some_iff.mp (hfirst'.trans hfirst.symm) with ⟨body', hbody', hlabel⟩
    have hid : body.label < next := hbelow _ (List.mem_of_head? hfirst.symm)
    rw [hbody']
    dsimp only
    rw [hlabel]
    refine ⟨rfl, ?_, ?_, h.next⟩
    · exact h.nodes.updateIn body.label hid _ _ fun e children hchildren =>
        .element { e with attributes := _ } hchildren .nil
    · exact congrArg (Node.updateIn body.label _) h.loose

/-- The lists of two ledgers that show the same in the markers of a document, and the mark
    on its body. -/
theorem rendered_apart (document : Document) (h : document.Numbered) (known known' : Ledger)
    (hcited : known.cited = known'.cited)
    (hmarked : fillMarkers known document (markersIn document.nodes) =
      fillMarkers known' document (markersIn document.nodes)) (filled filled' : Document)
    (hfilled : fillBibliography {} known
      (fillMarkers known document (markersIn document.nodes)) = .ok filled)
    (hfilled' : fillBibliography {} known'
      (fillMarkers known' document (markersIn document.nodes)) = .ok filled') :
    Run.Alike (Document.ItemsApart known known' document.next) (Pipeline.markRendered {} filled)
        (Pipeline.markRendered {} filled') ∧
      markersIn (Pipeline.markRendered {} filled).state.nodes =
        markersIn (Pipeline.markRendered {} filled').state.nodes := by
  have hnumbered := fillMarkers_numbered known document h (markersIn document.nodes)
  have hnext := fillMarkers_next known document (markersIn document.nodes)
  rcases markersIn_fillBibliography known document filled h hfilled with ⟨hkept, hnone⟩
  rcases markersIn_fillBibliography known' document filled' h hfilled' with ⟨hkept', hnone'⟩
  constructor
  · rw [← hmarked] at hfilled'
    have hapart := fillBibliography_apart known known' hcited _ hnumbered filled filled' hfilled
      hfilled'
    have hbodies := fillBibliography_numbersOf known _ filled hnumbered hfilled "body" (by simp)
      (by simp)
    have hbodies' := fillBibliography_numbersOf known' _ filled' hnumbered hfilled' "body"
      (by simp) (by simp)
    rw [hnext] at hapart
    refine markRendered_apart known known' _ filled filled' hapart (hbodies.trans hbodies'.symm)
      fun id hid => ?_
    -- The body is older than the list.
    rw [hbodies, numbersOf, labelsNamed, List.mem_map] at hid
    rcases hid with ⟨e, he, rfl⟩
    rw [← hnext]
    exact hnumbered.below _ (List.mem_append_left _ (mem_labelsOf _ e (List.mem_filter.mp he).1))
  · -- The markers are those that the filling left, and it left the same.
    have hnodes := congrArg Document.nodes hmarked
    rw [fillMarkers_nodes known document h, fillMarkers_nodes known' document h] at hnodes
    rw [markersIn_markRendered filled (fillBibliography_nodes known document filled h hfilled).1 hnone,
      markersIn_markRendered filled' (fillBibliography_nodes known' document filled' h hfilled').1
        hnone', hkept, hkept', hnodes]

section

variable {R : String → Option Entry → Option Entry → Prop}

/-- How two renders of a document end that begin with different bibliographies. They fail
    in extraction alike, or they fill the markers and the list and mark the body. -/
theorem render_alike (hR : ∀ key entry, R key (some entry) (some entry)) (verbose : Bool)
    (document : Document) (h : document.Numbered) (entries entries' : Bibliography)
    (hentries : ∀ key, R key entries[key]? entries'[key]?) :
    let run := (Pipeline.standard {}).render verbose (document, { bibliography := entries })
    let run' := (Pipeline.standard {}).render verbose (document, { bibliography := entries' })
    Ledger.Alike R run.state.2 run'.state.2 ∧
      ((run.failure = run'.failure ∧ run.state.1 = document ∧ run'.state.1 = document) ∨
      ∃ filled filled',
        fillBibliography {} run.state.2
          (fillMarkers run.state.2 document (markersIn document.nodes)) = .ok filled ∧
        fillBibliography {} run'.state.2
          (fillMarkers run'.state.2 document (markersIn document.nodes)) = .ok filled' ∧
        run.failure = (Pipeline.markRendered {} filled).failure ∧
        run'.failure = (Pipeline.markRendered {} filled').failure ∧
        run.state.1 = (Pipeline.markRendered {} filled).state ∧
        run'.state.1 = (Pipeline.markRendered {} filled').state) := by
  intro run run'
  -- Extraction ends alike, so of the four cases two remain.
  have hextract := extract_alike hR {} verbose verbose document document ⟨rfl, rfl⟩
    { bibliography := entries } { bibliography := entries' } ⟨rfl, hentries⟩
  rcases render_outcome verbose document h { bibliography := entries } with
    ⟨error, hextracted, hfailure, hstate⟩ | ⟨hextracted, filled, hfilled, hfailure, hstate⟩ <;>
  rcases render_outcome verbose document h { bibliography := entries' } with
    ⟨error', hextracted', hfailure', hstate'⟩ | ⟨hextracted', filled', hfilled', hfailure', hstate'⟩
  · have hsame : some error = some error' :=
      hextracted.symm.trans (hextract.failure.trans hextracted')
    rw [hstate, hstate']
    exact ⟨hextract.state, Or.inl ⟨hfailure.trans (hsame.trans hfailure'.symm), rfl, rfl⟩⟩
  · exact absurd (hextracted.symm.trans (hextract.failure.trans hextracted')) (by simp)
  · exact absurd (hextracted.symm.trans (hextract.failure.trans hextracted')) (by simp)
  · rw [hstate, hstate']
    exact ⟨hextract.state,
      Or.inr ⟨filled, filled', hfilled, hfilled', hfailure, hfailure', rfl, rfl⟩⟩

end

/-- Entries that no marker names never matter. Two renders of a document with the default
    names that begin with the same entries for the keys of its markers fail alike, cite
    the same keys and leave the same document. If they only begin with some entries for
    the same keys of markers, they still fail alike, cite the same keys and leave the
    same markers with the same texts, and their documents differ at most in the texts of
    the items of cited keys whose entries came to differ. -/
theorem render_uncited (document : Document) (h : document.Numbered) (verbose : Bool)
    (entries entries' : Bibliography) :
    let run := (Pipeline.standard {}).render verbose (document, { bibliography := entries })
    let run' := (Pipeline.standard {}).render verbose (document, { bibliography := entries' })
    let named := (markersIn document.nodes).flatMap markerKeys
    ((∀ key ∈ named, entries[key]? = entries'[key]?) →
      run.failure = run'.failure ∧ run.state.2.cited = run'.state.2.cited ∧
        run.state.1 = run'.state.1) ∧
    ((∀ key ∈ named, entries[key]?.isSome = entries'[key]?.isSome) →
      run.failure = run'.failure ∧ run.state.2.cited = run'.state.2.cited ∧
        markersIn run.state.1.nodes = markersIn run'.state.1.nodes ∧
        Document.ItemsApart run.state.2 run'.state.2 document.next run.state.1 run'.state.1) := by
  intro run run' named
  have hnumbered (ledger : Ledger) :
      (fillMarkers ledger document (markersIn document.nodes)).Numbered :=
    fillMarkers_numbered ledger document h _
  have hcited : ∀ key ∈ run.state.2.cited, key ∈ named :=
    named_of_render verbose document entries
  have hempty : "" ∉ run.state.2.cited := empty_not_mem_cited verbose document entries
  -- The markers show the same where the same of their keys have entries.
  have hmarked (hsame : run.state.2.cited = run'.state.2.cited)
      (hsome : ∀ key ∈ named,
        (run.state.2.entry key).isSome = (run'.state.2.entry key).isSome) :
      fillMarkers run.state.2 document (markersIn document.nodes) =
        fillMarkers run'.state.2 document (markersIn document.nodes) :=
    fillMarkers_congr document _ fun m hm => markerText_congr hsame hempty m fun key hkey =>
      hsome key (List.mem_flatMap.mpr ⟨m, hm, hkey⟩)
  constructor
  · intro hentries
    rcases render_alike (R := fun key entry entry' => key ∈ named → entry = entry')
      (fun _ _ _ => rfl) verbose document h entries entries' hentries with
      ⟨⟨hsame, hknown⟩, ⟨hfailure, hstate, hstate'⟩ |
        ⟨filled, filled', hfilled, hfilled', hfailure, hfailure', hstate, hstate'⟩⟩
    · exact ⟨hfailure, hsame, hstate.trans hstate'.symm⟩
    · rw [hmarked hsame fun key hkey => congrArg Option.isSome (hknown key hkey),
        fillBibliography_congr _ _ hsame (fun key hkey => hknown key (hcited key hkey)) _
          (hnumbered _)] at hfilled
      -- Both come to one filled document, which is marked once.
      obtain rfl := Except.ok.inj (hfilled.symm.trans hfilled')
      exact ⟨hfailure.trans hfailure'.symm, hsame, hstate.trans hstate'.symm⟩
  · intro hentries
    rcases render_alike (R := fun key entry entry' => key ∈ named → entry.isSome = entry'.isSome)
      (fun _ _ _ => rfl) verbose document h entries entries' hentries with
      ⟨⟨hsame, hknown⟩, ⟨hfailure, hstate, hstate'⟩ |
        ⟨filled, filled', hfilled, hfilled', hfailure, hfailure', hstate, hstate'⟩⟩
    · refine ⟨hfailure, hsame, ?_, ?_⟩
      · rw [hstate, hstate']
      · rw [hstate, hstate']
        exact ⟨.refl _, rfl, rfl⟩
    · rcases rendered_apart document h _ _ hsame (hmarked hsame hknown) filled filled' hfilled
        hfilled' with ⟨halike, hmarkers⟩
      rw [hfailure, hfailure', hstate, hstate']
      exact ⟨halike.failure, hsame, hmarkers, halike.state⟩

/-- Two entries for a cited key, and one for the empty key that a marker without keys
    asks for. -/
theorem render_uncited_empty_key :
    let article := Document.parse
      "<dt-cite key=a></dt-cite><dt-cite></dt-cite><dt-bibliography></dt-bibliography>"
    let one : Bibliography := .ofList [("a", { title := some "Once" })]
    let more : Bibliography := .ofList [("", {}), ("a", { title := some "Once" })]
    let other : Bibliography := .ofList [("", {}), ("a", { title := some "Twice" })]
    let run (entries : Bibliography) :=
      (Pipeline.standard {}).render false (article, { bibliography := entries })
    ((run one).failure = (run more).failure ∧
      (run one).state.2.cited = (run more).state.2.cited ∧
      (run one).state.1 = (run more).state.1) ∧
    (run one).failure = (run other).failure ∧
      (run one).state.2.cited = (run other).state.2.cited ∧
      markersIn (run one).state.1.nodes = markersIn (run other).state.1.nodes ∧
      Document.ItemsApart (run one).state.2 (run other).state.2 article.next (run one).state.1
        (run other).state.1 := by
  intro article one more other run
  have hnumbered : article.Numbered := Document.parse_numbered _
  have hnamed : (markersIn article.nodes).flatMap markerKeys = ["a"] := by decide +kernel
  have hmore : ∀ key ∈ (markersIn article.nodes).flatMap markerKeys,
      one[key]? = more[key]? := by
    rw [hnamed, List.forall_mem_singleton]
    decide +kernel
  have hother : ∀ key ∈ (markersIn article.nodes).flatMap markerKeys,
      one[key]?.isSome = other[key]?.isSome := by
    rw [hnamed, List.forall_mem_singleton]
    decide +kernel
  have hsame := (render_uncited article hnumbered false one more).1 hmore
  have hapart := (render_uncited article hnumbered false one other).2 hother
  dsimp only [run]
  exact ⟨hsame, hapart⟩

end CiteRender
