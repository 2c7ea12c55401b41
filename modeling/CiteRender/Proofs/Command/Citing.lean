import CiteRender.Proofs.Command.ExitCodes
import CiteRender.Proofs.Render.Again
import CiteRender.Proofs.Render.Survivors

/-!
# Citing and Rendering

The same keys are cited in two ways. A command line names them beside a file of
references, and a marker names them in an article that is rendered. The first
records them in a ledger of its own and shows them at once. The second finds them
in a document, records them while it looks for markers, and shows them in what it
writes into the document. Both come to the same text.

The ledgers of the two are equal, whatever the article is. It has no block that
could put entries into the ledger, and the keys of its only marker are those of
the command line. So what is left is to follow a text to its place: the form with
numbers is what the marker holds, and the full form of a key is the item that the
list has for it. The list has every key once, so keys that are repeated share an
item, the one that the first of them was recorded for.

## Main definitions

* `citation`: What is shown when keys are cited alone.

## Theorems

* `carryOut_cite`: What the command comes to.
* `extract_of_no_blocks`: The ledger of an article without bibliography blocks.
* `markersIn_of_single`: The only marker, once it is filled.
* `list_of_render`: The list in a placeholder that is in no marker.
* `items_of_keys`: Where the item of a key is.
* `cite_agrees_with_render`: The command and a render.
-/

namespace CiteRender

open Node Document

/-- What is shown of a text of keys in a style, with a bibliography and no article. -/
def citation (keys : String) (style : Style) (bibliography : Bibliography) : String :=
  citeIn style (splitKeys keys) (Ledger.citeAll { bibliography } (splitKeys keys))

/-- A command line that cites keys, where the references can be loaded. -/
theorem carryOut_cite (arguments : List String) (keys path : String) (style : Style)
    (bibliography : Bibliography) (s left : Surroundings)
    (hread : Request.read arguments = .ok (.cite keys path style))
    (hload : (loadReferences path).run.carryOut s = (.ok bibliography, left)) :
    (runCommandLine arguments).carryOut s =
      ({ code := 0, output := citation keys style bibliography }, left) := by
  have hplan : (planCite keys path style).run.carryOut s =
      (.ok ⟨citation keys style bibliography, []⟩, left) := by
    rw [planCite, Attempt.carryOut_bind_ok _ _ s left bibliography hload]
    rfl
  rw [carryOut_runCommandLine arguments _ hread s,
    show (Request.cite keys path style).plan.run.carryOut s = _ from hplan]
  rfl

/-- Without blocks extraction comes to recording the keys of the markers. -/
theorem extract_of_no_blocks (config : Config) (verbose : Bool) (document : Document)
    (ledger : Ledger) (markers : List (Element Nat))
    (hblocks : document.select config.bibliographyScript = .ok [])
    (hmarkers : document.select config.citeTag = .ok markers) :
    (runStages .extract verbose document (Pipeline.standard config).extractors ledger).state =
      ledger.citeAll (markers.flatMap markerKeys) := by
  have hnothing : (extractBibliography config).run verbose document ledger = { state := ledger } := by
    rw [extractBibliography]
    dsimp only
    rw [hblocks]
    rfl
  have hkeys : ((extractCitations config).run verbose document ledger).state =
      ledger.citeAll (markers.flatMap markerKeys) := by
    rw [extractCitations]
    dsimp only
    rw [hmarkers]
  -- The first stage leaves the ledger as it was, so the second begins with the same one.
  let first := runStage .extract verbose document (extractBibliography config) ledger
  have hdone : first.failure = none := by
    show Option.map _ ((extractBibliography config).run verbose document ledger).failure = none
    rw [hnothing]
    rfl
  have hstate : first.state = ledger := congrArg Run.state hnothing
  have hboth := (Run.andThen_outcome first
    (runStages .extract verbose document [extractCitations config]) hdone).1
  rw [hstate, (runStages_singleton .extract verbose document (extractCitations config) ledger).1,
    hkeys] at hboth
  exact hboth

/-- The only marker of a document is the only one of the rendered document, with its text
    in it. -/
theorem markersIn_of_single (ledger : Ledger) (document : Document) (h : document.Numbered)
    (marker : Element Nat) (hmarker : markersIn document.nodes = [marker]) :
    markersIn (fillOutermostIn ledger document.nodes) = [marker.filled ledger] := by
  have hmem : marker ∈ markersIn document.nodes := hmarker ▸ List.mem_singleton_self marker
  have hplaced := ((mem_markersIn_iff _ marker).mp hmem).1
  have hinside : markersIn marker.children = [] := by
    -- A marker in it would be a second one, as it is not in itself.
    refine List.eq_nil_iff_forall_not_mem.mpr fun m hm => ?_
    rcases (mem_markersIn_iff _ m).mp hm with ⟨hchild, hname⟩
    have hother : m ∈ markersIn document.nodes := (mem_markersIn_iff _ m).mpr
      ⟨mem_elementsIn_of_mem_children _ marker m hplaced hchild, hname⟩
    rw [hmarker, List.mem_singleton] at hother
    subst hother
    exact label_not_mem_children _ h.nodup_nodes m hplaced (mem_labelsOf _ m hchild)
  rw [markersIn_fillOutermostIn ledger document.nodes fun m hm => ?_, hmarker]
  · rfl
  · rw [hmarker, List.mem_singleton] at hm
    rw [hm]
    exact hinside

theorem text_withChildren (e : Element Nat) (text : String) :
    (e.withChildren [.text text]).text = text := by
  rw [Element.text, Element.withChildren]
  simp [textOfAll, textOf]

/-- A placeholder that is in no marker makes room for the list: the first placeholder of the
    rendered document ends in the list of the cited keys. -/
theorem list_of_render (verbose : Bool) (document : Document) (h : document.Numbered)
    (ledger : Ledger)
    (hdone : ((Pipeline.standard {}).render verbose (document, ledger)).failure = none)
    (rendered : Document) (known : Ledger)
    (hstate : ((Pipeline.standard {}).render verbose (document, ledger)).state = (rendered, known))
    (hkeys : ∀ m ∈ markersIn document.nodes, ∀ key ∈ markerKeys m, key ∈ known.cited)
    (hplace : ∃ e ∈ elementsIn document.nodes, e.tag.name = "dt-bibliography" ∧
      Outside document.nodes e) :
    ∃ found id, rendered.selectFirst "dt-bibliography" = .ok (some found) ∧
      found.children.getLast? = some (referenceList known id).node := by
  rcases render_tree verbose document h ledger hdone with
    ⟨tree, seen, filled, body, hsame, hfilled, hnumbered, -, hbody, hmarked, -, -⟩
  obtain ⟨rfl, rfl⟩ := Prod.mk.inj (hstate.symm.trans hsame)
  -- From here the document is followed through what is left of the render.
  let marked := fillMarkers known document (markersIn document.nodes)
  have hshow := fillMarkers_markersShow known document h _ rfl hkeys
  rcases fillBibliography_keeps known marked (fillMarkers_numbered known document h _) hshow filled
    hfilled with ⟨-, hshow, hkept, hends⟩
  have hmark : filled.mark "distill-prerendered" = .ok rendered := by
    rw [mark, hbody, hmarked]
  rcases mark_keeps known filled rendered hnumbered hmark hshow with ⟨-, hstill, hends'⟩
  -- The placeholders are the same all the way from the filled markers on, and there is one.
  have hnumbers : numbersOf "dt-bibliography" rendered.nodes =
      numbersOf "dt-bibliography" marked.nodes :=
    (hstill _).trans (hkept _ (by simp) (by simp))
  have hne : numbersOf "dt-bibliography" rendered.nodes ≠ [] := by
    rw [hnumbers, fillMarkers_nodes known document h]
    exact (exists_named_iff known document.nodes h.nodup_nodes _).mpr hplace
  -- So the first of them has the same number before and after the list is put into it.
  have hfound := find?_numbersOf "dt-bibliography" rendered.nodes
  have hplaceholder := find?_numbersOf "dt-bibliography" marked.nodes
  rw [List.head?_eq_some_head hne, Option.map_eq_some_iff] at hfound
  rw [← hnumbers, List.head?_eq_some_head hne, Option.map_eq_some_iff] at hplaceholder
  rcases hfound with ⟨found, hfound, hlabel⟩
  rcases hplaceholder with ⟨placeholder, hfirst, hlabel'⟩
  have hplaced : marked.selectFirst "dt-bibliography" = .ok (some placeholder) := by
    rw [selectFirst_bibliography, hfirst]
  have htest := List.find?_some hfound
  have hlast := hends' _ _ (hends placeholder hplaced) found (List.mem_of_find?_eq_some hfound)
    (of_decide_eq_true htest) (hlabel.trans hlabel'.symm)
  exact ⟨found, _, by rw [selectFirst_bibliography, hfound], hlast⟩

/-- The items of the list, found by the first appearances of keys. An item has the line of its
    key in it, which is printed without the blanks at its end. -/
theorem items_of_keys (ledger : Ledger) (id : Nat) (keys : List String)
    (hcited : ledger.cited = keys.eraseDups) (i : Nat) (key : String) (hkey : keys[i]? = some key) :
    ∃ (n : Nat) (item : Element Nat), keys.eraseDups[n]? = some key ∧
      (listItems ledger id ledger.cited)[n]? = some item ∧
      item.text = lineText (bibliographyLine (ledger.entry key)) := by
  have hmem : key ∈ keys.eraseDups := List.mem_eraseDups.mpr (List.mem_of_getElem? hkey)
  rcases List.mem_iff_getElem?.mp hmem with ⟨n, hn⟩
  refine ⟨n, listItem ledger (id + n) key, hn, ?_, text_withChildren _ _⟩
  rw [getElem?_listItems, hcited, hn, Option.map_some]

/-- Citing keys with the command, and rendering an article whose only marker has them. The
    article may be any without a bibliography block. -/
theorem cite_agrees_with_render (keys : String) (hkeys : splitKeys keys ≠ [])
    (bibliography : Bibliography) (document : Document) (h : document.Numbered)
    (marker : Element Nat) (hmarker : document.select "dt-cite" = .ok [marker])
    (hattribute : marker.attribute? "key" = some keys)
    (hblocks : document.select ({} : Config).bibliographyScript = .ok []) (verbose : Bool)
    (hdone : ((Pipeline.standard {}).render verbose (document, { bibliography })).failure = none) :
    let rendered := ((Pipeline.standard {}).render verbose (document, { bibliography })).state.1
    -- The command shows what is cited, and changes nothing but what it has read.
    (∀ arguments path style s left, Request.read arguments = .ok (.cite keys path style) →
      (loadReferences path).run.carryOut s = (.ok bibliography, left) →
        (runCommandLine arguments).carryOut s =
          ({ code := 0, output := citation keys style bibliography }, left)) ∧
    -- The marker has the form with numbers in it.
    (∃ shown, rendered.select "dt-cite" = .ok [shown] ∧ shown.label = marker.label ∧
      citation keys .numeric bibliography = lines [shown.text]) ∧
    -- If there is a placeholder outside the marker, there is a list, and its items are the
    -- full forms. A key is in the list at the place of its first appearance.
    ((∃ e ∈ elementsIn document.nodes,
        e.tag.name = "dt-bibliography" ∧ e ∉ elementsIn marker.children) →
      ∃ (found : Element Nat) (id : Nat) (items : List (Element Nat)) (printed : List String),
        rendered.selectFirst "dt-bibliography" = .ok (some found) ∧
        found.children.getLast? =
          some (.element id (Tag.html "ol") [] [] (items.map Element.node)) ∧
        (∀ item ∈ items, item.tag = Tag.html "li") ∧
        items.length = (splitKeys keys).eraseDups.length ∧
        citation keys .full bibliography = lines printed ∧
        printed.length = (splitKeys keys).length ∧
        ∀ (i : Nat) (key : String), (splitKeys keys)[i]? = some key →
          ∃ (n : Nat) (item : Element Nat), (splitKeys keys).eraseDups[n]? = some key ∧
            items[n]? = some item ∧
            printed[i]? = some (String.ofList (Text.trimEnd item.text.toList))) := by
  intro rendered
  -- This is the ledger of the command, and it is the one that the render ends with.
  let known := Ledger.citeAll { bibliography } (splitKeys keys)
  have hmarkers : markersIn document.nodes = [marker] :=
    Except.ok.inj ((select_cite document).symm.trans hmarker)
  have hnamed : markerKeys marker = splitKeys keys := by
    rw [markerKeys, hattribute]
    rfl
  have hcited : known.cited = (splitKeys keys).eraseDups :=
    citeAll_recordsOf [] (splitKeys keys) { bibliography } rfl
  have hstate : ((Pipeline.standard {}).render verbose (document, { bibliography })).state =
      (rendered, known) := by
    refine Prod.ext rfl ?_
    rw [Pipeline.render_ledger,
      extract_of_no_blocks {} verbose document _ [marker] hblocks hmarker, List.flatMap_singleton,
      hnamed]
  refine ⟨fun arguments path style s left hread hload =>
    carryOut_cite arguments keys path style bibliography s left hread hload, ?_, ?_⟩
  · rcases render_tree verbose document h { bibliography } hdone with
      ⟨tree, seen, -, -, hsame, -, -, -, -, -, -, hfilled⟩
    obtain ⟨rfl, rfl⟩ := Prod.mk.inj (hstate.symm.trans hsame)
    have hname := ((mem_markersIn_iff _ marker).mp (hmarkers ▸ List.mem_singleton_self marker)).2
    rw [markersIn_of_single known document h marker hmarkers] at hfilled
    -- A marker without keys would show one that is empty.
    have hshown : shownKeys marker = splitKeys keys := by
      rw [shownKeys, hnamed]
      split
      · next hnone => exact absurd hnone hkeys
      · rfl
    refine ⟨marker.filled known, (select_cite _).trans (congrArg Except.ok hfilled), rfl, ?_⟩
    rw [marker.filled_of_marker known hname, text_withChildren, markerText, markerReferences, hshown]
    rfl
  · rintro ⟨e, he, hplace, hout⟩
    have hknown : ∀ m ∈ markersIn document.nodes, ∀ key ∈ markerKeys m, key ∈ known.cited := by
      intro m hm key hkey
      rw [hmarkers, List.mem_singleton] at hm
      rw [hcited, List.mem_eraseDups, ← hnamed, ← hm]
      exact hkey
    have houtside : Outside document.nodes e := by
      intro m hm
      rw [hmarkers, List.mem_singleton] at hm
      rw [hm]
      exact hout
    rcases list_of_render verbose document h _ hdone rendered known hstate hknown
      ⟨e, he, hplace, houtside⟩ with ⟨found, id, hfound, hlast⟩
    let printed := (splitKeys keys).map fun key =>
      String.ofList (Text.trimEnd (lineText (bibliographyLine (known.entry key))).toList)
    refine ⟨found, id, listItems known (id + 1) known.cited, printed, hfound, hlast, ?_, ?_, rfl,
      List.length_map _, fun i key hkey => ?_⟩
    · intro item hitem
      rcases List.mem_iff_getElem?.mp hitem with ⟨n, hn⟩
      rw [getElem?_listItems, Option.map_eq_some_iff] at hn
      rcases hn with ⟨key, -, rfl⟩
      rfl
    · rw [length_listItems, hcited]
    · rcases items_of_keys known (id + 1) (splitKeys keys) hcited i key hkey with
        ⟨n, item, hn, hitem, htext⟩
      refine ⟨n, item, hn, hitem, ?_⟩
      rw [htext, List.getElem?_map, hkey]
      rfl

/-- Two keys, of which the second is known and the first is not and is named again. -/
theorem cite_agrees_with_render_repeated :
    let keys := "b, a,,b"
    let bibliography := Bibliography.ofList [("a", { author := "Doe, Jane", year := some "2020" })]
    let article := Document.parse
      "<dt-cite key=\"b, a,,b\"></dt-cite><dt-bibliography></dt-bibliography>"
    let rendered := ((Pipeline.standard {}).render false (article, { bibliography })).state.1
    citation keys .numeric bibliography = "[?, 2, ?]\n" ∧
      citation keys .full bibliography = "?\nDoe, J., 2020. . .\n?\n" ∧
      (∃ shown, rendered.select "dt-cite" = .ok [shown] ∧
        citation keys .numeric bibliography = lines [shown.text]) ∧
      ∃ found, rendered.selectFirst "dt-bibliography" = .ok (some found) := by
  intro keys bibliography article rendered
  have hdone : ((Pipeline.standard {}).render false (article, { bibliography })).failure = none := by
    decide +kernel
  have hone : (markersIn article.nodes).map
      (fun marker => (marker.attribute? "key", marker.children.isEmpty)) = [(some keys, true)] := by
    decide +kernel
  rcases List.map_eq_singleton_iff.mp hone with ⟨marker, hmarker, hpair⟩
  rcases Prod.mk.inj hpair with ⟨hattribute, hempty⟩
  have hselect : article.select "dt-cite" = .ok [marker] :=
    (select_cite article).trans (congrArg Except.ok hmarker)
  have hblocks : ((elementsIn article.nodes).filter Element.isBlock).isEmpty = true := by
    decide +kernel
  have hplace : (elementsIn article.nodes).any (fun e => e.tag.name = "dt-bibliography") = true := by
    decide +kernel
  rcases List.any_eq_true.mp hplace with ⟨e, he, hname⟩
  rcases cite_agrees_with_render keys (by decide +kernel) bibliography article
    (Document.parse_numbered _) marker hselect hattribute
    ((select_blocks article).trans (congrArg Except.ok (List.isEmpty_iff.mp hblocks))) false hdone
    with ⟨-, ⟨shown, hshown, -, hnumeric⟩, hlist⟩
  have hout : e ∉ elementsIn marker.children := by
    rw [List.isEmpty_iff.mp hempty]
    exact List.not_mem_nil
  rcases hlist ⟨e, he, of_decide_eq_true hname, hout⟩ with ⟨found, -, -, -, hfound, -⟩
  exact ⟨by decide +kernel, by decide +kernel, ⟨shown, hshown, hnumeric⟩, found, hfound⟩

end CiteRender
