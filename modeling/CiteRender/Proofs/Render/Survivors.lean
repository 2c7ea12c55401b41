import CiteRender.Proofs.Render.Outermost

/-!
# What Survives a Render

Markers are counted before they are filled, and filling one drops what was in
it. So a key can be numbered and listed whose only marker is not there any more,
and a document can have a placeholder and end up without a list. The parser
makes such documents readily, since a marker that is never closed holds all that
comes behind it.

What survives is told by the original alone. A key is still named exactly if a
marker names it that no other marker holds, and there is still a place for the
list exactly if the original has one that no marker holds.

## Theorems

* `cited_eq_of_render`: The keys that a render numbers.
* `exists_marker_iff`, `exists_named_iff`: What is left once markers are filled.
* `render_survivors`: The keys and the list in a rendered document.
-/

namespace CiteRender

open Node Document

theorem namedKeys_default (document : Document) :
    namedKeys {} document = (markersIn document.nodes).flatMap markerKeys := by
  rw [namedKeys, show document.select ({} : Config).citeTag = _ from select_cite document]
  rfl

/-- A render that is done has done its extraction. -/
theorem extracted_of_render (config : Config) (verbose : Bool) (document : Document)
    (ledger : Ledger)
    (hdone : ((Pipeline.standard config).render verbose (document, ledger)).failure = none) :
    (runStages .extract verbose document (Pipeline.standard config).extractors ledger).failure =
      none := by
  rcases (Pipeline.standard config).render_cases verbose document ledger with
    ⟨error, -, -, herror⟩ | ⟨hextracted, -⟩ | ⟨hextracted, -⟩
  · exact absurd (hdone.symm.trans herror) (by simp)
  · exact hextracted
  · exact hextracted

/-- A render that is done has read all bibliography blocks. -/
theorem isReadable_of_render (config : Config) (verbose : Bool) (document : Document)
    (ledger : Ledger)
    (hdone : ((Pipeline.standard config).render verbose (document, ledger)).failure = none) :
    isReadable config document = true := by
  have hextracted := extracted_of_render config verbose document ledger hdone
  rw [Pipeline.standard, runStages, Run.forEach, Run.andThen_failure_eq_none_iff, runStage,
    Option.map_eq_none_iff] at hextracted
  exact (extractBibliography_failure_eq_none_iff config verbose document ledger).mp hextracted.1

/-- The keys that a render numbers are those of all markers. -/
theorem cited_eq_of_render (config : Config) (verbose : Bool) (document : Document)
    (bibliography : Bibliography)
    (hdone : ((Pipeline.standard config).render verbose (document, { bibliography })).failure =
      none) :
    ((Pipeline.standard config).render verbose (document, { bibliography })).state.2.cited =
      (namedKeys config document).eraseDups := by
  have hknown := render_recordsOf config verbose document [] { bibliography } rfl
  rw [if_pos (isReadable_of_render config verbose document { bibliography } hdone),
    List.nil_append] at hknown
  exact hknown

/-- Of the keys that markers name, those are still named once the outermost markers are
    filled that a marker outside all others names. -/
theorem exists_marker_iff (ledger : Ledger) (nodes : List (Node Nat))
    (hnodup : (labelsOf nodes).Nodup) (key : String) :
    (∃ m ∈ markersIn (fillOutermostIn ledger nodes), key ∈ markerKeys m) ↔
      ∃ m ∈ markersIn nodes, Outside nodes m ∧ key ∈ markerKeys m := by
  constructor
  · rintro ⟨m, hm, hkey⟩
    rcases (mem_markersIn_iff _ m).mp hm with ⟨hmem, hname⟩
    rcases (mem_fillOutermostIn_iff ledger nodes hnodup m).mp hmem with ⟨e, he, hout, rfl⟩
    exact ⟨e, (mem_markersIn_iff nodes e).mpr ⟨he, hname⟩, hout, hkey⟩
  · rintro ⟨e, he, hout, hkey⟩
    rcases (mem_markersIn_iff nodes e).mp he with ⟨hmem, hname⟩
    have hleft := (mem_fillOutermostIn_iff ledger nodes hnodup _).mpr ⟨e, hmem, hout, rfl⟩
    exact ⟨e.filled ledger, (mem_markersIn_iff _ _).mpr ⟨hleft, hname⟩, hkey⟩

/-- The elements of a name that are left once the outermost markers are filled. -/
theorem exists_named_iff (ledger : Ledger) (nodes : List (Node Nat))
    (hnodup : (labelsOf nodes).Nodup) (name : String) :
    numbersOf name (fillOutermostIn ledger nodes) ≠ [] ↔
      ∃ e ∈ elementsIn nodes, e.tag.name = name ∧ Outside nodes e := by
  rw [numbersOf, labelsNamed, Ne, List.map_eq_nil_iff, List.filter_eq_nil_iff]
  push Not
  constructor
  · rintro ⟨x, hx, hname⟩
    rcases (mem_fillOutermostIn_iff ledger nodes hnodup x).mp hx with ⟨e, he, hout, rfl⟩
    exact ⟨e, he, of_decide_eq_true hname, hout⟩
  · rintro ⟨e, he, hname, hout⟩
    exact ⟨e.filled ledger, (mem_fillOutermostIn_iff ledger nodes hnodup _).mpr ⟨e, he, hout, rfl⟩,
      decide_eq_true hname⟩

/-- What is left of the citations of a document that is rendered with the default names
    and no earlier citations. All keys of all its markers are numbered. The rendered
    document has a marker for such a key exactly if a marker names it that is in no
    other marker, and it has a placeholder with the list at its end exactly if the
    document has a placeholder that is in no marker. -/
theorem render_survivors (document : Document) (h : document.Numbered)
    (bibliography : Bibliography) (verbose : Bool)
    (hdone : ((Pipeline.standard {}).render verbose (document, { bibliography })).failure = none) :
    ∃ rendered known,
      ((Pipeline.standard {}).render verbose (document, { bibliography })).state =
        (rendered, known) ∧
      (∀ key, key ∈ known.cited ↔ ∃ m ∈ markersIn document.nodes, key ∈ markerKeys m) ∧
      (∀ key, (∃ m ∈ markersIn rendered.nodes, key ∈ markerKeys m) ↔
        ∃ m ∈ markersIn document.nodes, Outside document.nodes m ∧ key ∈ markerKeys m) ∧
      ((∃ e ∈ elementsIn rendered.nodes, e.tag.name = "dt-bibliography" ∧
          ∃ list, e.children.getLast? = some list ∧ IsListOf known list) ↔
        ∃ e ∈ elementsIn document.nodes, e.tag.name = "dt-bibliography" ∧
          Outside document.nodes e) := by
  rcases render_tree verbose document h { bibliography } hdone with
    ⟨rendered, known, filled, body, hstate, hfilled, hnumbered, -, hbody, hrendered, -, hmarkers⟩
  have hcited := cited_eq_of_render {} verbose document bibliography hdone
  rw [hstate, namedKeys_default] at hcited
  have hknown (key : String) :
      key ∈ known.cited ↔ ∃ m ∈ markersIn document.nodes, key ∈ markerKeys m := by
    rw [show known.cited = _ from hcited, List.mem_eraseDups, List.mem_flatMap]
  refine ⟨rendered, known, hstate, hknown, fun key => ?_, ?_⟩
  · rw [hmarkers]
    exact exists_marker_iff known document.nodes h.nodup_nodes key
  · -- The placeholders are those that the filling left, and the first ends in the list.
    let marked := fillMarkers known document (markersIn document.nodes)
    have hmarked : marked.Numbered := fillMarkers_numbered known document h _
    have hshow := fillMarkers_markersShow known document h _ rfl fun m hm key hkey =>
      (hknown key).mpr ⟨m, hm, hkey⟩
    rcases fillBibliography_keeps known marked hmarked hshow filled hfilled with
      ⟨-, hshow, hkept, hends⟩
    have hmark : filled.mark "distill-prerendered" = .ok rendered := by
      rw [mark, hbody, hrendered]
    rcases mark_keeps known filled rendered hnumbered hmark hshow with ⟨-, hstill, hends'⟩
    -- The list and the mark leave the placeholders as they are, so the markers alone decide.
    have hnumbers : numbersOf "dt-bibliography" rendered.nodes =
        numbersOf "dt-bibliography" marked.nodes :=
      (hstill _).trans (hkept _ (by simp) (by simp))
    rw [← exists_named_iff known document.nodes h.nodup_nodes,
      ← fillMarkers_nodes known document h, ← hnumbers]
    -- The first of them is the one that the list went to.
    constructor
    · rintro ⟨e, he, hname, -⟩ hnil
      have hmem : e.label ∈ numbersOf "dt-bibliography" rendered.nodes :=
        List.mem_map_of_mem (List.mem_filter.mpr ⟨he, decide_eq_true hname⟩)
      rw [hnil] at hmem
      exact List.not_mem_nil hmem
    · intro hne
      have hfound := find?_numbersOf "dt-bibliography" rendered.nodes
      have hplaceholder := find?_numbersOf "dt-bibliography" marked.nodes
      rw [List.head?_eq_some_head hne, Option.map_eq_some_iff] at hfound
      rcases hfound with ⟨e, he, hlabel⟩
      rw [← hnumbers, List.head?_eq_some_head hne, Option.map_eq_some_iff] at hplaceholder
      rcases hplaceholder with ⟨placeholder, hfirst, hsame⟩
      have htest := List.find?_some he
      have hname : e.tag.name = "dt-bibliography" := of_decide_eq_true htest
      have hmem := List.mem_of_find?_eq_some he
      have hplaced : marked.selectFirst "dt-bibliography" = .ok (some placeholder) := by
        rw [selectFirst_bibliography, hfirst]
      have hlast := hends' _ _ (hends placeholder hplaced) e hmem hname (hlabel.trans hsame.symm)
      have hnodup : known.cited.Nodup := by
        rw [show known.cited = _ from hcited]
        exact nodup_eraseDups _
      exact ⟨e, hmem, hname, _, hlast, referenceList_isListOf known hnodup _⟩

/-- A marker that is repeated inside another, and a placeholder behind both. -/
theorem render_survivors_repeated :
    let article := Document.parse
      ("<dt-cite key=a><dt-cite key=b></dt-cite></dt-cite><dt-cite key=b></dt-cite>" ++
        "<dt-bibliography></dt-bibliography>")
    ∃ rendered known,
      ((Pipeline.standard {}).render false (article, {})).state = (rendered, known) ∧
      (∀ key, key ∈ known.cited ↔ ∃ m ∈ markersIn article.nodes, key ∈ markerKeys m) ∧
      (∀ key, (∃ m ∈ markersIn rendered.nodes, key ∈ markerKeys m) ↔
        ∃ m ∈ markersIn article.nodes, Outside article.nodes m ∧ key ∈ markerKeys m) ∧
      ((∃ e ∈ elementsIn rendered.nodes, e.tag.name = "dt-bibliography" ∧
          ∃ list, e.children.getLast? = some list ∧ IsListOf known list) ↔
        ∃ e ∈ elementsIn article.nodes, e.tag.name = "dt-bibliography" ∧
          Outside article.nodes e) :=
  render_survivors _ (Document.parse_numbered _) ∅ false (by decide +kernel)

/-- A marker with another and the placeholder inside: the second key is numbered though
    no marker names it any more, and the list has no place. -/
theorem render_loses_nested :
    let article := Document.parse
      ("<dt-cite key=a><dt-cite key=b></dt-cite><dt-bibliography></dt-bibliography></dt-cite>")
    let run := (Pipeline.standard {}).render false (article, {})
    run.failure = none ∧ run.state.2.cited = ["a", "b"] ∧
      (markersIn run.state.1.nodes).flatMap markerKeys = ["a"] ∧
      (numbersOf "dt-bibliography" article.nodes).length = 1 ∧
      numbersOf "dt-bibliography" run.state.1.nodes = [] := by
  decide +kernel

end CiteRender
