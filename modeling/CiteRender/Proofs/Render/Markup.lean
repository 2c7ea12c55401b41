import CiteRender.Proofs.Html.Endings
import CiteRender.Proofs.Html.Escaping
import CiteRender.Proofs.Render.Warnings

/-!
# No Markup in Citations

Titles and names come from outside and may hold tags, ampersands or references. None
of them gets into the page as markup. A line of the bibliography becomes one text in
its item, and is escaped when the item is printed, so the list is made of the tags of
its items and of nothing else. A citation has only brackets, commas, spaces, question
marks and digits in it, and is printed as it is.

A marker is filled before the list gets its place, and may have lost its own place to
a marker around it by then. It is found by its number, wherever it is, and opens as it
did in the original. The placeholder has another name, so the list is in no marker.

## Main definitions

* `IsCitationChar`: The characters of citations.
* `printedItem`: How the item of a key is printed.

## Theorems

* `isCitationChar_numericText`: What a citation is made of.
* `print_withText`: An element with one text in it.
* `outer_referenceList`: How the list of references is printed.
* `exists_filled_marker`, `outer_filled_marker`: A filled marker opens as it did, and how it
  is printed.
* `renderCitations_markup`: What the stage adds to a document.
-/

namespace CiteRender

open Node Document Html

/-- A character that a citation can have in it. -/
def IsCitationChar (c : Char) : Prop :=
  c ∈ ['[', ']', ',', ' ', '?'] ∨ c.isDigit = true

/-- How the item of a key is printed. -/
def printedItem (ledger : Ledger) (key : String) : List Char :=
  "<li>".toList ++ escapeText (lineText (bibliographyLine (ledger.entry key))).toList ++
    "</li>".toList

theorem isCitationChar_text (reference : Reference Nat) :
    ∀ c ∈ reference.text decimal, IsCitationChar c := by
  intro c hc
  rcases mem_referenceText reference c hc with rfl | hdigit
  · exact Or.inl (by decide)
  · exact Or.inr hdigit

/-- A citation is made of brackets, commas, spaces, question marks and digits. -/
theorem isCitationChar_numericText (references : List (Reference Nat)) :
    ∀ c ∈ (numericText references).toList, IsCitationChar c := by
  intro c hc
  rw [numericText, String.toList_ofList, List.cons_append, List.mem_cons, List.mem_append,
    List.mem_singleton] at hc
  rcases hc with rfl | hc | rfl
  · exact Or.inl (by decide)
  · by_cases hsep : c ∈ referenceSeparator
    · rw [referenceSeparator, List.mem_cons, List.mem_singleton] at hsep
      rcases hsep with rfl | rfl
      all_goals exact Or.inl (by decide)
    · rcases (Text.mem_intercalate referenceSeparator _ c hsep).mp hc with ⟨part, hpart, hcpart⟩
      rcases List.mem_map.mp hpart with ⟨reference, -, rfl⟩
      exact isCitationChar_text reference c hcpart
  · exact Or.inl (by decide)

/-- No character of a citation is written as a reference. -/
theorem IsCitationChar.not_mem {c : Char} (h : IsCitationChar c) :
    c ∉ references.map Prod.snd := by
  intro hmem
  simp only [references, List.map_cons, List.map_nil, List.mem_cons, List.not_mem_nil,
    or_false] at hmem
  rcases hmem with rfl | rfl | rfl | rfl
  all_goals exact absurd h (by unfold IsCitationChar; decide)

/-- An element that has only a text in it, and no name that is printed in a way of its
    own. -/
theorem print_withText (e : Element Nat) (name text : String) (hname : e.tag.name = name)
    (hplain : name ∉ "template" :: (voidNames ++ rawNames)) (htext : e.children = [.text text]) :
    e.node.print false false =
      printStart e.tag e.attributes ++ escapeText text.toList ++ printClose e.tag := by
  rw [List.mem_cons, List.mem_append, not_or, not_or, ← hname] at hplain
  rcases hplain with ⟨htemplate, hvoid, hraw⟩
  have hshown : isRaw e.tag = false := by
    rw [isRaw, Tag.isOneOf, List.contains_eq_mem, decide_eq_false hraw, Bool.and_false]
  rw [Element.node, print_element, htext, hshown, printAll, printAll, List.append_nil, print_text]
  · rw [Tag.isNamed, decide_eq_false htemplate, Bool.and_false]
  · rw [isVoid, Tag.isOneOf, List.contains_eq_mem, decide_eq_false hvoid, Bool.and_false]

theorem print_listItem (ledger : Ledger) (id : Nat) (key : String) :
    (listItem ledger id key).node.print false false = printedItem ledger key := by
  have hstart : printStart (Tag.html "li") [] = "<li>".toList := by decide
  have hclose : printClose (Tag.html "li") = "</li>".toList := by decide
  rw [printedItem, ← hstart, ← hclose]
  exact print_withText (listItem ledger id key) "li" _ rfl (by decide) rfl

theorem printAll_listItems (ledger : Ledger) (keys : List String) :
    ∀ id, printAll false false ((listItems ledger id keys).map Element.node) =
      keys.flatMap (printedItem ledger) := by
  induction keys with
  | nil => exact fun _ => rfl
  | cons key keys ih =>
      intro id
      rw [listItems, List.map_cons, printAll, print_listItem, ih, List.flatMap_cons]

/-- The list of references is printed as its items, one for each cited key. -/
theorem outer_referenceList (ledger : Ledger) (id : Nat) :
    (referenceList ledger id).outer =
      String.ofList ("<ol>".toList ++ ledger.cited.flatMap (printedItem ledger) ++
        "</ol>".toList) := by
  have hprint := print_element id (Tag.html "ol") [] []
    ((listItems ledger (id + 1) ledger.cited).map Element.node) (by decide) (by decide)
  rw [show isRaw (Tag.html "ol") = false by decide, printAll_listItems] at hprint
  exact congrArg String.ofList hprint

/-- A filled marker is still there, opens as it did, and has its text in it and nothing
    else. -/
theorem exists_filled_marker (ledger : Ledger) (document : Document) (h : document.Numbered)
    (markers : List (Element Nat)) (hmarkers : markers.Sublist (elementsIn document.nodes))
    (m : Element Nat) (hm : m ∈ markers) :
    ∃ e ∈ elementsIn (fillMarkers ledger document markers).trees, e.OpensLike m ∧
      e.children = [.text (markerText ledger m)] := by
  rcases mem_fillMarkers ledger document h markers hmarkers m hm with ⟨e, he, hlabel, htext⟩
  rcases fillMarkers_opensLike_trees ledger document h markers e he with ⟨x, hx, hlike⟩
  have hsame : x = m := eq_of_mem_trees document h x m hx
    (document.mem_trees m (hmarkers.subset hm)) (hlike.1.symm.trans hlabel)
  exact ⟨e, he, hsame ▸ hlike, htext⟩

/-- A filled marker is printed as its own tags with its citation between them. -/
theorem outer_filled_marker (ledger : Ledger) (m e : Element Nat) (hlike : e.OpensLike m)
    (hname : m.tag.name = "dt-cite") (htext : e.children = [.text (markerText ledger m)]) :
    e.outer = String.ofList (printStart m.tag m.attributes ++ (markerText ledger m).toList ++
      printClose m.tag) := by
  rcases hlike with ⟨-, htag, hattributes⟩
  have hplain : escapeText (markerText ledger m).toList = (markerText ledger m).toList :=
    escapeText_eq_self _ fun c hc => (isCitationChar_numericText _ c hc).not_mem
  have hprint := print_withText e "dt-cite" _ (by rw [htag, hname]) (by decide) htext
  rw [hplain, htag, hattributes] at hprint
  exact congrArg String.ofList hprint

/-- The placeholder is another element than a marker, as it has another name. -/
theorem label_ne_of_marker (document : Document) (h : document.Numbered)
    (found : Option (Element Nat)) (hfound : document.selectFirst "dt-bibliography" = .ok found)
    (e : Element Nat) (he : e ∈ elementsIn document.trees) (hname : e.tag.name = "dt-cite") :
    found.map Element.label ≠ some e.label := by
  intro hself
  rcases Option.map_eq_some_iff.mp hself with ⟨placeholder, rfl, hsame⟩
  have hfirst := Except.ok.inj ((selectFirst_bibliography document).symm.trans hfound)
  have hmem := document.mem_trees placeholder (List.mem_of_find?_eq_some hfirst)
  have hnamed := List.find?_some hfirst
  rw [eq_of_mem_trees document h placeholder e hmem he hsame, hname] at hnamed
  exact absurd hnamed (by decide)

/-- What the stage adds to a document, with the default names. The placeholder gets one list
    behind what it had in it, printed as an item for each cited key with the escaped line of
    the key. Each marker is printed as its own tags with its citation between them. -/
theorem renderCitations_markup (verbose : Bool) (ledger : Ledger) (document : Document)
    (h : document.Numbered) :
    let run := (renderCitations {}).run verbose ledger document
    run.failure = none ∧
    (∃ markers, document.select "dt-cite" = .ok markers ∧
      (∀ placeholder,
        (fillMarkers ledger document markers).selectFirst "dt-bibliography" =
          .ok (some placeholder) →
        ∃ list : Element Nat, run.state.element? placeholder.label =
            some (placeholder.withChildren (placeholder.children ++ [list.node])) ∧
          list.outer = String.ofList
            ("<ol>".toList ++ ledger.cited.flatMap (printedItem ledger) ++ "</ol>".toList)) ∧
      ∀ m ∈ markers, ∃ e, run.state.element? m.label = some e ∧
        e.outer = String.ofList (printStart m.tag m.attributes ++ (markerText ledger m).toList ++
          printClose m.tag)) ∧
    (∀ m, ∀ c ∈ (markerText ledger m).toList, IsCitationChar c) ∧
    ∀ text, IsEscaped text (escapeText text) := by
  intro run
  have hdone : run.failure = none := (renderCitations_default verbose ledger document h).1
  refine ⟨hdone, ?_, fun m => isCitationChar_numericText _, isEscaped_escapeText⟩
  rcases renderCitations_done {} verbose ledger document h hdone with
    ⟨markers, found, hmarkers, hfound, hstate⟩
  have hmarked := fillMarkers_numbered ledger document h markers
  have hlisted := renderCitations_numbered {} verbose ledger document h
  rw [hstate] at hlisted
  -- The list goes behind what the placeholder holds; a marker is no placeholder, and holds its text
  -- alone.
  refine ⟨markers, hmarkers, fun placeholder hplaceholder => ?_, fun m hm => ?_⟩
  · obtain rfl : found = some placeholder := Except.ok.inj (hfound.symm.trans hplaceholder)
    have hmem := mem_trees _ placeholder (mem_of_selectFirst _ _ placeholder hfound)
    refine ⟨referenceList ledger (fillMarkers ledger document markers).next, ?_,
      outer_referenceList ledger _⟩
    show ((renderCitations {}).run verbose ledger document).state.element? _ = _
    rw [hstate]
    exact element?_of_mem _ hlisted _ (mem_withReferences_self ledger _ hmarked placeholder hmem)
  · have hsublist := document.select_sublist _ markers hmarkers
    rcases exists_filled_marker ledger document h markers hsublist m hm with
      ⟨e, he, hlike, htext⟩
    have hname : m.tag.name = "dt-cite" := by
      rw [← Except.ok.inj ((select_cite document).symm.trans hmarkers)] at hm
      simpa using (List.mem_filter.mp hm).2
    have hother := label_ne_of_marker _ hmarked found hfound e he (by rw [hlike.2.1, hname])
    have hplace := element?_withList ledger _ hmarked found hlisted e he _ htext
    rw [if_neg hother, ← htext, hlike.1] at hplace
    refine ⟨e, ?_, outer_filled_marker ledger m e hlike hname htext⟩
    show ((renderCitations {}).run verbose ledger document).state.element? _ = _
    rw [hstate]
    exact hplace

/-- A title with a tag and a reference in it. -/
theorem renderCitations_markup_title :
    let document := Document.parse
      "<dt-cite key=a>x<i>y</i></dt-cite><p><dt-bibliography>z</dt-bibliography></p>"
    let ledger : Ledger :=
      { cited := ["a", "b"], bibliography := .ofList [("a", { title := some "<b>&lt;" })] }
    let run := (renderCitations {}).run false ledger document
    run.failure = none ∧
      (∃ placeholder list : Element Nat, run.state.element? placeholder.label =
          some (placeholder.withChildren (placeholder.children ++ [list.node])) ∧
        list.outer = "<ol><li>, . &lt;b&gt;&amp;lt;. . </li><li>?</li></ol>") ∧
      ∀ m ∈ markersIn document.nodes, ∃ e, run.state.element? m.label = some e ∧
        e.outer = String.ofList (printStart m.tag m.attributes ++ (markerText ledger m).toList ++
          printClose m.tag) := by
  intro document ledger run
  have hsome : ((elementsIn (fillMarkers ledger document (markersIn document.nodes)).nodes).find?
      fun e => e.tag.name = "dt-bibliography").isSome = true := by decide +kernel
  have hitems : "<ol>".toList ++ ledger.cited.flatMap (printedItem ledger) ++ "</ol>".toList =
      "<ol><li>, . &lt;b&gt;&amp;lt;. . </li><li>?</li></ol>".toList := by decide +kernel
  rcases renderCitations_markup false ledger document (Document.parse_numbered _) with
    ⟨hdone, ⟨markers, hmarkers, hlist, hmarker⟩, -⟩
  obtain rfl : markersIn document.nodes = markers :=
    Except.ok.inj ((select_cite document).symm.trans hmarkers)
  rcases Option.isSome_iff_exists.mp hsome with ⟨placeholder, hplaceholder⟩
  rcases hlist placeholder (by rw [selectFirst_bibliography, hplaceholder]) with
    ⟨list, hplace, houter⟩
  rw [hitems, String.ofList_toList] at houter
  exact ⟨hdone, ⟨placeholder, list, hplace, houter⟩, hmarker⟩

end CiteRender
