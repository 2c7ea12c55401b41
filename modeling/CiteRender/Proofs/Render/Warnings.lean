import CiteRender.Proofs.Citation.Numerals
import CiteRender.Proofs.Render.Notices
import CiteRender.Proofs.Render.OnePass
import CiteRender.Proofs.Text.Spacing

/-!
# Warnings of Degraded Markers

What the stage that renders the citations reports, set beside what it leaves in
the document. A marker shows a question mark for each key without a number or
an entry, a warning is given for the marker, and the warnings are counted for
the summary. The three come from different places: the text from the references
as they are shown, the warning and the count from a test of the references
themselves. They agree because no number and no separator has a question mark
in it.

What a marker shows is read off the document that the stage leaves, where the
marker may have lost its place to one that held it. If a marker is itself the
placeholder of the bibliography, the list follows its citation. The items of the
list have question marks of their own, for which no warning is given, so the
citation of a marker is the text that it begins with.

A key that has an entry and no number is reported apart. In a render every key
of a marker has been recorded before, so the empty key, which stands in for the
keys of a marker that has none, is the only one that this can happen to.

## Main definitions

* `Run.unresolved`, `Run.uncited`: The warnings of a run, by what they name.
* `Document.citationAt`: The text that an element begins with.
* `withList`: A document with the list in its placeholder.
* `Reported`: Warnings, summary and document agree.

## Theorems

* `renderCitations_events`, `renderCitations_done`: The events of the stage, and what
  it leaves.
* `element?_withList`: What is in a marker then.
* `marker_of_withList`, `citationAt_withList`: Where a marker is, and its citation.
* `renderCitations_reported`: What the stage reports if it is done.
* `uncited_render`, `neverCited_extracted`: Keys that are never cited, step by step.
* `render_uncited_keys`: The keys that a render reports as never cited.
* `warnings_of_markers`: Both together.
-/

namespace CiteRender

open Node Document

/-! Events. -/

/-- The keys of a marker that shows a placeholder, of the warning that says so. -/
def Event.unresolvedKeys? : Event → Option (List String)
  | .unresolved keys => some keys
  | _ => none

/-- The key that has an entry and no number, of the warning that says so. -/
def Event.uncitedKey? : Event → Option String
  | .neverCited key => some key
  | _ => none

namespace Run

variable {α σ ε : Type}

/-- The keys of the markers that a run warns of, in the order of the warnings. -/
def unresolved (run : Run σ ε) : List (List String) :=
  run.events.filterMap Event.unresolvedKeys?

/-- The keys that a run reports as never cited, in the order of the warnings. -/
def uncited (run : Run σ ε) : List String :=
  run.events.filterMap Event.uncitedKey?

theorem uncited_andThen_of_done (run : Run σ ε) (next : σ → Run σ ε) (h : run.failure = none) :
    (run.andThen next).uncited = run.uncited ++ (next run.state).uncited := by
  rw [andThen_of_done run next h]
  exact List.filterMap_append ..

/-- A run of steps that report no key reports none. -/
theorem uncited_andThen (run : Run σ ε) (next : σ → Run σ ε)
    (hnext : ∀ state, (next state).uncited = []) : (run.andThen next).uncited = run.uncited := by
  rcases hfail : run.failure with _ | error
  · rw [uncited_andThen_of_done run next hfail, hnext, List.append_nil]
  · rw [andThen_of_failure run next error hfail]

theorem uncited_forEach (step : α → σ → Run σ ε) (items : List α)
    (hstep : ∀ item ∈ items, ∀ state, (step item state).uncited = []) :
    ∀ state, (forEach step items state).uncited = [] := by
  induction items with
  | nil => exact fun _ => rfl
  | cons item items ih =>
      rw [List.forall_mem_cons] at hstep
      intro state
      rw [forEach, uncited_andThen _ _ (ih hstep.2), hstep.1]

end Run

theorem uncitedKey?_notice (verbose : Bool) (event : Event) (h : event.uncitedKey? = none) :
    (notice verbose event).filterMap Event.uncitedKey? = [] := by
  cases verbose with
  | false => rfl
  | true => exact List.filterMap_cons_none h

/-! What a marker shows. -/

/-- The text that an element begins with. -/
def Element.leadingText (e : Element Nat) : String :=
  match e.children with
  | .text s :: _ => s
  | _ => ""

/-- The text that the element of a number begins with: the citation, if it is a
    marker that was filled. -/
def Document.citationAt (document : Document) (id : Nat) : String :=
  ((document.element? id).map Element.leadingText).getD ""

/-- What a stage that is done reports, of the markers that it found, the number of
    the placeholder that got a list, and what it leaves. -/
structure Reported (ledger : Ledger) (verbose : Bool) (markers : List (Element Nat))
    (listed : Option Nat) (run : Run Document StageError) : Prop where
  /-- the markers whose citations have a question mark, in document order, by their keys -/
  warned : run.unresolved =
    (markers.filter fun m => '?' ∈ (run.state.citationAt m.label).toList).map markerKeys
  /-- a marker has its citation in it, and nothing else but the list -/
  held : ∀ m ∈ markers, ∃ e, run.state.element? m.label = some e ∧
    (listed ≠ some m.label → e.children = [.text (run.state.citationAt m.label)]) ∧
    (listed = some m.label → e.children.dropLast = [.text (run.state.citationAt m.label)])
  /-- the placeholder ends in the list, with an item for each cited key -/
  list : ∀ id, listed = some id → ∃ e label items, run.state.element? id = some e ∧
    e.children.getLast? = some (.element label (Tag.html "ol") [] [] items) ∧
    List.Forall₂ (IsItemOf ledger) ledger.cited items ∧ items.length = ledger.cited.length
  /-- the summary counts the cited keys and the warnings; it is the last event, and the
      only one that is no warning -/
  summary : ∃ warnings, (∀ event ∈ warnings, event.level = .warn) ∧
    run.events = warnings ++ notice verbose (.rendered ledger.cited.length run.unresolved.length)

/-! The events of the stage. -/

theorem unresolvedKeys?_markerEvents (ledger : Ledger) (marker : Element Nat) :
    (markerEvents ledger marker).filterMap Event.unresolvedKeys? =
      if isDegraded (markerReferences ledger marker) then [markerKeys marker] else [] := by
  have hnone : ((ledger.neverCited (shownKeys marker)).map Event.neverCited).filterMap
      Event.unresolvedKeys? = [] := by
    simp [List.filterMap_map, Function.comp_def, Event.unresolvedKeys?]
  rw [markerEvents, List.filterMap_append, hnone, List.nil_append]
  split
  · rfl
  · rfl

theorem uncitedKey?_markerEvents (ledger : Ledger) (marker : Element Nat) :
    (markerEvents ledger marker).filterMap Event.uncitedKey? =
      ledger.neverCited (shownKeys marker) := by
  have hall : ((ledger.neverCited (shownKeys marker)).map Event.neverCited).filterMap
      Event.uncitedKey? = ledger.neverCited (shownKeys marker) := by
    simp [List.filterMap_map, Function.comp_def, Event.uncitedKey?]
  have hnone : (if isDegraded (markerReferences ledger marker) then
      [Event.unresolved (markerKeys marker)] else []).filterMap Event.uncitedKey? = [] := by
    split
    · rfl
    · rfl
  rw [markerEvents, List.filterMap_append, hall, hnone, List.append_nil]

/-- The keys of the degraded markers, in order. -/
def degradedKeys (ledger : Ledger) (markers : List (Element Nat)) : List (List String) :=
  (markers.filter fun m => isDegraded (markerReferences ledger m)).map markerKeys

theorem flatMap_ite_singleton {α β : Type} (items : List α) (p : α → Bool) (f : α → β) :
    (items.flatMap fun item => if p item then [f item] else []) = (items.filter p).map f := by
  induction items with
  | nil => rfl
  | cons item items ih =>
      rw [List.flatMap_cons, ih, List.filter_cons]
      split
      · rfl
      · rfl

theorem unresolvedKeys?_flatMap (ledger : Ledger) (markers : List (Element Nat)) :
    (markers.flatMap (markerEvents ledger)).filterMap Event.unresolvedKeys? =
      degradedKeys ledger markers := by
  rw [List.filterMap_flatMap, degradedKeys, ← flatMap_ite_singleton]
  exact List.flatMap_congr fun m _ => unresolvedKeys?_markerEvents ledger m

/-- The events of the stage, if the markers are found: what is reported of them, and
    the summary if nothing fails behind them. -/
theorem renderCitations_events (config : Config) (verbose : Bool) (ledger : Ledger)
    (document : Document) (markers : List (Element Nat))
    (hmarkers : document.select config.citeTag = .ok markers) :
    let run := (renderCitations config).run verbose ledger document
    run.events = markers.flatMap (markerEvents ledger) ++
      match run.failure with
      | some _ => []
      | none => notice verbose (.rendered ledger.cited.length (degradedCount ledger markers)) := by
  intro run
  have hrun : run = (renderCitations config).run verbose ledger document := rfl
  rw [renderCitations] at hrun
  dsimp only at hrun
  rw [hmarkers] at hrun
  rw [hrun]
  dsimp only
  rcases fillBibliography config ledger (fillMarkers ledger document markers) with error | filled
  · exact (List.append_nil _).symm
  · rfl

/-! What the stage leaves. -/

/-- A document with the list of references in the placeholder that was found, if any. -/
def withList (ledger : Ledger) (document : Document) (found : Option (Element Nat)) : Document :=
  match found with
  | none => document
  | some placeholder => withReferences ledger document placeholder.label

/-- What the stage leaves if it is done: the filled markers, and the list in the first
    placeholder that is found among them. -/
theorem renderCitations_done (config : Config) (verbose : Bool) (ledger : Ledger)
    (document : Document) (h : document.Numbered)
    (hdone : ((renderCitations config).run verbose ledger document).failure = none) :
    ∃ markers found, document.select config.citeTag = .ok markers ∧
      (fillMarkers ledger document markers).selectFirst config.bibliographyTag = .ok found ∧
      ((renderCitations config).run verbose ledger document).state =
        withList ledger (fillMarkers ledger document markers) found := by
  rcases renderCitations_of_done config verbose ledger document hdone with
    ⟨markers, hmarkers, hfilled⟩
  rcases fillBibliography_ok config ledger _ _ (fillMarkers_numbered ledger document h markers)
    hfilled with ⟨-, ⟨hnone, hsame⟩ | ⟨placeholder, hfound, hlist⟩⟩
  · exact ⟨markers, none, hmarkers, hnone, hsame⟩
  · exact ⟨markers, some placeholder, hmarkers, hfound, hlist⟩

/-- An element that has only a text in it gets the list behind it if it is the
    placeholder, and stays as it is if not. -/
theorem element?_withList (ledger : Ledger) (document : Document) (h : document.Numbered)
    (found : Option (Element Nat)) (hlisted : (withList ledger document found).Numbered)
    (e : Element Nat) (he : e ∈ elementsIn document.trees) (text : String)
    (htext : e.children = [.text text]) :
    (withList ledger document found).element? e.label = some (e.withChildren (.text text ::
      if found.map Element.label = some e.label then [(referenceList ledger document.next).node]
      else [])) := by
  have hsame : e.withChildren [.text text] = e := by
    rw [← htext]
    rfl
  cases found with
  | none =>
      rw [Option.map_none, if_neg (by simp), hsame]
      exact document.element?_of_mem h e he
  | some placeholder =>
      rw [Option.map_some]
      -- The placeholder may be a marker itself, and then the list stands behind its citation.
      by_cases hself : placeholder.label = e.label
      · have hmem := mem_withReferences_self ledger document h e he
        rw [htext, ← hself] at hmem
        rw [if_pos (congrArg some hself)]
        exact Document.element?_of_mem _ hlisted _ hmem
      · have hmem := mem_withReferences_other ledger document placeholder.label e he
          (fun heq => hself heq.symm) text htext
        rw [if_neg (fun heq => hself (Option.some.inj heq)), hsame]
        exact Document.element?_of_mem _ hlisted e hmem

/-- The placeholder ends in the list of the cited keys. -/
theorem list_of_withList (ledger : Ledger) (document : Document) (h : document.Numbered)
    (placeholder : Element Nat) (hmem : placeholder ∈ elementsIn document.nodes)
    (hlisted : (withReferences ledger document placeholder.label).Numbered) :
    ∃ e label items, (withReferences ledger document placeholder.label).element?
        placeholder.label = some e ∧
      e.children.getLast? = some (.element label (Tag.html "ol") [] [] items) ∧
      List.Forall₂ (IsItemOf ledger) ledger.cited items ∧ items.length = ledger.cited.length := by
  have hplaced := document.mem_trees placeholder hmem
  have hself : (withReferences ledger document placeholder.label).element? placeholder.label =
      some (placeholder.withChildren
        (placeholder.children ++ [(referenceList ledger document.next).node])) :=
    Document.element?_of_mem _ hlisted _
      (mem_withReferences_self ledger document h placeholder hplaced)
  have hitems := listItems_areItems ledger ledger.cited (document.next + 1)
  refine ⟨_, document.next, _, hself, ?_, hitems, hitems.length_eq.symm⟩
  exact List.getLast?_concat

section Reports

variable {ledger : Ledger} {document : Document} {markers : List (Element Nat)}
  {found : Option (Element Nat)}

/-- Where a marker is when the stage is done, and what is in it. -/
theorem marker_of_withList (h : document.Numbered)
    (hsublist : markers.Sublist (elementsIn document.nodes))
    (hlisted : (withList ledger (fillMarkers ledger document markers) found).Numbered)
    (m : Element Nat) (hm : m ∈ markers) :
    ∃ e : Element Nat, (withList ledger (fillMarkers ledger document markers) found).element?
      m.label = some (e.withChildren (.text (markerText ledger m) ::
        if found.map Element.label = some m.label then
          [(referenceList ledger (fillMarkers ledger document markers).next).node]
        else [])) := by
  rcases mem_fillMarkers ledger document h markers hsublist m hm with ⟨e, he, hlabel, htext⟩
  have hplace := element?_withList ledger _ (fillMarkers_numbered ledger document h markers) found
    hlisted e he _ htext
  rw [hlabel] at hplace
  exact ⟨e, hplace⟩

/-- The citation of a marker is what the stage wrote, with or without the list behind it. -/
theorem citationAt_withList (h : document.Numbered)
    (hsublist : markers.Sublist (elementsIn document.nodes))
    (hlisted : (withList ledger (fillMarkers ledger document markers) found).Numbered)
    (m : Element Nat) (hm : m ∈ markers) :
    (withList ledger (fillMarkers ledger document markers) found).citationAt m.label =
      markerText ledger m := by
  rcases marker_of_withList h hsublist hlisted m hm with ⟨e, he⟩
  rw [citationAt, he]
  rfl

/-- The warnings name the degraded markers, whether the stage is done or not. -/
theorem unresolved_renderCitations (ledger : Ledger) (config : Config) (verbose : Bool)
    (hmarkers : document.select config.citeTag = .ok markers) :
    ((renderCitations config).run verbose ledger document).unresolved =
      degradedKeys ledger markers := by
  have hevents := renderCitations_events config verbose ledger document markers hmarkers
  dsimp only at hevents
  rw [Run.unresolved, hevents, List.filterMap_append, unresolvedKeys?_flatMap]
  split
  · exact List.append_nil _
  · cases verbose with
    | false => exact List.append_nil _
    | true => exact List.append_nil _

end Reports

/-- What the stage reports if it is done, and what it leaves. -/
theorem renderCitations_reported (config : Config) (verbose : Bool) (ledger : Ledger)
    (document : Document) (h : document.Numbered)
    (hdone : ((renderCitations config).run verbose ledger document).failure = none) :
    ∃ markers found, document.select config.citeTag = .ok markers ∧
      (fillMarkers ledger document markers).selectFirst config.bibliographyTag = .ok found ∧
      Reported ledger verbose markers (found.map Element.label)
        ((renderCitations config).run verbose ledger document) := by
  rcases renderCitations_done config verbose ledger document h hdone with
    ⟨markers, found, hmarkers, hfound, hstate⟩
  have hsublist := document.select_sublist _ markers hmarkers
  have hunresolved := unresolved_renderCitations ledger config verbose hmarkers
  have hevents := renderCitations_events config verbose ledger document markers hmarkers
  have hlisted := renderCitations_numbered config verbose ledger document h
  dsimp only at hevents
  rw [hdone] at hevents
  rw [hstate] at hlisted
  have hcitation := citationAt_withList h hsublist hlisted
  refine ⟨markers, found, hmarkers, hfound, ?warned, ?held, ?list, ?summary⟩
  case warned =>
    -- A marker is degraded exactly if its citation has a question mark.
    rw [hunresolved, hstate, degradedKeys]
    refine congrArg _ (List.filter_congr fun m hm => ?_)
    rw [hcitation m hm, markerText, Bool.eq_iff_iff, decide_eq_true_iff]
    exact isDegraded_iff _
  case held =>
    intro m hm
    rcases marker_of_withList h hsublist hlisted m hm with ⟨e, he⟩
    rw [hstate, hcitation m hm]
    refine ⟨_, he, fun hother => ?_, fun hself => ?_⟩
    · rw [if_neg hother]
      rfl
    · rw [if_pos hself]
      rfl
  case list =>
    intro id hid
    rcases Option.map_eq_some_iff.mp hid with ⟨placeholder, rfl, rfl⟩
    rw [hstate]
    exact list_of_withList ledger _ (fillMarkers_numbered ledger document h markers) placeholder
      (Document.mem_of_selectFirst _ _ placeholder hfound) hlisted
  case summary =>
    refine ⟨markers.flatMap (markerEvents ledger), fun event hevent => ?_, ?_⟩
    · rcases List.mem_flatMap.mp hevent with ⟨m, -, hm⟩
      exact level_of_mem_markerEvents ledger m event hm
    · rw [hunresolved, degradedKeys, List.length_map, ← List.countP_eq_length_filter]
      exact hevents

/-! Keys that are never cited. -/

/-- That a stage begins is a notice, so it reports what its code does. -/
theorem uncited_runStage {ρ σ : Type} (phase : Phase) (verbose : Bool) (input : ρ)
    (stage : Stage ρ σ) (state : σ) :
    (runStage phase verbose input stage state).uncited =
      (stage.run verbose input state).uncited := by
  rw [runStage, Run.uncited]
  dsimp only
  rw [List.filterMap_append, uncitedKey?_notice _ _ rfl]
  rfl

/-- A list of one stage reports what the stage does. -/
theorem uncited_runStages_singleton {ρ σ : Type} (phase : Phase) (verbose : Bool) (input : ρ)
    (stage : Stage ρ σ) (state : σ) :
    (runStages phase verbose input [stage] state).uncited =
      (stage.run verbose input state).uncited := by
  rw [runStages, Run.forEach, Run.uncited_andThen _ _ fun _ => rfl, uncited_runStage]

theorem uncited_markRendered (config : Config) (document : Document) :
    (Pipeline.markRendered config document).uncited = [] := by
  rw [Pipeline.markRendered]
  rcases document.mark config.prerenderedAttribute with error | marked
  · rfl
  · rfl

/-- A render reports what its extractors do, and what its transforms do if it comes to
    them. -/
theorem uncited_render (pipeline : Pipeline) (verbose : Bool) (document : Document)
    (ledger : Ledger) :
    let extracted := runStages .extract verbose document pipeline.extractors ledger
    (pipeline.render verbose (document, ledger)).uncited = extracted.uncited ++
      match extracted.failure with
      | some _ => []
      | none =>
        (runStages .transform verbose extracted.state pipeline.transforms document).uncited := by
  intro extracted
  -- The marking of the body comes last and reports nothing.
  refine (Run.uncited_andThen _ _ fun state : Document × Ledger =>
    uncited_markRendered pipeline.config state.1).trans ?_
  rcases hfailure : extracted.failure with _ | error
  · exact Run.uncited_andThen_of_done (extracted.mapState _) _ hfailure
  · have hstops := Run.andThen_of_failure (extracted.mapState fun l => (document, l))
      (fun s => (runStages .transform verbose s.2 pipeline.transforms s.1).mapState
        fun d => (d, s.2)) error hfailure
    exact (congrArg Run.uncited hstops).trans (List.append_nil _).symm

/-- The extractors report no key. -/
theorem uncited_extracted (config : Config) (verbose : Bool) (document : Document)
    (ledger : Ledger) :
    (runStages .extract verbose document (Pipeline.standard config).extractors ledger).uncited =
      [] := by
  refine Run.uncited_forEach _ _ (fun stage hstage ledger => ?_) ledger
  rw [uncited_runStage]
  rw [Pipeline.standard, List.mem_cons, List.mem_singleton] at hstage
  -- What they give are notices.
  rcases hstage with rfl | rfl
  · rw [extractBibliography]
    dsimp only
    rcases document.select config.bibliographyScript with error | blocks
    · rfl
    · refine Run.uncited_forEach _ blocks (fun block _ ledger => ?_) ledger
      rw [mergeBlock]
      rcases Bibtex.readBibliography block.text with error | entries
      · rfl
      · exact uncitedKey?_notice _ _ rfl
  · rw [extractCitations]
    dsimp only
    rcases document.select config.citeTag with error | markers
    · rfl
    · exact uncitedKey?_notice _ _ rfl

/-- What the stage reports as never cited, whether it is done or not. -/
theorem uncited_renderCitations (config : Config) (verbose : Bool) (ledger : Ledger)
    (document : Document) (markers : List (Element Nat))
    (hmarkers : document.select config.citeTag = .ok markers) :
    ((renderCitations config).run verbose ledger document).uncited =
      markers.flatMap fun m => ledger.neverCited (shownKeys m) := by
  have hevents := renderCitations_events config verbose ledger document markers hmarkers
  dsimp only at hevents
  rw [Run.uncited, hevents, List.filterMap_append, List.filterMap_flatMap]
  have hsummary : (match ((renderCitations config).run verbose ledger document).failure with
      | some _ => []
      | none => notice verbose (.rendered ledger.cited.length (degradedCount ledger markers))
      ).filterMap Event.uncitedKey? = [] := by
    split
    · rfl
    · exact uncitedKey?_notice _ _ rfl
  rw [hsummary, List.append_nil]
  exact List.flatMap_congr fun m _ => uncitedKey?_markerEvents ledger m

theorem mem_citeAll (keys : List String) (key : String) :
    ∀ ledger : Ledger, key ∈ (ledger.citeAll keys).cited ↔ key ∈ ledger.cited ∨ key ∈ keys := by
  induction keys with
  | nil => simp [Ledger.citeAll]
  | cons first keys ih =>
      intro ledger
      have hfirst : key ∈ (ledger.cite first).cited ↔ key ∈ ledger.cited ∨ key = first := by
        rw [Ledger.cite]
        split
        · next hcited => exact ⟨Or.inl, fun h => h.elim id fun heq => heq ▸ hcited⟩
        · rw [List.mem_append, List.mem_singleton]
      show key ∈ ((ledger.cite first).citeAll keys).cited ↔ _
      rw [ih, hfirst, List.mem_cons, or_assoc]

/-- With the default names, the extractors are done exactly if the blocks can be read,
    and then they have recorded the keys of the markers. -/
theorem extracted_default (verbose : Bool) (document : Document) (ledger : Ledger) :
    let extracted :=
      runStages .extract verbose document (Pipeline.standard {}).extractors ledger
    (extracted.failure = none ↔ isReadable {} document = true) ∧
      (extracted.failure = none → ∀ key, key ∈ extracted.state.cited ↔
        key ∈ ledger.cited ∨ key ∈ (markersIn document.nodes).flatMap markerKeys) := by
  intro extracted
  let first := runStage .extract verbose document (extractBibliography {}) ledger
  let rest (known : Ledger) := runStages .extract verbose document [extractCitations {}] known
  have hextracted : extracted = first.andThen rest := rfl
  have hfirst : first.failure = none ↔ isReadable {} document = true := by
    rw [← extractBibliography_failure_eq_none_iff {} verbose document ledger]
    exact Option.map_eq_none_iff
  -- The second extractor finds its markers by a name, which cannot fail.
  have hrest (known : Ledger) : (rest known).failure = none ∧
      (rest known).state = known.citeAll ((markersIn document.nodes).flatMap markerKeys) := by
    have hstage := runStages_singleton .extract verbose document (extractCitations {}) known
    rw [extractCitations] at hstage
    dsimp only at hstage
    rw [show document.select ({} : Config).citeTag = _ from select_cite document] at hstage
    exact ⟨hstage.2, hstage.1⟩
  rw [hextracted, Run.andThen_failure_eq_none_iff, hfirst]
  refine ⟨⟨fun h => h.1, fun h => ⟨h, (hrest _).1⟩⟩, fun h key => ?_⟩
  rw [(Run.andThen_outcome first rest (hfirst.mpr h.1)).1, (hrest _).2, mem_citeAll,
    show first.state.cited = ledger.cited from extractBibliography_cited {} verbose document ledger]

/-- A marker reports the empty key if it has no key of its own, the empty key has an
    entry, and all keys that there are have numbers. -/
theorem neverCited_shownKeys (ledger : Ledger) (marker : Element Nat)
    (hempty : "" ∉ ledger.cited) (hkeys : ∀ key ∈ markerKeys marker, key ∈ ledger.cited) :
    ledger.neverCited (shownKeys marker) =
      if markerKeys marker = [] ∧ (ledger.entry "").isSome then [""] else [] := by
  have hnumber (key : String) : (ledger.number key).isNone = true ↔ key ∉ ledger.cited := by
    rw [Ledger.number, Option.isNone_map, Option.isNone_iff_eq_none, List.idxOf?_eq_none_iff]
  rw [shownKeys, Ledger.neverCited]
  rcases hmarker : markerKeys marker with _ | ⟨key, keys⟩
  · rw [List.filter_cons, (hnumber "").mpr hempty, Bool.and_true, List.filter_nil]
    simp
  · rw [if_neg (by simp), List.filter_eq_nil_iff]
    intro key hkey
    have hcited := hkeys key (hmarker ▸ hkey)
    rw [Bool.and_eq_true, hnumber]
    exact fun h => h.2 hcited

/-- When the extractors are done, a marker can only report the empty key. -/
theorem neverCited_extracted (verbose : Bool) (document : Document) (ledger : Ledger)
    (hempty : "" ∉ ledger.cited) :
    let extracted :=
      runStages .extract verbose document (Pipeline.standard {}).extractors ledger
    extracted.failure = none → ∀ m ∈ markersIn document.nodes,
      extracted.state.neverCited (shownKeys m) =
        if markerKeys m = [] ∧ (extracted.state.entry "").isSome then [""] else [] := by
  intro extracted hdone m hm
  have hknown := (extracted_default verbose document ledger).2 hdone
  refine neverCited_shownKeys extracted.state m ?_ fun key hkey => ?_
  · -- No marker names the empty key, so it was not recorded.
    rw [hknown, not_or]
    refine ⟨hempty, fun hmem => ?_⟩
    rcases List.mem_flatMap.mp hmem with ⟨other, -, hother⟩
    exact empty_not_mem_markerKeys other hother
  · exact (hknown key).mpr (Or.inr (List.mem_flatMap.mpr ⟨m, hm, hkey⟩))

/-- The keys that a render reports as never cited, if no empty key was recorded by hand:
    the empty key for each marker without keys, where the bibliography that the render
    ends with has an entry for it. -/
theorem render_uncited_keys (verbose : Bool) (document : Document) (ledger : Ledger)
    (hempty : "" ∉ ledger.cited) :
    let run := (Pipeline.standard {}).render verbose (document, ledger)
    run.uncited =
      if isReadable {} document = true ∧ (run.state.2.entry "").isSome then
        ((markersIn document.nodes).filter fun m => markerKeys m = []).map fun _ => ""
      else [] := by
  intro run
  have hledger : run.state.2 = _ :=
    Pipeline.render_ledger (Pipeline.standard {}) verbose document ledger
  have huncited : run.uncited = _ :=
    uncited_render (Pipeline.standard {}) verbose document ledger
  have hreadable := (extracted_default verbose document ledger).1
  have hmarker := neverCited_extracted verbose document ledger hempty
  rw [hledger, huncited, uncited_extracted, List.nil_append]
  generalize runStages .extract verbose document (Pipeline.standard {}).extractors ledger =
    extracted at hreadable hmarker ⊢
  rcases hfailure : extracted.failure with _ | error
  · have htransforms : (runStages .transform verbose extracted.state
        (Pipeline.standard {}).transforms document).uncited =
          (markersIn document.nodes).flatMap fun m =>
            if markerKeys m = [] ∧ (extracted.state.entry "").isSome then [""] else [] := by
      refine (uncited_runStages_singleton .transform verbose _ (renderCitations {}) _).trans ?_
      rw [uncited_renderCitations {} verbose _ document _ (select_cite document)]
      exact List.flatMap_congr (hmarker hfailure)
    dsimp only
    rw [htransforms]
    by_cases hentry : (extracted.state.entry "").isSome = true
    · rw [if_pos ⟨hreadable.mp hfailure, hentry⟩, ← flatMap_ite_singleton]
      simp [hentry]
    · rw [if_neg fun h => hentry h.2]
      simp [hentry]
  · -- A block that cannot be read ends the render before a marker is looked at.
    rw [if_neg fun h => ?_]
    exact absurd (hreadable.mpr h.1) (by rw [hfailure]; simp)

/-- What is reported of the markers of a document. The stage that renders the citations
    reports, if it is done, what `Reported` says, for any names, ledger and markers. And
    a default render reports the empty key as never cited for each marker without keys,
    if it has an entry in the end, and no other key. -/
theorem warnings_of_markers (document : Document) (h : document.Numbered) :
    (∀ config verbose ledger,
      let run := (renderCitations config).run verbose ledger document
      run.failure = none →
        ∃ markers found, document.select config.citeTag = .ok markers ∧
          (fillMarkers ledger document markers).selectFirst config.bibliographyTag = .ok found ∧
          Reported ledger verbose markers (found.map Element.label) run) ∧
    ∀ verbose ledger, "" ∉ ledger.cited →
      let run := (Pipeline.standard {}).render verbose (document, ledger)
      run.uncited =
        if isReadable {} document = true ∧ (run.state.2.entry "").isSome then
          ((markersIn document.nodes).filter fun m => markerKeys m = []).map fun _ => ""
        else [] :=
  ⟨fun config verbose ledger hdone =>
      renderCitations_reported config verbose ledger document h hdone,
    fun verbose ledger hempty => render_uncited_keys verbose document ledger hempty⟩

/-- Markers with a known, an unknown and no key, one inside another. -/
theorem warnings_of_markers_page :
    let document := Document.parse
      ("<dt-cite key=a></dt-cite><dt-cite key=b><dt-cite></dt-cite></dt-cite>" ++
        "<dt-bibliography></dt-bibliography>")
    let ledger : Ledger := { cited := ["a"], bibliography := .ofList [("a", {}), ("", {})] }
    let stage := (renderCitations {}).run true ledger document
    let render := (Pipeline.standard {}).render true (document, ledger)
    (∃ markers found, document.select "dt-cite" = .ok markers ∧
        (fillMarkers ledger document markers).selectFirst "dt-bibliography" = .ok found ∧
        Reported ledger true markers (found.map Element.label) stage) ∧
      render.uncited =
        if isReadable {} document = true ∧ (render.state.2.entry "").isSome then
          ((markersIn document.nodes).filter fun m => markerKeys m = []).map fun _ => ""
        else [] := by
  refine ⟨(warnings_of_markers _ (Document.parse_numbered _)).1 {} true _ ?_,
    (warnings_of_markers _ (Document.parse_numbered _)).2 true _ (by decide)⟩
  exact (renderCitations_default true _ _ (Document.parse_numbered _)).1

/-- If the first marker is the placeholder, the list follows its citation, and the
    question mark of the second key is in both. Only the second marker is warned of. -/
theorem warnings_of_markers_listed :
    let document := Document.parse "<dt-cite key=a></dt-cite><dt-cite key=b></dt-cite>"
    let ledger : Ledger := { cited := ["a", "b"], bibliography := .ofList [("a", {})] }
    let config : Config := { bibliographyTag := "dt-cite" }
    let run := (renderCitations config).run false ledger document
    let shown (m : Element Nat) := ((run.state.element? m.label).map Element.text).getD ""
    run.failure = none ∧ run.unresolved = [["b"]] ∧
      (document.select config.citeTag).map (fun markers =>
        (markers.filter fun m => '?' ∈ (shown m).toList).map markerKeys) =
          .ok [["a"], ["b"]] := by
  decide +kernel

end CiteRender
