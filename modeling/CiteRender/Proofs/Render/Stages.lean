import CiteRender.Proofs.Render.Markers
import CiteRender.Proofs.Render.References
import CiteRender.Proofs.Render.Runs

/-!
# The Stages of a Render

What the stages of an article do, each and together. A stage has a few ways to
end, and they are listed here with the state and the failure of each, so that
nothing else has to look into its code. A stage fails over nothing but a
selector that cannot be read or a bibliography block that is no BibTeX.

Documents stay numbered through a render, whether it fails or not.

## Theorems

* `select_error`, `selectFirst_error`: Queries fail over their selector.
* `select_of_extracted`: What is known once the extractors are done.
* `renderCitations_cases`, `renderCitations_of_done`, `renderCitations_failure`: What
  rendering the citations does.
* `render_done`: What a render that is done has done.
* `render_numbered`: Renders keep documents numbered.
-/

namespace CiteRender

open Node Document

theorem select_error (document : Document) (selector : String) (error : DocumentError)
    (h : document.select selector = .error error) : error = .invalidSelector selector := by
  rw [Document.select] at h
  rcases hread : Css.readSelectors selector.toList with _ | selectors
  · rw [hread] at h
    exact (Except.error.inj h).symm
  · rw [hread] at h
    exact absurd h (by simp)

theorem selectFirst_error (document : Document) (selector : String) (error : DocumentError)
    (h : document.selectFirst selector = .error error) : error = .invalidSelector selector := by
  rw [Document.selectFirst] at h
  rcases hselect : document.select selector with failed | found
  · rw [hselect] at h
    rw [← Except.error.inj h]
    exact select_error document selector failed hselect
  · rw [hselect] at h
    exact absurd h (by simp [Except.map])

/-- Where the extractors are done, the selector of the markers can be read. -/
theorem select_of_extracted (config : Config) (verbose : Bool) (document : Document)
    (ledger : Ledger) (h : (runStages .extract verbose document
      (Pipeline.standard config).extractors ledger).failure = none) :
    ∃ markers, document.select config.citeTag = .ok markers := by
  rw [Pipeline.standard, runStages, Run.forEach, Run.andThen_failure_eq_none_iff, Run.forEach,
    Run.andThen_failure_eq_none_iff, runStage, runStage, Option.map_eq_none_iff,
    Option.map_eq_none_iff] at h
  rcases h with ⟨-, h, -⟩
  rcases hselect : document.select config.citeTag with error | markers
  · rw [extractCitations] at h
    dsimp only at h
    rw [hselect] at h
    exact absurd h (by simp [Run.failed])
  · exact ⟨markers, rfl⟩

/-- What the stage does. It fails before the markers are filled or after it. -/
theorem renderCitations_cases (config : Config) (verbose : Bool) (ledger : Ledger)
    (document : Document) :
    let run := (renderCitations config).run verbose ledger document
    (∃ error, document.select config.citeTag = .error error ∧ run.state = document ∧
      run.failure = some (.document error)) ∨
    ∃ markers, document.select config.citeTag = .ok markers ∧
      ((∃ error,
        fillBibliography config ledger (fillMarkers ledger document markers) = .error error ∧
          run.state = fillMarkers ledger document markers ∧
          run.failure = some (.document error)) ∨
        (fillBibliography config ledger (fillMarkers ledger document markers) = .ok run.state ∧
          run.failure = none)) := by
  intro run
  rcases hselect : document.select config.citeTag with error | markers
  · have hrun : run = .failed document (.document error) := by
      show (renderCitations config).run verbose ledger document = _
      rw [renderCitations]
      dsimp only
      rw [hselect]
    exact Or.inl ⟨error, rfl, by rw [hrun]; rfl, by rw [hrun]; rfl⟩
  · -- From here on the markers are filled, whatever becomes of the list.
    refine Or.inr ⟨markers, rfl, ?_⟩
    show (∃ error, _ ∧ ((renderCitations config).run verbose ledger document).state = _ ∧
      ((renderCitations config).run verbose ledger document).failure = _) ∨
        _ = Except.ok ((renderCitations config).run verbose ledger document).state ∧
          ((renderCitations config).run verbose ledger document).failure = none
    rw [renderCitations]
    dsimp only
    rw [hselect]
    dsimp only
    rcases fillBibliography config ledger (fillMarkers ledger document markers) with error | filled
    · exact Or.inl ⟨error, rfl, rfl, rfl⟩
    · exact Or.inr ⟨rfl, rfl⟩

/-- What the stage has done if it is done. -/
theorem renderCitations_of_done (config : Config) (verbose : Bool) (ledger : Ledger)
    (document : Document)
    (hdone : ((renderCitations config).run verbose ledger document).failure = none) :
    ∃ markers, document.select config.citeTag = .ok markers ∧
      fillBibliography config ledger (fillMarkers ledger document markers) =
        .ok ((renderCitations config).run verbose ledger document).state := by
  rcases renderCitations_cases config verbose ledger document with
    ⟨error, -, -, herror⟩ | ⟨markers, hmarkers, ⟨error, -, -, herror⟩ | ⟨hfilled, -⟩⟩
  · exact absurd (hdone.symm.trans herror) (by simp)
  · exact absurd (hdone.symm.trans herror) (by simp)
  · exact ⟨markers, hmarkers, hfilled⟩

/-- Once the markers are found, only the selector of the placeholder is left to fail, and
    by then the markers are filled. -/
theorem renderCitations_failure (config : Config) (verbose : Bool) (ledger : Ledger)
    (document : Document) (h : document.Numbered) (markers : List (Element Nat))
    (hmarkers : document.select config.citeTag = .ok markers) (source : StageError)
    (hfailure : ((renderCitations config).run verbose ledger document).failure = some source) :
    source = .document (.invalidSelector config.bibliographyTag) ∧
      ((renderCitations config).run verbose ledger document).state =
        fillMarkers ledger document markers := by
  rcases renderCitations_cases config verbose ledger document with
    ⟨error, hselect, -, -⟩ | ⟨found, hfound, ⟨error, hfill, hstate, herror⟩ | ⟨-, hdone⟩⟩
  · exact absurd (hmarkers.symm.trans hselect) (by simp)
  · obtain rfl := Except.ok.inj (hmarkers.symm.trans hfound)
    have hfirst := fillBibliography_error config ledger _
      (fillMarkers_numbered ledger document h markers) error hfill
    rw [selectFirst_error _ _ error hfirst] at herror
    exact ⟨Option.some.inj (hfailure.symm.trans herror), hstate⟩
  · exact absurd (hdone.symm.trans hfailure) (by simp)

/-- What a render that is done has done. -/
theorem render_done (config : Config) (verbose : Bool) (document : Document) (ledger : Ledger)
    (hdone : ((Pipeline.standard config).render verbose (document, ledger)).failure = none) :
    ∃ rendered known markers filled,
      ((Pipeline.standard config).render verbose (document, ledger)).state = (rendered, known) ∧
      document.select config.citeTag = .ok markers ∧
      fillBibliography config known (fillMarkers known document markers) = .ok filled ∧
      filled.mark config.prerenderedAttribute = .ok rendered := by
  rcases (Pipeline.standard config).render_cases verbose document ledger with
    ⟨error, -, -, herror⟩ | ⟨-, error, -, -, herror⟩ | ⟨-, htransformed, hstate, hfinished⟩
  · rw [hdone] at herror
    exact absurd herror (by simp)
  · rw [hdone] at herror
    exact absurd herror (by simp)
  · set known := (runStages .extract verbose document (Pipeline.standard config).extractors
      ledger).state
    -- The transforms of an article are one stage.
    have hstage := runStages_singleton .transform verbose known (renderCitations config) document
    rw [show (Pipeline.standard config).transforms = [renderCitations config] from rfl]
      at htransformed hstate hfinished
    rw [hstage.2, Option.map_eq_none_iff] at htransformed
    rw [hstage.1] at hstate hfinished
    rcases renderCitations_of_done config verbose known document htransformed with
      ⟨markers, hmarkers, hfilled⟩
    refine ⟨_, known, markers, _, hstate, hmarkers, hfilled, ?_⟩
    exact Pipeline.markRendered_done config _ (hfinished.symm.trans hdone)

theorem renderCitations_numbered (config : Config) (verbose : Bool) (ledger : Ledger)
    (document : Document) (h : document.Numbered) :
    ((renderCitations config).run verbose ledger document).state.Numbered := by
  rcases renderCitations_cases config verbose ledger document with
    ⟨error, -, hstate, -⟩ | ⟨markers, -, ⟨error, -, hstate, -⟩ | ⟨hfilled, -⟩⟩
  · rw [hstate]
    exact h
  · rw [hstate]
    exact fillMarkers_numbered ledger document h markers
  · exact (fillBibliography_ok config ledger _ _ (fillMarkers_numbered ledger document h markers)
      hfilled).1

theorem markRendered_numbered (config : Config) (document : Document) (h : document.Numbered) :
    (Pipeline.markRendered config document).state.Numbered := by
  rw [Pipeline.markRendered, mark]
  rcases document.body? with _ | body
  · exact h
  · exact setAttribute_numbered document h body.label _ _

/-- A render leaves a numbered document, also if it fails. -/
theorem render_numbered (config : Config) (verbose : Bool) (document : Document)
    (h : document.Numbered) (ledger : Ledger) :
    ((Pipeline.standard config).render verbose (document, ledger)).state.1.Numbered := by
  let P (state : Document × Ledger) : Prop := state.1.Numbered
  refine Run.andThen_keeps P _ _ (Run.andThen_keeps P _ _ h ?_) ?_
  · intro state hstate
    have hstage := runStages_singleton .transform verbose state.2 (renderCitations config) state.1
    show (runStages .transform verbose state.2 [renderCitations config] state.1).state.Numbered
    rw [hstage.1]
    exact renderCitations_numbered config verbose state.2 state.1 hstate
  · intro state hstate
    exact markRendered_numbered config state.1 hstate

end CiteRender
