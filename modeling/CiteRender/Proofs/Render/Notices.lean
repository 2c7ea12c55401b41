import CiteRender.Proofs.Render.Runs

/-!
# Notices on Request

A run can be asked for notices, and the request goes into every stage. What it
must not do is change anything else: not the result, not what is written, and
not the warnings, which are given between the notices in the same order.

Two runs are compared by one equation. The run that was not asked is the other
one with its notices left out, whether it fails or not. Leaving out notices
goes into a sequence of runs part by part, so the equation is shown for each
stage, where the request is tested, and everything made of stages has it.

## Main definitions

* `Run.withoutNotices`: A run with its notices left out.
* `Run.DifferInNotices`: Two runs that differ in their notices and in nothing else.
* `Stage.NoticesOnRequest`: A stage that is asked for notices gives more of them only.
* `ReadingStage`, `RewritingStage`, `Pipeline.assembled`: Pipelines of the stages there are.

## Theorems

* `withoutNotices_andThen`, `forEach_withoutNotices`: Runs made of runs.
* `ReadingStage.noticesOnRequest`, `RewritingStage.noticesOnRequest`: The stages there are.
* `runStages_withoutNotices`, `render_withoutNotices`: Lists of stages, and renders.
* `run_differs_in_notices`: Renders and publication together.
-/

namespace CiteRender

namespace Run

variable {α σ τ ε : Type}

/-- The run with its notices left out. -/
def withoutNotices (run : Run σ ε) : Run σ ε :=
  { run with events := run.events.filter fun event => event.level ≠ .info }

/-- Two runs, of which the first was asked for notices and the second was not. They
    come to the same, and the second has the other events of the first. -/
structure DifferInNotices (loud quiet : Run σ ε) : Prop where
  state : quiet.state = loud.state
  failure : quiet.failure = loud.failure
  silent : ∀ event ∈ quiet.events, event.level ≠ .info
  warnings : loud.events.filter (fun event => event.level ≠ .info) = quiet.events

theorem differInNotices_of_eq {loud quiet : Run σ ε} (h : quiet = loud.withoutNotices) :
    DifferInNotices loud quiet := by
  subst h
  refine ⟨rfl, rfl, fun event hevent => ?_, rfl⟩
  exact of_decide_eq_true (List.mem_filter.mp hevent).2

/-- Notices are left out of each of two runs in sequence. -/
theorem withoutNotices_andThen (run : Run σ ε) (next : σ → Run σ ε) :
    (run.andThen next).withoutNotices =
      run.withoutNotices.andThen fun state => (next state).withoutNotices := by
  rcases hfail : run.failure with _ | error
  · rw [andThen_of_done run next hfail, andThen_of_done run.withoutNotices _ hfail]
    simp only [withoutNotices, after, List.filter_append]
  · rw [andThen_of_failure run next error hfail,
      andThen_of_failure run.withoutNotices _ error hfail]

theorem withoutNotices_mapState (f : σ → τ) (run : Run σ ε) :
    (run.mapState f).withoutNotices = run.withoutNotices.mapState f := rfl

/-- Notices are left out of a run over a list if they are left out of every step. -/
theorem forEach_withoutNotices (loud quiet : α → σ → Run σ ε) (items : List α)
    (h : ∀ item ∈ items, ∀ state, quiet item state = (loud item state).withoutNotices) :
    ∀ state, forEach quiet items state = (forEach loud items state).withoutNotices := by
  induction items with
  | nil => exact fun _ => rfl
  | cons item items ih =>
      rw [List.forall_mem_cons] at h
      intro state
      rw [forEach, forEach, withoutNotices_andThen, h.1 state]
      exact congrArg _ (funext (ih h.2))

end Run

/-- A notice that was asked for is left out again, and the others are not given. -/
theorem filter_notice (verbose : Bool) (event : Event) (h : event.level = .info) :
    (notice verbose event).filter (fun event => event.level ≠ .info) = [] := by
  cases verbose with
  | false => rfl
  | true => rw [notice, if_pos rfl, List.filter_cons_of_neg (by simp [h]), List.filter_nil]

section Stages

variable {ρ σ : Type}

/-- A stage that is asked for notices does what it does without, and says more. -/
def Stage.NoticesOnRequest (stage : Stage ρ σ) : Prop :=
  ∀ input state, stage.run false input state = (stage.run true input state).withoutNotices

/-- A list of stages that give notices on request only. -/
theorem runStages_withoutNotices (phase : Phase) (input : ρ) (stages : List (Stage ρ σ))
    (h : ∀ stage ∈ stages, stage.NoticesOnRequest) (state : σ) :
    runStages phase false input stages state =
      (runStages phase true input stages state).withoutNotices := by
  refine Run.forEach_withoutNotices _ _ stages (fun stage hstage state => ?_) state
  -- That the stage begins is a notice itself.
  have hbegins := filter_notice true (.running phase stage.name) rfl
  rw [runStage, runStage, h stage hstage input state]
  simp only [Run.withoutNotices, List.filter_append, hbegins]
  rfl

end Stages

/-! The stages there are. -/

theorem mergeBlock_withoutNotices (block : Element Nat) (ledger : Ledger) :
    mergeBlock false block ledger = (mergeBlock true block ledger).withoutNotices := by
  rw [mergeBlock, mergeBlock]
  rcases Bibtex.readBibliography block.text with error | entries
  · rfl
  · rfl

/-- What is reported of a marker are warnings. -/
theorem level_of_mem_markerEvents (ledger : Ledger) (marker : Element Nat) (event : Event)
    (h : event ∈ markerEvents ledger marker) : event.level = .warn := by
  rw [markerEvents, List.mem_append, List.mem_map] at h
  rcases h with ⟨key, -, rfl⟩ | h
  · rfl
  · split at h
    · rw [List.mem_singleton.mp h]
      rfl
    · exact absurd h List.not_mem_nil

/-- A stage that reads, with the configuration that it was made for. -/
inductive ReadingStage where
  | bibliography (config : Config)
  | citations (config : Config)

/-- The extractor that a stage is. -/
def ReadingStage.extractor : ReadingStage → Extractor
  | bibliography config => extractBibliography config
  | citations config => extractCitations config

/-- A stage that rewrites, with the configuration that it was made for. -/
inductive RewritingStage where
  | citations (config : Config)
  | header
  | appendix
  | footer

/-- The transform that a stage is. -/
def RewritingStage.transform : RewritingStage → Transform
  | citations config => renderCitations config
  | header => addHeader
  | appendix => addAppendix
  | footer => addFooter

theorem ReadingStage.noticesOnRequest (stage : ReadingStage) :
    stage.extractor.NoticesOnRequest := by
  intro document ledger
  cases stage with
  | bibliography config =>
      rw [extractor, extractBibliography]
      dsimp only
      rcases document.select config.bibliographyScript with error | blocks
      · rfl
      · exact Run.forEach_withoutNotices _ _ blocks
          (fun block _ ledger => mergeBlock_withoutNotices block ledger) ledger
  | citations config =>
      rw [extractor, extractCitations]
      dsimp only
      rcases document.select config.citeTag with error | markers
      · rfl
      · rfl

theorem inject_withoutNotices (tag : String) (place : End) (document : Document) :
    inject tag place false document = (inject tag place true document).withoutNotices := by
  rw [inject, inject]
  rcases document.selectFirst tag with error | _ | found
  · rfl
  · dsimp only
    rcases document.addToBody tag place with error | added
    · rfl
    · rfl
  · rfl

theorem renderCitations_withoutNotices (config : Config) (ledger : Ledger) (document : Document) :
    (renderCitations config).run false ledger document =
      ((renderCitations config).run true ledger document).withoutNotices := by
  rw [renderCitations]
  dsimp only
  rcases document.select config.citeTag with error | markers
  · rfl
  · have hwarnings : (markers.flatMap (markerEvents ledger)).filter
        (fun event => event.level ≠ .info) = markers.flatMap (markerEvents ledger) := by
      refine List.filter_eq_self.mpr fun event hevent => ?_
      rcases List.mem_flatMap.mp hevent with ⟨marker, -, hmem⟩
      rw [level_of_mem_markerEvents ledger marker event hmem]
      rfl
    dsimp only
    rcases fillBibliography config ledger (fillMarkers ledger document markers) with error | filled
    · simp only [Run.withoutNotices, hwarnings]
    · -- The summary at the end is the only notice.
      have hsummary := filter_notice true
        (.rendered ledger.cited.length (degradedCount ledger markers)) rfl
      simp only [Run.withoutNotices, List.filter_append, hwarnings, hsummary]
      rfl

theorem RewritingStage.noticesOnRequest (stage : RewritingStage) :
    stage.transform.NoticesOnRequest := by
  intro ledger document
  cases stage with
  | citations config => exact renderCitations_withoutNotices config ledger document
  | header => exact inject_withoutNotices _ _ document
  | appendix => exact inject_withoutNotices _ _ document
  | footer => exact inject_withoutNotices _ _ document

namespace Pipeline

/-- The pipeline of some stages, in any order and with repetitions. -/
def assembled (config : Config) (extractors : List ReadingStage)
    (transforms distillers : List RewritingStage) : Pipeline where
  config
  extractors := extractors.map ReadingStage.extractor
  transforms := transforms.map RewritingStage.transform
  distillers := distillers.map RewritingStage.transform

-- The stages of an article are among them.
example (config : Config) :
    standard config = assembled config [.bibliography config, .citations config]
      [.citations config] [.header, .appendix, .footer] := rfl

theorem markRendered_withoutNotices (config : Config) (document : Document) :
    (markRendered config document).withoutNotices = markRendered config document := by
  rw [markRendered]
  rcases document.mark config.prerenderedAttribute with error | marked
  · rfl
  · rfl

/-- A render whose stages give notices on request only. -/
theorem render_withoutNotices (pipeline : Pipeline)
    (hextractors : ∀ stage ∈ pipeline.extractors, stage.NoticesOnRequest)
    (htransforms : ∀ stage ∈ pipeline.transforms, stage.NoticesOnRequest)
    (state : Document × Ledger) :
    pipeline.render false state = (pipeline.render true state).withoutNotices := by
  rw [render, render]
  dsimp only
  rw [Run.withoutNotices_andThen, Run.withoutNotices_andThen, Run.withoutNotices_mapState,
    ← runStages_withoutNotices .extract state.1 pipeline.extractors hextractors]
  simp only [Run.withoutNotices_mapState, markRendered_withoutNotices,
    ← runStages_withoutNotices .transform _ pipeline.transforms htransforms]

/-- A pipeline of any of the stages, run twice over the same document and the same
    ledger, once with the request for notices and once without. -/
theorem run_differs_in_notices (config : Config) (extractors : List ReadingStage)
    (transforms distillers : List RewritingStage) (document : Document) (ledger : Ledger) :
    let pipeline := assembled config extractors transforms distillers
    Run.DifferInNotices (pipeline.render true (document, ledger))
        (pipeline.render false (document, ledger)) ∧
      Run.DifferInNotices (pipeline.distillify true ledger document)
        (pipeline.distillify false ledger document) := by
  intro pipeline
  have hreading : ∀ stage ∈ pipeline.extractors, stage.NoticesOnRequest :=
    List.forall_mem_map.mpr fun stage _ => stage.noticesOnRequest
  have hrewriting (stages : List RewritingStage) :
      ∀ stage ∈ stages.map RewritingStage.transform, stage.NoticesOnRequest :=
    List.forall_mem_map.mpr fun stage _ => stage.noticesOnRequest
  constructor
  · exact Run.differInNotices_of_eq
      (pipeline.render_withoutNotices hreading (hrewriting transforms) (document, ledger))
  · exact Run.differInNotices_of_eq
      (runStages_withoutNotices .distill ledger pipeline.distillers (hrewriting distillers)
        document)

end Pipeline

end CiteRender
