import CiteRender.Render.Chrome
import CiteRender.Render.Citations

/-!
# The Pipeline

A render runs all extractors, then all transforms, and marks the body as
rendered. The stages for publication are a list of their own that a render
never runs. The first stage that fails ends a run: the state is what that
stage left, and the body is not marked.

## Main definitions

* `PipelineError`: Why a run fails.
* `runStages`: Running a list of stages.
* `Pipeline`, `Pipeline.standard`: The lists of stages.
* `Pipeline.render`, `Pipeline.distillify`: The two runs.
-/

namespace CiteRender

/-- Why a run of a pipeline fails. -/
inductive PipelineError where
  | stage (phase : Phase) (name : String) (source : StageError)
  | document (error : DocumentError)
  deriving DecidableEq

/-- The wording of an error. -/
def PipelineError.message : PipelineError → String
  | stage phase name source =>
    phase.label ++ " \x27" ++ name ++ "\x27 failed: " ++ source.message
  | document error => error.message

/-- Runs one stage and says that it does. A failure is put down to the stage. -/
def runStage {ρ σ : Type} (phase : Phase) (verbose : Bool) (input : ρ) (stage : Stage ρ σ)
    (state : σ) : Run σ PipelineError :=
  let run := stage.run verbose input state
  { state := run.state
    events := notice verbose (.running phase stage.name) ++ run.events
    failure := run.failure.map (.stage phase stage.name) }

/-- Runs stages in order until one fails. -/
def runStages {ρ σ : Type} (phase : Phase) (verbose : Bool) (input : ρ)
    (stages : List (Stage ρ σ)) (state : σ) : Run σ PipelineError :=
  Run.forEach (runStage phase verbose input) stages state

/-- The lists of stages of a render, and its configuration. -/
structure Pipeline where
  config : Config := {}
  extractors : List Extractor := []
  transforms : List Transform := []
  distillers : List Transform := []

namespace Pipeline

/-- The stages of an article. -/
def standard (config : Config) : Pipeline where
  config
  extractors := [extractBibliography config, extractCitations config]
  transforms := [renderCitations config]
  distillers := [addHeader, addAppendix, addFooter]

/-- Marks the body as rendered. -/
def markRendered (config : Config) (document : Document) : Run Document PipelineError :=
  match document.mark config.prerenderedAttribute with
  | .ok marked => { state := marked }
  | .error error => .failed document (.document error)

/-- Runs the extractors, then the transforms, and marks the body. -/
def render (pipeline : Pipeline) (verbose : Bool) (state : Document × Ledger) :
    Run (Document × Ledger) PipelineError :=
  let extract (s : Document × Ledger) : Run (Document × Ledger) PipelineError :=
    (runStages .extract verbose s.1 pipeline.extractors s.2).mapState fun l => (s.1, l)
  let transform (s : Document × Ledger) : Run (Document × Ledger) PipelineError :=
    (runStages .transform verbose s.2 pipeline.transforms s.1).mapState fun d => (d, s.2)
  let finish (s : Document × Ledger) : Run (Document × Ledger) PipelineError :=
    (markRendered pipeline.config s.1).mapState fun d => (d, s.2)
  ((extract state).andThen transform).andThen finish

/-- Runs the stages for publication. -/
def distillify (pipeline : Pipeline) (verbose : Bool) (ledger : Ledger) (document : Document) :
    Run Document PipelineError :=
  runStages .distill verbose ledger pipeline.distillers document

/-- The names of the stages by list, in the order in which they run. -/
def stageNames (pipeline : Pipeline) : List String × List String × List String :=
  (pipeline.extractors.map Stage.name, pipeline.transforms.map Stage.name,
    pipeline.distillers.map Stage.name)

end Pipeline

end CiteRender
