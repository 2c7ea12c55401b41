import CiteRender.Proofs.Render.Runs

/-!
# Stopping at the First Failure

What a run of a pipeline comes to, for stages that may do anything: a stage
may change its state in any way, raise any error, and do both at once. So
nothing below looks into a stage. The state that a list of stages leads to and
the stage that stops it are described first, by going through the list alone,
and then compared with what a run does.

That no later stage has run is a statement about other pipelines. If a stage
stops a run, every pipeline that has the same stages up to this one does the
same, whatever comes behind it, and with whatever attribute it would have
marked the body; the events are the same too, so nothing was even begun.

## Main definitions

* `stateAfter`: The state that stages lead to.
* `AllDone`: No stage fails.
* `FailsFirst`: The stage that fails first.

## Theorems

* `allDone_or_failsFirst`: Stages are all done, or one of them fails first.
* `runStages_of_allDone`, `runStages_of_failsFirst`: Lists of stages.
* `render_of_allDone`, `render_of_extractor`, `render_of_transform`: Renders.
* `run_stops_at_first_failure`: Renders and publication together.
-/

namespace CiteRender

namespace Run

variable {α σ ε : Type}

theorem andThen_assoc (run : Run σ ε) (f g : σ → Run σ ε) :
    (run.andThen f).andThen g = run.andThen fun state => (f state).andThen g := by
  rcases hrun : run.failure with _ | error
  · rw [andThen_of_done run f hrun, andThen_of_done run _ hrun]
    rcases hf : (f run.state).failure with _ | error
    · rw [andThen_of_done (f run.state) g hf, andThen_of_done ((f run.state).after run.events) g hf]
      simp only [after, List.append_assoc]
    · rw [andThen_of_failure (f run.state) g error hf,
        andThen_of_failure ((f run.state).after run.events) g error hf]
  · rw [andThen_of_failure run f error hrun, andThen_of_failure run g error hrun,
      andThen_of_failure run _ error hrun]

/-- A run over two lists is the run over the first and then over the second. -/
theorem forEach_append (step : α → σ → Run σ ε) (items more : List α) (state : σ) :
    forEach step (items ++ more) state = (forEach step items state).andThen (forEach step more) := by
  induction items generalizing state with
  | nil => rfl
  | cons item items ih =>
      rw [List.cons_append, forEach, forEach, andThen_assoc]
      exact congrArg _ (funext ih)

end Run

section Stages

variable {ρ σ : Type}

/-- The state that stages lead to, each run in the state that those before it
    left, whether they failed or not. -/
def stateAfter (verbose : Bool) (input : ρ) (stages : List (Stage ρ σ)) (state : σ) : σ :=
  stages.foldl (fun state stage => (stage.run verbose input state).state) state

/-- No stage fails in the state that those before it lead to. -/
def AllDone (verbose : Bool) (input : ρ) : List (Stage ρ σ) → σ → Prop
  | [], _ => True
  | stage :: rest, state =>
    (stage.run verbose input state).failure = none ∧
      AllDone verbose input rest (stage.run verbose input state).state

/-- Of some stages, the first that fails: those before it are done, and it
    fails in the state that they lead to. -/
structure FailsFirst (verbose : Bool) (input : ρ) (stages : List (Stage ρ σ)) (state : σ)
    (before : List (Stage ρ σ)) (stage : Stage ρ σ) (source : StageError) : Prop where
  begins : before ++ [stage] <+: stages
  done : AllDone verbose input before state
  fails : (stage.run verbose input (stateAfter verbose input before state)).failure = some source

theorem allDone_or_failsFirst (verbose : Bool) (input : ρ) (stages : List (Stage ρ σ)) :
    ∀ state, AllDone verbose input stages state ∨
      ∃ before stage source, FailsFirst verbose input stages state before stage source := by
  induction stages with
  | nil => exact fun _ => Or.inl trivial
  | cons stage stages ih =>
      intro state
      rcases hstage : (stage.run verbose input state).failure with _ | source
      · rcases ih (stage.run verbose input state).state with hdone | ⟨before, failing, source, h⟩
        · exact Or.inl ⟨hstage, hdone⟩
        · -- The stage that fails first in the rest does so in the whole list.
          exact Or.inr ⟨stage :: before, failing, source,
            ⟨(List.cons_prefix_cons).mpr ⟨rfl, h.begins⟩, ⟨hstage, h.done⟩, h.fails⟩⟩
      · exact Or.inr ⟨[], stage, source,
          ⟨(List.cons_prefix_cons).mpr ⟨rfl, List.nil_prefix⟩, trivial, hstage⟩⟩

theorem runStages_of_allDone (phase : Phase) (verbose : Bool) (input : ρ)
    (stages : List (Stage ρ σ)) :
    ∀ state, AllDone verbose input stages state →
      (runStages phase verbose input stages state).state = stateAfter verbose input stages state ∧
        (runStages phase verbose input stages state).failure = none := by
  induction stages with
  | nil => exact fun _ _ => ⟨rfl, rfl⟩
  | cons stage stages ih =>
      rintro state ⟨hstage, hrest⟩
      have hdone : (runStage phase verbose input stage state).failure = none := by
        rw [runStage, hstage]
        rfl
      have houtcome := Run.andThen_outcome (runStage phase verbose input stage state)
        (Run.forEach (runStage phase verbose input) stages) hdone
      rcases ih (stage.run verbose input state).state hrest with ⟨hstate, hfailure⟩
      exact ⟨houtcome.1.trans hstate, houtcome.2.trans hfailure⟩

/-- Stages up to the first that fails, with no others behind it. -/
theorem runStages_append_singleton (phase : Phase) (verbose : Bool) (input : ρ)
    (before : List (Stage ρ σ)) (stage : Stage ρ σ) (state : σ)
    (hdone : AllDone verbose input before state) :
    let stop := stage.run verbose input (stateAfter verbose input before state)
    (runStages phase verbose input (before ++ [stage]) state).state = stop.state ∧
      (runStages phase verbose input (before ++ [stage]) state).failure =
        stop.failure.map (.stage phase stage.name) := by
  rcases runStages_of_allDone phase verbose input before state hdone with ⟨hstate, hfailure⟩
  have houtcome := Run.andThen_outcome (runStages phase verbose input before state)
    (runStages phase verbose input [stage]) hfailure
  have hlast := runStages_singleton phase verbose input stage
    (runStages phase verbose input before state).state
  rw [runStages, Run.forEach_append]
  rw [hstate] at hlast houtcome
  exact ⟨houtcome.1.trans hlast.1, houtcome.2.trans hlast.2⟩

/-- What stands behind a stage that fails makes no difference to a run. -/
theorem runStages_eq_of_begins (phase : Phase) (verbose : Bool) (input : ρ)
    (first stages : List (Stage ρ σ)) (state : σ) (error : PipelineError)
    (hbegins : first <+: stages)
    (hfailure : (runStages phase verbose input first state).failure = some error) :
    runStages phase verbose input stages state = runStages phase verbose input first state := by
  rcases hbegins with ⟨more, rfl⟩
  rw [runStages, Run.forEach_append]
  exact Run.andThen_of_failure _ _ error hfailure

/-- A run over stages stops at the first that fails, with the state that it
    leaves, and is the same over any stages that begin in this way. -/
theorem runStages_of_failsFirst (phase : Phase) (verbose : Bool) (input : ρ)
    (stages : List (Stage ρ σ)) (state : σ) (before : List (Stage ρ σ)) (stage : Stage ρ σ)
    (source : StageError) (h : FailsFirst verbose input stages state before stage source) :
    let stop := stage.run verbose input (stateAfter verbose input before state)
    (runStages phase verbose input stages state).state = stop.state ∧
      (runStages phase verbose input stages state).failure =
        some (.stage phase stage.name source) ∧
      ∀ others, before ++ [stage] <+: others →
        runStages phase verbose input others state = runStages phase verbose input stages state := by
  intro stop
  rcases runStages_append_singleton phase verbose input before stage state h.done with
    ⟨hstate, hfailure⟩
  rw [h.fails, Option.map_some] at hfailure
  have hsame (others : List (Stage ρ σ)) (hothers : before ++ [stage] <+: others) :=
    runStages_eq_of_begins phase verbose input (before ++ [stage]) others state _ hothers hfailure
  rw [hsame stages h.begins]
  exact ⟨hstate, hfailure, hsame⟩

end Stages

namespace Pipeline

/-- A render whose stages are all done marks the body, if there is one. -/
theorem render_of_allDone (pipeline : Pipeline) (verbose : Bool) (document : Document)
    (ledger : Ledger) (hextract : AllDone verbose document pipeline.extractors ledger)
    (htransform : AllDone verbose (stateAfter verbose document pipeline.extractors ledger)
      pipeline.transforms document) :
    let run := pipeline.render verbose (document, ledger)
    let known := stateAfter verbose document pipeline.extractors ledger
    let finished := stateAfter verbose known pipeline.transforms document
    (∀ body, finished.body? = some body → run.failure = none ∧
      run.state =
        (finished.setAttribute body.label pipeline.config.prerenderedAttribute "", known)) ∧
    (finished.body? = none →
      run.failure = some (.document .missingBody) ∧ run.state = (finished, known)) := by
  intro run known finished
  have hextracted := runStages_of_allDone .extract verbose document pipeline.extractors ledger hextract
  have htransformed :=
    runStages_of_allDone .transform verbose known pipeline.transforms document htransform
  rcases pipeline.render_cases verbose document ledger with
    ⟨error, herror, -⟩ | ⟨-, error, herror, -⟩ | ⟨-, -, hstate, hfailure⟩
  · rw [hextracted.2] at herror
    exact absurd herror (by simp)
  · rw [hextracted.1, htransformed.2] at herror
    exact absurd herror (by simp)
  · rw [hextracted.1, htransformed.1] at hstate hfailure
    -- Only the marking is left, and it asks for nothing but the body.
    constructor
    · intro body hbody
      have hmark : markRendered pipeline.config finished =
          ⟨finished.setAttribute body.label pipeline.config.prerenderedAttribute "", [], none⟩ := by
        rw [markRendered, Document.mark, hbody]
      rw [hmark] at hstate hfailure
      exact ⟨hfailure, hstate⟩
    · intro hbody
      have hmark : markRendered pipeline.config finished =
          .failed finished (.document .missingBody) := by
        rw [markRendered, Document.mark, hbody]
      rw [hmark] at hstate hfailure
      exact ⟨hfailure, hstate⟩

/-- A render whose extractors fail is the run of its extractors. -/
theorem render_eq_of_extractors (pipeline : Pipeline) (verbose : Bool) (document : Document)
    (ledger : Ledger) (error : PipelineError)
    (h : (runStages .extract verbose document pipeline.extractors ledger).failure = some error) :
    pipeline.render verbose (document, ledger) =
      (runStages .extract verbose document pipeline.extractors ledger).mapState
        fun known => (document, known) := by
  -- Neither the transforms nor the marking is reached.
  let first := (runStages .extract verbose document pipeline.extractors ledger).mapState
    fun known => (document, known)
  rw [render, Run.andThen_of_failure first _ error h, Run.andThen_of_failure first _ error h]

/-- A render whose transforms fail is the run of its extractors and transforms. -/
theorem render_eq_of_transforms (pipeline : Pipeline) (verbose : Bool) (document : Document)
    (ledger known : Ledger) (error : PipelineError)
    (hknown : (runStages .extract verbose document pipeline.extractors ledger).state = known)
    (hdone : (runStages .extract verbose document pipeline.extractors ledger).failure = none)
    (h : (runStages .transform verbose known pipeline.transforms document).failure = some error) :
    pipeline.render verbose (document, ledger) =
      ((runStages .transform verbose known pipeline.transforms document).mapState
        fun document => (document, known)).after
          (runStages .extract verbose document pipeline.extractors ledger).events := by
  subst hknown
  let first := (runStages .extract verbose document pipeline.extractors ledger).mapState
    fun known => (document, known)
  rw [render, Run.andThen_of_done first _ hdone]
  exact Run.andThen_of_failure _ _ error h

/-- A render stops at an extractor that fails, and leaves the document alone. -/
theorem render_of_extractor (pipeline : Pipeline) (verbose : Bool) (document : Document)
    (ledger : Ledger) (before : List Extractor) (stage : Extractor) (source : StageError)
    (h : FailsFirst verbose document pipeline.extractors ledger before stage source) :
    let run := pipeline.render verbose (document, ledger)
    run.failure = some (.stage .extract stage.name source) ∧
      run.state =
        (document, (stage.run verbose document
          (stateAfter verbose document before ledger)).state) ∧
      ∀ other : Pipeline, before ++ [stage] <+: other.extractors →
        other.render verbose (document, ledger) = run := by
  intro run
  rcases runStages_of_failsFirst .extract verbose document pipeline.extractors ledger before stage
    source h with ⟨hstate, hfailure, hsame⟩
  -- A pipeline that begins with the same stages comes to the same end.
  have hrun : run = _ := pipeline.render_eq_of_extractors verbose document ledger _ hfailure
  refine ⟨?_, ?_, ?_⟩
  · rw [hrun]
    exact hfailure
  · rw [hrun, Run.mapState, hstate]
  · intro other hother
    have hother := hsame other.extractors hother
    rw [hrun, other.render_eq_of_extractors verbose document ledger _ (hother ▸ hfailure), hother]

/-- A render stops at a transform that fails, behind extractors that are done. -/
theorem render_of_transform (pipeline : Pipeline) (verbose : Bool) (document : Document)
    (ledger : Ledger) (before : List Transform) (stage : Transform) (source : StageError)
    (hextract : AllDone verbose document pipeline.extractors ledger)
    (h : FailsFirst verbose (stateAfter verbose document pipeline.extractors ledger)
      pipeline.transforms document before stage source) :
    let run := pipeline.render verbose (document, ledger)
    let known := stateAfter verbose document pipeline.extractors ledger
    run.failure = some (.stage .transform stage.name source) ∧
      run.state =
        ((stage.run verbose known (stateAfter verbose known before document)).state, known) ∧
      ∀ other : Pipeline, other.extractors = pipeline.extractors →
        before ++ [stage] <+: other.transforms →
          other.render verbose (document, ledger) = run := by
  intro run known
  have hextracted :=
    runStages_of_allDone .extract verbose document pipeline.extractors ledger hextract
  rcases runStages_of_failsFirst .transform verbose known pipeline.transforms document before stage
    source h with ⟨hstate, hfailure, hsame⟩
  -- The extractors are all done, so that the transforms begin with what they left.
  have hrun : run = _ := pipeline.render_eq_of_transforms verbose document ledger known _
    hextracted.1 hextracted.2 hfailure
  refine ⟨?_, ?_, ?_⟩
  · rw [hrun]
    exact hfailure
  · rw [hrun, Run.after, Run.mapState, hstate]
  · intro other hextractors htransforms
    have htransforms := hsame other.transforms htransforms
    have hother := other.render_eq_of_transforms verbose document ledger known
      (.stage .transform stage.name source)
    rw [hextractors, htransforms] at hother
    rw [hrun, hother hextracted.1 hextracted.2 hfailure]

/-- What a render and a publication come to, for any stages. -/
theorem run_stops_at_first_failure (pipeline : Pipeline) (verbose : Bool) (document : Document)
    (ledger : Ledger) :
    let run := pipeline.render verbose (document, ledger)
    let known := stateAfter verbose document pipeline.extractors ledger
    let finished := stateAfter verbose known pipeline.transforms document
    let published := pipeline.distillify verbose ledger document
    -- All stages are done, or there is a first that fails.
    ((AllDone verbose document pipeline.extractors ledger ∧
        AllDone verbose known pipeline.transforms document) ∨
      (∃ before stage source,
        FailsFirst verbose document pipeline.extractors ledger before stage source) ∨
      (AllDone verbose document pipeline.extractors ledger ∧ ∃ before stage source,
        FailsFirst verbose known pipeline.transforms document before stage source)) ∧
    -- All stages are done: the body is marked.
    (AllDone verbose document pipeline.extractors ledger →
      AllDone verbose known pipeline.transforms document →
        (∀ body, finished.body? = some body → run.failure = none ∧
          run.state =
            (finished.setAttribute body.label pipeline.config.prerenderedAttribute "", known)) ∧
        (finished.body? = none →
          run.failure = some (.document .missingBody) ∧ run.state = (finished, known))) ∧
    -- An extractor fails first.
    (∀ before stage source,
      FailsFirst verbose document pipeline.extractors ledger before stage source →
        run.failure = some (.stage .extract stage.name source) ∧
        run.state =
          (document, (stage.run verbose document
            (stateAfter verbose document before ledger)).state) ∧
        ∀ other : Pipeline, before ++ [stage] <+: other.extractors →
          other.render verbose (document, ledger) = run) ∧
    -- The extractors are done, and a transform fails first.
    (AllDone verbose document pipeline.extractors ledger → ∀ before stage source,
      FailsFirst verbose known pipeline.transforms document before stage source →
        run.failure = some (.stage .transform stage.name source) ∧
        run.state =
          ((stage.run verbose known (stateAfter verbose known before document)).state, known) ∧
        ∀ other : Pipeline, other.extractors = pipeline.extractors →
          before ++ [stage] <+: other.transforms →
            other.render verbose (document, ledger) = run) ∧
    -- Stages for publication make no difference to a render.
    (∀ distillers, { pipeline with distillers }.render verbose (document, ledger) = run) ∧
    -- Publication runs these stages and nothing else.
    ((AllDone verbose ledger pipeline.distillers document ∧ published.failure = none ∧
        published.state = stateAfter verbose ledger pipeline.distillers document) ∨
      ∃ before stage source,
        FailsFirst verbose ledger pipeline.distillers document before stage source ∧
        published.failure = some (.stage .distill stage.name source) ∧
        published.state =
          (stage.run verbose ledger (stateAfter verbose ledger before document)).state ∧
        ∀ other : Pipeline, before ++ [stage] <+: other.distillers →
          other.distillify verbose ledger document = published) := by
  intro run known finished published
  refine ⟨?_, pipeline.render_of_allDone verbose document ledger,
    pipeline.render_of_extractor verbose document ledger,
    fun hextract before stage source h =>
      pipeline.render_of_transform verbose document ledger before stage source hextract h,
    fun _ => rfl, ?_⟩
  · rcases allDone_or_failsFirst verbose document pipeline.extractors ledger with hextract | hfails
    · rcases allDone_or_failsFirst verbose known pipeline.transforms document with hdone | hfails
      · exact Or.inl ⟨hextract, hdone⟩
      · exact Or.inr (Or.inr ⟨hextract, hfails⟩)
    · exact Or.inr (Or.inl hfails)
  · rcases allDone_or_failsFirst verbose ledger pipeline.distillers document with
      hdone | ⟨before, stage, source, hfails⟩
    · rcases runStages_of_allDone .distill verbose ledger pipeline.distillers document hdone with
        ⟨hstate, hfailure⟩
      exact Or.inl ⟨hdone, hfailure, hstate⟩
    · rcases runStages_of_failsFirst .distill verbose ledger pipeline.distillers document before
        stage source hfails with ⟨hstate, hfailure, hsame⟩
      exact Or.inr ⟨before, stage, source, hfails, hfailure, hstate,
        fun other hother => hsame other.distillers hother⟩

end Pipeline

end CiteRender
