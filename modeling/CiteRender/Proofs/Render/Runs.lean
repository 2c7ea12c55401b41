import CiteRender.Render.Pipeline

/-!
# Runs in Sequence

What a run made of other runs leaves behind. Going on from a failed run
changes nothing, and going on from one that is done is the next run with the
earlier events in front. Everything about lists of stages and lists of blocks
follows from these two.

`runStages_failure` and `render_cases` say once what a list of stages and a
render can do, with the state that is left in each case. A run over some stages
that fails stops at one of them, and that one began where the stages before it
ended.

`render_ledger` is a first consequence: transforms only read the ledger, so
what a render leaves in it is what its extractors left, whether the render
fails later or not.

## Theorems

* `andThen_of_failure`, `andThen_of_done`: Going on from a run.
* `forEach_keeps`: What every step keeps, a run over a list keeps.
* `forEach_failure_eq_none_iff`: A run over a list is done if every step is.
* `runStages_singleton`, `runStages_failure`: Lists of stages.
* `render_cases`: What a render does.
* `render_ledger`: A render leaves the ledger of its extractors.
-/

namespace CiteRender

namespace Run

variable {α σ ε : Type}

theorem andThen_of_failure (run : Run σ ε) (next : σ → Run σ ε) (error : ε)
    (h : run.failure = some error) : run.andThen next = run := by
  rw [andThen, h]

theorem andThen_of_done (run : Run σ ε) (next : σ → Run σ ε) (h : run.failure = none) :
    run.andThen next = (next run.state).after run.events := by
  rw [andThen, h]
  rfl

theorem andThen_outcome (run : Run σ ε) (next : σ → Run σ ε) (h : run.failure = none) :
    (run.andThen next).state = (next run.state).state ∧
      (run.andThen next).failure = (next run.state).failure := by
  rw [andThen_of_done run next h]
  exact ⟨rfl, rfl⟩

/-- What the first run has and the next keeps, both together have. -/
theorem andThen_keeps (P : σ → Prop) (run : Run σ ε) (next : σ → Run σ ε) (h : P run.state)
    (hnext : ∀ state, P state → P (next state).state) : P (run.andThen next).state := by
  rcases hfail : run.failure with _ | error
  · rw [andThen_of_done run next hfail]
    exact hnext run.state h
  · rw [andThen_of_failure run next error hfail]
    exact h

/-- Two runs in sequence are done exactly if both are. -/
theorem andThen_failure_eq_none_iff (run : Run σ ε) (next : σ → Run σ ε) :
    (run.andThen next).failure = none ↔
      run.failure = none ∧ (next run.state).failure = none := by
  rcases hfail : run.failure with _ | error
  · rw [andThen_of_done run next hfail]
    exact ⟨fun h => ⟨rfl, h⟩, fun h => h.2⟩
  · rw [andThen_of_failure run next error hfail, hfail]
    exact ⟨fun h => absurd h (by simp), fun h => absurd h.1 (by simp)⟩

theorem forEach_keeps (P : σ → Prop) (step : α → σ → Run σ ε) (items : List α)
    (hstep : ∀ item state, P state → P (step item state).state) :
    ∀ state, P state → P (forEach step items state).state := by
  induction items with
  | nil =>
      intro state h
      exact h
  | cons item items ih =>
      intro state h
      exact andThen_keeps P (step item state) (forEach step items) (hstep item state h) ih

/-- A run over a list is done exactly if every step is, where the state a step
    begins in does not decide whether it fails. -/
theorem forEach_failure_eq_none_iff (ok : α → Prop) (step : α → σ → Run σ ε)
    (hstep : ∀ item state, (step item state).failure = none ↔ ok item) (items : List α) :
    ∀ state, (forEach step items state).failure = none ↔ ∀ item ∈ items, ok item := by
  induction items with
  | nil =>
      intro state
      simp [forEach]
  | cons item items ih =>
      intro state
      rw [forEach, andThen_failure_eq_none_iff, hstep, ih, List.forall_mem_cons]

end Run

/-- A list of one stage. -/
theorem runStages_singleton {ρ σ : Type} (phase : Phase) (verbose : Bool) (input : ρ)
    (stage : Stage ρ σ) (state : σ) :
    (runStages phase verbose input [stage] state).state = (stage.run verbose input state).state ∧
      (runStages phase verbose input [stage] state).failure =
        (stage.run verbose input state).failure.map (.stage phase stage.name) := by
  rw [runStages, Run.forEach]
  rcases hfail : (runStage phase verbose input stage state).failure with _ | error
  · rw [Run.andThen_of_done _ _ hfail]
    exact ⟨rfl, hfail.symm⟩
  · rw [Run.andThen_of_failure _ _ error hfail]
    exact ⟨rfl, rfl⟩

/-- The stage that ends a list with a failure. The stages before it are done,
    and it begins in the state that they leave. -/
theorem runStages_failure {ρ σ : Type} (phase : Phase) (verbose : Bool) (input : ρ)
    (stages : List (Stage ρ σ)) (error : PipelineError) :
    ∀ state, (runStages phase verbose input stages state).failure = some error →
      ∃ before stage after source, stages = before ++ stage :: after ∧
        let start := runStages phase verbose input before state
        let stop := stage.run verbose input start.state
        start.failure = none ∧ stop.failure = some source ∧
          error = .stage phase stage.name source ∧
          (runStages phase verbose input stages state).state = stop.state := by
  induction stages with
  | nil =>
      intro state h
      simp [runStages, Run.forEach] at h
  | cons stage stages ih =>
      intro state h
      rw [runStages, Run.forEach] at h ⊢
      rcases hfirst : (runStage phase verbose input stage state).failure with _ | failed
      · -- The first stage is done, so one of the others fails.
        rw [Run.andThen_of_done _ _ hfirst] at h ⊢
        rcases ih _ h with ⟨before, failing, after, source, rfl, hstart, hstop, herror, hstate⟩
        refine ⟨stage :: before, failing, after, source, rfl, ?_⟩
        rw [runStages, Run.forEach, Run.andThen_of_done _ _ hfirst]
        exact ⟨hstart, hstop, herror, hstate⟩
      · rw [Run.andThen_of_failure _ _ failed hfirst] at h ⊢
        rcases hsource : (stage.run verbose input state).failure with _ | source
        · rw [runStage, hsource] at h
          simp at h
        · refine ⟨[], stage, stages, source, rfl, rfl, hsource, ?_, rfl⟩
          rw [runStage, hsource] at h
          exact (Option.some.inj h).symm

theorem Pipeline.markRendered_done (config : Config) (document : Document)
    (h : (markRendered config document).failure = none) :
    document.mark config.prerenderedAttribute =
      .ok (markRendered config document).state := by
  rw [markRendered] at h ⊢
  rcases hmark : document.mark config.prerenderedAttribute with error | marked
  · rw [hmark] at h
    exact absurd h (by simp [Run.failed])
  · rfl

/-- Failing to mark the body is put down to no stage. -/
theorem Pipeline.markRendered_failure (config : Config) (document : Document)
    (error : PipelineError) (h : (markRendered config document).failure = some error) :
    ∃ source, error = .document source := by
  rw [markRendered] at h
  rcases hmark : document.mark config.prerenderedAttribute with source | marked
  · rw [hmark] at h
    exact ⟨source, (Option.some.inj h).symm⟩
  · rw [hmark] at h
    exact absurd h (by simp)

/-- What a render does. Its extractors fail, or its transforms do after them,
    or it comes to the marking of the body. -/
theorem Pipeline.render_cases (pipeline : Pipeline) (verbose : Bool) (document : Document)
    (ledger : Ledger) :
    let run := pipeline.render verbose (document, ledger)
    let extracted := runStages .extract verbose document pipeline.extractors ledger
    let transformed := runStages .transform verbose extracted.state pipeline.transforms document
    let finished := markRendered pipeline.config transformed.state
    (∃ error, extracted.failure = some error ∧ run.state = (document, extracted.state) ∧
      run.failure = some error) ∨
    (extracted.failure = none ∧ ∃ error, transformed.failure = some error ∧
      run.state = (transformed.state, extracted.state) ∧ run.failure = some error) ∨
    (extracted.failure = none ∧ transformed.failure = none ∧
      run.state = (finished.state, extracted.state) ∧ run.failure = finished.failure) := by
  intro run extracted transformed finished
  let transform (s : Document × Ledger) : Run (Document × Ledger) PipelineError :=
    (runStages .transform verbose s.2 pipeline.transforms s.1).mapState fun d => (d, s.2)
  let finish (s : Document × Ledger) : Run (Document × Ledger) PipelineError :=
    (markRendered pipeline.config s.1).mapState fun d => (d, s.2)
  -- The extractors see one half of the state and the transforms the other.
  let first := extracted.mapState fun l => (document, l)
  have hrun : run = (first.andThen transform).andThen finish := rfl
  rw [hrun]
  rcases hextracted : extracted.failure with _ | error
  · have hsecond : (first.andThen transform).state = (transformed.state, extracted.state) ∧
        (first.andThen transform).failure = transformed.failure :=
      Run.andThen_outcome first transform hextracted
    rcases htransformed : transformed.failure with _ | error
    · have hthird := Run.andThen_outcome _ finish (hsecond.2.trans htransformed)
      rw [hsecond.1] at hthird
      exact Or.inr (Or.inr ⟨rfl, rfl, hthird⟩)
    · rw [Run.andThen_of_failure _ finish error (hsecond.2.trans htransformed)]
      exact Or.inr (Or.inl ⟨rfl, error, rfl, hsecond.1, hsecond.2.trans htransformed⟩)
  · rw [Run.andThen_of_failure first transform error hextracted,
      Run.andThen_of_failure first finish error hextracted]
    exact Or.inl ⟨error, rfl, rfl, hextracted⟩

/-- A render leaves the ledger that its extractors left. -/
theorem Pipeline.render_ledger (pipeline : Pipeline) (verbose : Bool) (document : Document)
    (ledger : Ledger) :
    (pipeline.render verbose (document, ledger)).state.2 =
      (runStages .extract verbose document pipeline.extractors ledger).state := by
  -- Neither of the later steps touches the second half of the state.
  let P (state : Document × Ledger) : Prop :=
    state.2 = (runStages .extract verbose document pipeline.extractors ledger).state
  exact Run.andThen_keeps P _ _ (Run.andThen_keeps P _ _ rfl fun _ h => h) fun _ h => h

end CiteRender
