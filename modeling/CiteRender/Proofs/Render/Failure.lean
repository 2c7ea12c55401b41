import CiteRender.Proofs.Render.Stages

/-!
# What a Failing Stage Leaves

A run stops at the first stage that fails, and a reader of the result would
like to find the document as that stage found it. Nearly every stage looks for
what it needs before it changes anything. The stages for publication do, and
the extractors cannot touch the document at all.

The one exception is the stage that renders citations. It fills the markers
before it asks for the placeholder, so if the selector for the placeholder
cannot be read the markers stay filled. `render_failure` says exactly when this
shows: when one of the markers did not have its text already.

## Main definitions

* `Stage.LeavesAsFound`: A stage that changes nothing if it fails.
* `LeftAsFound`, `LeftByRender`: What is left of a document.

## Theorems

* `inject_leavesAsFound`: The stages for publication.
* `distillify_failure`, `render_failure`: What a failed run leaves.
* `failing_stage_leaves`: Both together.
* `failing_stage_fills_markers`: A render that fails and changes the document.
-/

namespace CiteRender

/-- A stage that fails leaves what it found. -/
def Stage.LeavesAsFound {ρ σ : Type} (stage : Stage ρ σ) : Prop :=
  ∀ verbose input state source, (stage.run verbose input state).failure = some source →
    (stage.run verbose input state).state = state

/-- An element is put in its place by the last step, which cannot fail. -/
theorem inject_leavesAsFound (tag : String) (place : End) (verbose : Bool) (document : Document)
    (source : StageError) (h : (inject tag place verbose document).failure = some source) :
    (inject tag place verbose document).state = document := by
  rw [inject] at h ⊢
  rcases hfirst : document.selectFirst tag with error | _ | found
  · rfl
  · rw [hfirst] at h
    dsimp only at h ⊢
    rcases hadded : document.addToBody tag place with error | added
    · rfl
    · rw [hadded] at h
      exact absurd h (by simp)
  · rfl

theorem distillers_leaveAsFound (config : Config) :
    ∀ stage ∈ (Pipeline.standard config).distillers, stage.LeavesAsFound := by
  intro stage hstage verbose ledger document source hfail
  simp only [Pipeline.standard, List.mem_cons, List.not_mem_nil, or_false] at hstage
  rcases hstage with rfl | rfl | rfl
  · exact inject_leavesAsFound _ _ verbose document source hfail
  · exact inject_leavesAsFound _ _ verbose document source hfail
  · exact inject_leavesAsFound _ _ verbose document source hfail

/-- A run over transforms failed at one of them, and left the document as the
    transforms before it had left it, which are done. -/
def LeftAsFound (phase : Phase) (verbose : Bool) (ledger : Ledger) (transforms : List Transform)
    (document : Document) (error : PipelineError) (left : Document) : Prop :=
  ∃ before stage after source, transforms = before ++ stage :: after ∧
    error = .stage phase stage.name source ∧
    let found := runStages phase verbose ledger before document
    found.failure = none ∧ (stage.run verbose ledger found.state).failure = some source ∧
      left = found.state

/-- A render failed at a stage. If it was an extractor, the document is left as
    it was. If it was a transform, it was the first, and it failed over the
    selector of the placeholder. The markers are filled then, and the document
    is left as it was exactly if each of them had its text in it already. -/
def LeftByRender (config : Config) (document : Document) (phase : Phase) (name : String)
    (source : StageError) (left : Document × Ledger) : Prop :=
  (phase = .extract ∧ left.1 = document) ∨
  (phase = .transform ∧ name = "Bibliography" ∧
    source = .document (.invalidSelector config.bibliographyTag) ∧
    ∃ markers, document.select config.citeTag = .ok markers ∧
      left.1 = fillMarkers left.2 document markers ∧
      (left.1 = document ↔ ∀ m ∈ markers, m.children = [.text (markerText left.2 m)]))

/-- Publication that fails leaves the document as the failing stage found it. -/
theorem distillify_failure (config : Config) (verbose : Bool) (ledger : Ledger)
    (document : Document) (error : PipelineError)
    (h : ((Pipeline.standard config).distillify verbose ledger document).failure = some error) :
    LeftAsFound .distill verbose ledger (Pipeline.standard config).distillers document error
      ((Pipeline.standard config).distillify verbose ledger document).state := by
  rcases runStages_failure .distill verbose ledger _ error document h with
    ⟨before, stage, after, source, hstages, hbefore, hstop, herror, hstate⟩
  have hstage : stage.LeavesAsFound := by
    refine distillers_leaveAsFound config stage ?_
    rw [hstages]
    exact List.mem_append_right _ (List.mem_cons_self ..)
  refine ⟨before, stage, after, source, hstages, herror, hbefore, hstop, ?_⟩
  exact hstate.trans (hstage verbose ledger _ source hstop)

/-- A render that fails at a stage. An extractor leaves the document as it was.
    A transform fails over the selector of the placeholder, and leaves the
    document with its markers filled. -/
theorem render_failure (config : Config) (verbose : Bool) (document : Document)
    (hdocument : document.Numbered) (ledger : Ledger) (phase : Phase) (name : String)
    (source : StageError)
    (h : ((Pipeline.standard config).render verbose (document, ledger)).failure =
      some (.stage phase name source)) :
    LeftByRender config document phase name source
      ((Pipeline.standard config).render verbose (document, ledger)).state := by
  rcases (Pipeline.standard config).render_cases verbose document ledger with
    ⟨error, hextracted, hstate, hfailure⟩ | ⟨hextracted, error, htransformed, hstate, hfailure⟩ |
      ⟨-, -, -, hfinished⟩
  · rw [h] at hfailure
    rw [← Option.some.inj hfailure] at hextracted
    rcases runStages_failure .extract verbose document _ _ ledger hextracted with
      ⟨before, stage, after, failed, -, -, -, herror, -⟩
    rw [hstate]
    exact Or.inl ⟨(PipelineError.stage.inj herror).1, rfl⟩
  · set known := (runStages .extract verbose document (Pipeline.standard config).extractors
      ledger).state
    rcases select_of_extracted config verbose document ledger hextracted with ⟨markers, hmarkers⟩
    have hstage := runStages_singleton .transform verbose known (renderCitations config) document
    rw [show (Pipeline.standard config).transforms = [renderCitations config] from rfl]
      at htransformed hstate
    rw [h] at hfailure
    rw [← Option.some.inj hfailure, hstage.2, Option.map_eq_some_iff] at htransformed
    rcases htransformed with ⟨failed, hfailed, herror⟩
    rcases PipelineError.stage.inj herror with ⟨hphase, hname, rfl⟩
    -- The selector of the markers was read before, so only the placeholder is left to fail.
    rcases renderCitations_failure config verbose known document hdocument markers hmarkers failed
      hfailed with ⟨hsource, hfilled⟩
    rw [hstate, hstage.1, hfilled]
    exact Or.inr ⟨hphase.symm, hname.symm, hsource, markers, hmarkers, rfl,
      fillMarkers_eq_self_iff known document hdocument markers
        (document.select_sublist _ markers hmarkers)⟩
  · rcases Pipeline.markRendered_failure _ _ _ (hfinished.symm.trans h) with ⟨failed, herror⟩
    exact absurd herror (by simp)

/-- What a failing stage leaves of the document, in a render and in publication,
    with any configuration. -/
theorem failing_stage_leaves (config : Config) (verbose : Bool) (ledger : Ledger)
    (document : Document) (hdocument : document.Numbered) :
    (∀ phase name source,
      ((Pipeline.standard config).render verbose (document, ledger)).failure =
          some (.stage phase name source) →
        LeftByRender config document phase name source
          ((Pipeline.standard config).render verbose (document, ledger)).state) ∧
    ∀ error,
      ((Pipeline.standard config).distillify verbose ledger document).failure = some error →
        LeftAsFound .distill verbose ledger (Pipeline.standard config).distillers document error
          ((Pipeline.standard config).distillify verbose ledger document).state := by
  constructor
  · intro phase name source h
    exact render_failure config verbose document hdocument ledger phase name source h
  · intro error h
    exact distillify_failure config verbose ledger document error h

/-- A render that fails over an empty selector, and publication of a document
    that has frames and no body. -/
theorem failing_stage_leaves_article :
    let config : Config := { bibliographyTag := "" }
    let article := Document.parse "<dt-cite key=a></dt-cite>"
    let frames := Document.parse "<frameset></frameset>"
    LeftByRender config article .transform "Bibliography" (.document (.invalidSelector ""))
        ((Pipeline.standard config).render false (article, {})).state ∧
      LeftAsFound .distill false {} (Pipeline.standard config).distillers frames
        (.stage .distill "DistillHeader" (.document .missingBody))
        ((Pipeline.standard config).distillify false {} frames).state :=
  ⟨(failing_stage_leaves { bibliographyTag := "" } false {} _ (Document.parse_numbered _)).1 _ _ _
      (by decide +kernel),
    (failing_stage_leaves { bibliographyTag := "" } false {} _ (Document.parse_numbered _)).2 _
      (by decide +kernel)⟩

/-- A stage that fails need not leave the document as it was. -/
theorem failing_stage_fills_markers :
    let article := Document.parse "<dt-cite key=a></dt-cite>"
    let run := (Pipeline.standard { bibliographyTag := "" }).render false (article, {})
    run.failure =
        some (.stage .transform "Bibliography" (.document (.invalidSelector ""))) ∧
      run.state.1.html ≠ article.html := by
  decide +kernel

end CiteRender
