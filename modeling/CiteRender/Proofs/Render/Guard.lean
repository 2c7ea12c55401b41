import CiteRender.Proofs.Command.Plans
import CiteRender.Proofs.Html.PlainFront
import CiteRender.Proofs.Render.Marking

/-!
# The Guard against a Second Render

A render marks the body, and a render of what was printed should see the mark
and refuse. The mark has to survive printing and parsing for that.

It does whenever its name can be read and what is printed in front of the body
leads the reader to the start tag of the body. The name is written as the
configuration gives it, though, while the reader of tags lowers names and parts
them at blanks. With any name that the reader never gives the guard sees no
mark, so it lets a second render pass.

What is in front of the body can hide the mark too. A script in the head that
never ends is printed with an end tag that does not end it, and the body is read
as a part of the script.

## Main definitions

* `Produces`: The documents that a render makes of a text.
* `Document.FrontReads`: The start tag of the body is read where it belongs.
* `Refuses`: No render without force passes a document.

## Theorems

* `produces_runPipeline`: What the command makes is such a document.
* `frontReads_of_hasPlainFront`: A plain front is read as it should be.
* `guard_recognises_produced`: When the guard recognises what a render has made.
* `guard_misses_mark`: Renders whose output the guard does not recognise.
-/

namespace CiteRender

open Node

/-! What a render makes. -/

/-- The documents that a render makes of a text, as they are or made ready for
    publication. -/
inductive Produces (config : Config) (html : String) : Document → Prop
  | rendered (verbose : Bool) (ledger known : Ledger) (document : Document)
    (hdone : ((Pipeline.standard config).render verbose (Document.parse html, ledger)).failure = none)
    (hstate : ((Pipeline.standard config).render verbose (Document.parse html, ledger)).state =
      (document, known)) : Produces config html document
  | published (verbose : Bool) (ledger : Ledger) (document : Document)
    (hdocument : Produces config html document)
    (hdone : ((Pipeline.standard config).distillify verbose ledger document).failure = none) :
      Produces config html ((Pipeline.standard config).distillify verbose ledger document).state

/-- What the command for a render makes, with or without publication. -/
theorem produces_runPipeline (options : RenderOptions) (config : Config) (entries : Bibliography)
    (html : String)
    (hdone : (runPipeline options config entries (Document.parse html)).failure = none) :
    Produces config html (runPipeline options config entries (Document.parse html)).state.1 := by
  rw [runPipeline, Run.andThen_failure_eq_none_iff] at hdone
  have houtcome := Run.andThen_outcome ((Pipeline.standard config).render (!options.quiet)
    (Document.parse html, { bibliography := entries })) (fun state =>
      if options.distillify then
        ((Pipeline.standard config).distillify (!options.quiet) state.2 state.1).mapState
          fun document => (document, state.2)
      else { state }) hdone.1
  have hrendered := Produces.rendered (!options.quiet) { bibliography := entries } _ _ hdone.1
    Prod.mk.eta.symm
  rw [runPipeline, houtcome.1]
  have hpublished := hdone.2
  split
  · next hdistillify =>
      rw [if_pos hdistillify] at hpublished
      exact .published _ _ _ hrendered hpublished
  · exact hrendered

theorem Produces.markedAs {config : Config} {html : String} {document : Document}
    (h : Produces config html document) : document.MarkedAs config.prerenderedAttribute := by
  induction h with
  | rendered verbose ledger known document hdone hstate =>
      exact render_markedAs config verbose html ledger known document hdone hstate
  | published verbose ledger document _ _ ih =>
      exact distillify_markedAs config verbose _ ledger document ih

/-! Recognising. -/

/-- The start tag of the body is read where it belongs: reading the printed
    document leads to it between head and body. -/
def Document.FrontReads (document : Document) : Prop :=
  ∃ body html b rest, document.body? = some body ∧ Html.Builder.IsBetween html b ∧
    Html.Builder.LeadsTo ({}, Html.unifyLines (Html.dropMark document.html.toList))
      (b, Html.unifyLines (Html.printStart body.tag body.attributes ++ rest))

/-- A plain front is read as it should be. -/
theorem frontReads_of_hasPlainFront (document : Document) (hnamed : document.IsNamed)
    (h : Html.hasPlainFront document.nodes = true) : document.FrontReads := by
  rcases Html.nonempty_frontParts document.nodes h with ⟨parts⟩
  rcases parts.leadsTo fun e he => (hnamed e he).readable with ⟨html, b, rest, hbetween, hleads⟩
  have hbody : document.body? = some parts.body := by
    rw [Document.body?, document.matching_named "body" (by decide), List.head?_filter]
    exact parts.find?_body
  refine ⟨parts.body, html, b, rest, hbody, hbetween, ?_⟩
  rw [Document.html, String.toList_ofList]
  exact hleads

/-- A marked body whose start tag is read where it belongs is recognised. -/
theorem isMarked_of_frontReads (document : Document) (mark : String) (h : document.MarkedAs mark)
    (hname : Html.isAttributeName mark.toList = true) (hfront : document.FrontReads) :
    (Document.parse document.html).isMarked mark = true := by
  rcases h.body with ⟨body, hbody, hmark, htag⟩
  rcases hfront with ⟨found, html, b, rest, hfound, hbetween, hleads⟩
  obtain rfl : found = body := Option.some.inj (hfound.symm.trans hbody)
  have hreadable := (h.named hname found (document.mem_of_body? found hbody).1).readable
    (by rw [htag]; rfl)
  rw [htag] at hleads
  have hread := Html.hasMark_of_leadsTo document.html.toList html b found.attributes rest mark
    hbetween hreadable hmark hleads
  exact Document.isMarked_parse document.html mark hread.1 hread.2

/-! Refusing. -/

/-- A command line for a render that does not force it is refused once it has
    found a configuration and an article, with the exit code for an article that
    is rendered already, and nothing is written. -/
def Refuses (config : Config) (document : Document) : Prop :=
  ∀ (arguments : List String) (options : RenderOptions) (s s₁ s₂ : Surroundings),
    Request.read arguments = .ok (.render options) → options.force = false →
    (loadConfig options.config).run.carryOut s = (.ok config, s₁) →
    (loadArticle options.input).run.carryOut s₁ = (.ok document, s₂) →
    checkTemplate options.checkTemplate document = .ok () →
      let result := (runCommandLine arguments).carryOut s
      result.1 = reportOf (.error (.alreadyRendered options.input config.prerenderedAttribute)) ∧
        result.1.code = 13 ∧ result.1.output = "" ∧ s.SameOutside result.2

theorem refuses_of_isMarked (config : Config) (document : Document)
    (h : document.isMarked config.prerenderedAttribute = true) : Refuses config document := by
  intro arguments options s s₁ s₂ harguments hforce hconfig harticle htemplate
  have hplan := planRender_marked options config document s s₁ s₂ hforce hconfig harticle htemplate h
  have hrun : (runCommandLine arguments).carryOut s =
      (reportOf (.error (.alreadyRendered options.input config.prerenderedAttribute)), s₂) := by
    rw [runCommandLine, harguments]
    dsimp only
    rw [Plan.carryOut_bind, Request.plan, hplan.1]
    rfl
  dsimp only
  rw [hrun]
  exact ⟨rfl, rfl, rfl, hplan.2⟩

/-- What a render has made is recognised when it is read again, and refused, if
    the name of the mark can be read and so can what is in front of the body, as
    is the case if it is plain. With a name that cannot be read it never is. -/
theorem guard_recognises_produced (config : Config) (html : String) (produced : Document)
    (h : Produces config html produced) :
    let reread := Document.parse produced.html
    let mark := config.prerenderedAttribute
    (Html.isAttributeName mark.toList = false →
      reread.isMarked mark = false ∧ ∀ options, checkMark options config reread = .ok ()) ∧
    (Html.isAttributeName mark.toList = true →
      Html.hasPlainFront produced.nodes = true ∨ produced.FrontReads →
        reread.isMarked mark = true ∧ Refuses config reread) := by
  constructor
  · -- A mark whose name cannot be read back is never found, whatever was written.
    intro hname
    have hunmarked : (Document.parse produced.html).isMarked config.prerenderedAttribute = false := by
      rw [← Bool.not_eq_true]
      intro hmarked
      rw [Document.isAttributeName_of_isMarked _ _ hmarked] at hname
      exact absurd hname (by simp)
    exact ⟨hunmarked, fun options => by rw [checkMark, hunmarked]; rfl⟩
  · -- Otherwise it is found wherever the text in front of the body is read as it was written.
    intro hname hfront
    have hreads : produced.FrontReads :=
      hfront.elim (frontReads_of_hasPlainFront produced (h.markedAs.named hname)) id
    have hmarked := isMarked_of_frontReads produced _ h.markedAs hname hreads
    exact ⟨hmarked, refuses_of_isMarked config _ hmarked⟩

/-- A render with the usual mark, whose output is refused. -/
theorem guard_recognises_produced_paragraph :
    let produced := ((Pipeline.standard {}).render false (Document.parse "<p>x</p>", {})).state.1
    Produces {} "<p>x</p>" produced ∧
      Html.isAttributeName ({} : Config).prerenderedAttribute.toList = true ∧
      Html.hasPlainFront produced.nodes = true ∧
      (Document.parse produced.html).isMarked ({} : Config).prerenderedAttribute = true ∧
      Refuses {} (Document.parse produced.html) := by
  have hproduced : Produces {} "<p>x</p>"
      ((Pipeline.standard {}).render false (Document.parse "<p>x</p>", {})).state.1 :=
    .rendered false {} _ _ (by decide +kernel) Prod.mk.eta.symm
  have hname : Html.isAttributeName ({} : Config).prerenderedAttribute.toList = true := by
    decide +kernel
  have hfront : Html.hasPlainFront ((Pipeline.standard {}).render false
      (Document.parse "<p>x</p>", {})).state.1.nodes = true := by decide +kernel
  exact ⟨hproduced, hname, hfront,
    (guard_recognises_produced {} "<p>x</p>" _ hproduced).2 hname (.inl hfront)⟩

/-- The guard does not recognise every render: it misses a mark with capitals in
    its name, and the usual mark behind a script that never ends. -/
theorem guard_misses_mark :
    let capitals := (Pipeline.standard { prerenderedAttribute := "Data-Done" }).render false
      (Document.parse "<p>x</p>", {})
    let script := (Pipeline.standard {}).render false (Document.parse "<script><!--<script>", {})
    (capitals.failure = none ∧
        (Document.parse capitals.state.1.html).isMarked "Data-Done" = false) ∧
      script.failure = none ∧
        (Document.parse script.state.1.html).isMarked ({} : Config).prerenderedAttribute = false := by
  decide +kernel

end CiteRender
