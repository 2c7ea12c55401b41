import CiteRender.Proofs.Command.Writing

/-!
# Exit Codes

A render makes its checks one after the other, and each has an exit code of its
own. Here each check is said to fail or not by itself, from what the files and
the standard input hold, so that the exit code can be read from a list: it is
that of the first check in the list that fails. A check of something that could
not be loaded does not fail, because an earlier one does.

Loading uses up the standard input when it reads it, so what is loaded later is
loaded from what is left.

Up to the last check a render only reads, and the last check is the write, which
changes nothing if it fails. So a failure leaves everything as it was. If there
is none, the article is in one place only, which the path of the output decides.

## Main definitions

* `Check`, `Check.order`: The checks of a render.
* `Loaded`, `RenderOptions.load`: What a render works on.
* `Check.fails`, `RenderOptions.exitCode`: The checks that fail, and the code of
  the first.
* `Delivered`: What a render that succeeds leaves.

## Theorems

* `Attempt.failsWith_bind`: Attempts that fail with one exit code.
* `EndsBy.bind`: One check and those that follow it.
* `planRender_endsBy`: A render ends by its first failing check.
* `runCommandLine_exits`: What a command line comes to.
-/

namespace CiteRender

variable {α β ε : Type}

/-- The checks of a render. -/
inductive Check where
  | config
  | input
  | template
  | mark
  | references
  | stages
  | output
  deriving DecidableEq

namespace Check

/-- The checks in the order in which they are made. -/
def order : List Check :=
  [config, input, template, mark, references, stages, output]

/-- The exit code of a check that fails. -/
def code : Check → Nat
  | config => 16
  | input => 10
  | template => 12
  | mark => 13
  | references => 11
  | stages => 14
  | output => 15

end Check

/-- What a render works on, as far as it can be loaded, and the surroundings after
    that. -/
structure Loaded where
  config : Option Config
  article : Option Document
  references : Option Bibliography
  left : Surroundings

/-- Loads the configuration, the article and the references, whether those before
    could be loaded or not. -/
def RenderOptions.load (options : RenderOptions) (s : Surroundings) : Loaded :=
  let config := (loadConfig options.config).run.carryOut s
  let article := (loadArticle options.input).run.carryOut config.2
  let references := (loadPreliminary options.bibliography).run.carryOut article.2
  { config := config.1.toOption
    article := article.1.toOption
    references := references.1.toOption
    left := references.2 }

/-- The run of the stages, if all that it needs is loaded. -/
def Loaded.run? (loaded : Loaded) (options : RenderOptions) :
    Option (Run (Document × Ledger) PipelineError) :=
  loaded.config.bind fun config =>
    loaded.article.bind fun article =>
      loaded.references.map fun references => runPipeline options config references article

/-- Whether a check fails. -/
def Check.fails (options : RenderOptions) (loaded : Loaded) : Check → Bool
  | config => loaded.config.isNone
  | input => loaded.article.isNone
  | template =>
    options.checkTemplate && loaded.article.any fun article => !(detectTemplate article).isOk
  | mark =>
    !options.force && loaded.config.any fun config =>
      loaded.article.any fun article => article.isMarked config.prerenderedAttribute
  | references => loaded.references.isNone
  | stages => (loaded.run? options).any fun run => run.failure.isSome
  | output =>
    options.output.any fun path =>
      (loaded.run? options).any fun run => !(loaded.left.write path run.state.1.html).isOk

/-- The exit code of the first check that fails, or zero. -/
def RenderOptions.exitCode (options : RenderOptions) (s : Surroundings) : Nat :=
  ((Check.order.find? (Check.fails options (options.load s))).map Check.code).getD 0

/-- A text is at the place of an output and nowhere else: it has been written where
    the path leads, or else it is what is shown at the end. -/
def Delivered (output : Option String) (text : String) (s : Surroundings) (shown : String)
    (left : Surroundings) : Prop :=
  match output with
  | some path => shown = "" ∧ s.Written path text left
  | none => shown = text ∧ s.SameOutside left

theorem Failure.code_ne_zero (failure : Failure) : failure.code ≠ 0 := by
  cases failure <;> simp [code]

theorem mapError_eq_error {ε' : Type} (f : ε → ε') (result : Except ε α) (e' : ε')
    (h : result.mapError f = .error e') : ∃ e, result = .error e ∧ f e = e' := by
  cases result with
  | error e => exact ⟨e, rfl, Except.error.inj h⟩
  | ok a =>
      have hok : Except.ok a = Except.error e' := h
      exact absurd hok (by simp)

theorem mapError_eq_ok {ε' : Type} (f : ε → ε') (result : Except ε α) (a : α)
    (h : result.mapError f = .ok a) : result = .ok a := by
  cases result with
  | error e =>
      have herror : Except.error (f e) = Except.ok a := h
      exact absurd herror (by simp)
  | ok b => exact congrArg Except.ok (Except.ok.inj h)

namespace Attempt

/-- An attempt whose failures have one exit code. -/
def FailsWith (attempt : Attempt α) (code : Nat) : Prop :=
  ∀ s failure, (attempt.run.carryOut s).1 = .error failure → failure.code = code

theorem failsWith_check (failure : ε → Failure) (result : Except ε α) (code : Nat)
    (h : ∀ e, result = .error e → (failure e).code = code) :
    (check failure result).FailsWith code := by
  intro s error herror
  rcases mapError_eq_error failure result error herror with ⟨e, he, rfl⟩
  exact h e he

theorem failsWith_pure (a : α) (code : Nat) : (pure a : Attempt α).FailsWith code := by
  intro s failure h
  have hpure : Except.ok a = Except.error failure := h
  exact absurd hpure (by simp)

theorem failsWith_file (failure : FileFault → Failure) (path : String) (code : Nat)
    (h : ∀ fault, (failure fault).code = code) : (file failure path).FailsWith code := by
  intro s error herror
  rcases mapError_eq_error failure ((s.read path).1.bind decodeText) error herror with ⟨fault, -, rfl⟩
  exact h fault

theorem failsWith_input : input.FailsWith 10 := by
  intro s error herror
  rcases mapError_eq_error Failure.standardInput (decodeText s.input) error herror with ⟨fault, -, rfl⟩
  rfl

/-- Attempts that fail with one exit code, one after the other. -/
theorem failsWith_bind (first : Attempt α) (next : α → Attempt β) (code : Nat)
    (h : first.FailsWith code) (hnext : ∀ a, (next a).FailsWith code) :
    (first >>= next).FailsWith code := by
  intro s failure hfailure
  rcases hfirst : first.run.carryOut s with ⟨error | a, s'⟩
  · rw [carryOut_bind_error first next s s' error hfirst] at hfailure
    refine h s failure ?_
    rw [hfirst, Except.error.inj hfailure]
  · rw [carryOut_bind_ok first next s s' a hfirst] at hfailure
    exact hnext a s' failure hfailure

/-- What an attempt leaves when its result is changed. -/
theorem carryOut_map (f : α → β) (attempt : Attempt α) (s : Surroundings) :
    (f <$> attempt).run.carryOut s =
      (((attempt.run.carryOut s).1.map f), (attempt.run.carryOut s).2) := by
  refine (Plan.carryOut_bind attempt.run _ s).trans ?_
  rcases attempt.run.carryOut s with ⟨error | a, s'⟩
  · rfl
  · rfl

theorem failsWith_map (f : α → β) (attempt : Attempt α) (code : Nat)
    (h : attempt.FailsWith code) : (f <$> attempt).FailsWith code := by
  intro s failure hfailure
  rw [carryOut_map] at hfailure
  rcases hresult : (attempt.run.carryOut s).1 with error | a
  · rw [hresult] at hfailure
    refine h s failure ?_
    rw [hresult, Except.error.inj hfailure]
  · rw [hresult] at hfailure
    exact absurd hfailure (by simp [Except.map])

/-- A text is written to its file, or what fails is the output. -/
theorem carryOut_save (path text : String) (s : Surroundings) :
    (save path text).run.carryOut s =
      match s.write path text with
      | .ok left => (.ok (), left)
      | .error fault => (.error (.output path fault), s) := by
  show Plan.carryOut (.writeFile path text _) s = _
  rw [Plan.carryOut]
  cases s.write path text with
  | ok left => rfl
  | error fault => rfl

end Attempt

theorem failsWith_loadConfig (path : Option String) : (loadConfig path).FailsWith 16 := by
  cases path with
  | none => exact Attempt.failsWith_pure _ _
  | some path =>
      refine Attempt.failsWith_bind _ _ _ ?_ fun text => ?_
      · exact Attempt.failsWith_file _ path _ fun _ => rfl
      · exact Attempt.failsWith_check _ _ _ fun _ _ => rfl

theorem failsWith_loadArticle (path : String) : (loadArticle path).FailsWith 10 := by
  refine Attempt.failsWith_map _ _ _ ?_
  split
  · exact Attempt.failsWith_input
  · exact Attempt.failsWith_file _ path _ fun _ => rfl

theorem onlyReads_loadReferences (path : String) : (loadReferences path).run.OnlyReads :=
  Attempt.onlyReads_bind _ _ (Attempt.onlyReads_file _ path) fun _ => trivial

theorem onlyReads_loadPreliminary (path : Option String) :
    (loadPreliminary path).run.OnlyReads := by
  cases path with
  | none => trivial
  | some path => exact onlyReads_loadReferences path

theorem failsWith_loadPreliminary (path : Option String) : (loadPreliminary path).FailsWith 11 := by
  cases path with
  | none => exact Attempt.failsWith_pure _ _
  | some path =>
      refine Attempt.failsWith_bind _ _ _ ?_ fun text => ?_
      · exact Attempt.failsWith_file _ path _ fun _ => rfl
      · exact Attempt.failsWith_check _ _ _ fun _ _ => rfl

/-! One check after the other. -/

/-- A result is that of the first of some checks that fails, and nothing has been
    changed by then, or else none of them fails. -/
def EndsBy (fails : Check → Bool) (s : Surroundings) (Done : Rendering → Surroundings → Prop)
    (checks : List Check) : Except Failure Rendering × Surroundings → Prop
  | (.error failure, left) =>
    (checks.find? fails).map Check.code = some failure.code ∧ s.SameOutside left
  | (.ok rendering, left) => checks.find? fails = none ∧ Done rendering left

/-- One check that only reads, and those that follow it. -/
theorem EndsBy.bind {fails : Check → Bool} {s : Surroundings}
    {Done : Rendering → Surroundings → Prop} {check : Check} {checks : List Check}
    (first : Attempt α) (next : α → Attempt Rendering) (before : Surroundings)
    (hbefore : s.SameOutside before) (hreads : first.run.OnlyReads)
    (hcode : first.FailsWith check.code)
    (hcheck : fails check = !(first.run.carryOut before).1.isOk)
    (hnext : ∀ a after, first.run.carryOut before = (.ok a, after) → s.SameOutside after →
      EndsBy fails s Done checks ((next a).run.carryOut after)) :
    EndsBy fails s Done (check :: checks) ((first >>= next).run.carryOut before) := by
  have hafter := hbefore.trans (hreads.sameOutside _ before)
  rcases hfirst : first.run.carryOut before with ⟨error | a, after⟩
  · rw [hfirst] at hafter hcheck
    rw [Attempt.carryOut_bind_error first next before after error hfirst]
    refine ⟨?_, hafter⟩
    rw [List.find?_cons_of_pos hcheck, Option.map_some, hcode before error (by rw [hfirst])]
  · rw [hfirst] at hafter hcheck
    rw [Attempt.carryOut_bind_ok first next before after a hfirst]
    have hrest := hnext a after hfirst hafter
    have hpassed : (check :: checks).find? fails = checks.find? fails :=
      List.find?_cons_of_neg (by rw [hcheck]; simp [Except.isOk, Except.toBool])
    -- The check has not failed, so the end is found among those that follow.
    rcases hend : (next a).run.carryOut after with ⟨failure | rendering, left⟩
    · rw [hend] at hrest
      rw [EndsBy, hpassed]
      exact hrest
    · rw [hend] at hrest
      rw [EndsBy, hpassed]
      exact hrest

theorem isNone_toOption (result : Except ε α) : result.toOption.isNone = !result.isOk := by
  cases result <;> rfl

theorem isOk_mapError {ε' : Type} (f : ε → ε') (result : Except ε α) :
    (result.mapError f).isOk = result.isOk := by
  cases result <;> rfl

theorem isOk_map (f : α → β) (result : Except ε α) : (result.map f).isOk = result.isOk := by
  cases result <;> rfl

theorem Attempt.carryOut_check (failure : ε → Failure) (result : Except ε α) (s : Surroundings) :
    (check failure result).run.carryOut s = (result.mapError failure, s) := rfl

theorem isOk_checkTemplate (asked : Bool) (article : Document) :
    (!(checkTemplate asked article).isOk) = (asked && !(detectTemplate article).isOk) := by
  rw [checkTemplate]
  cases asked with
  | false => rfl
  | true => rw [if_pos rfl, isOk_map, Bool.true_and]

theorem isOk_checkMark (options : RenderOptions) (config : Config) (article : Document) :
    (!(checkMark options config article).isOk) =
      (!options.force && article.isMarked config.prerenderedAttribute) := by
  rw [checkMark, Bool.and_comm (!options.force)]
  split
  · next h => rw [h]; rfl
  · next h => rw [Bool.not_eq_true] at h; rw [h]; rfl

theorem code_of_checkMark (options : RenderOptions) (config : Config) (article : Document)
    (failure : Failure) (h : checkMark options config article = .error failure) :
    failure.code = 13 := by
  rw [checkMark] at h
  split at h
  · exact Except.error.inj h ▸ rfl
  · exact absurd h (by simp)

theorem isOk_result {σ : Type} (run : Run σ ε) : (!run.result.isOk) = run.failure.isSome := by
  rw [Run.result]
  split
  · next h => rw [h]; rfl
  · next h => rw [h]; rfl

theorem result_eq_ok {σ : Type} (run : Run σ ε) (result : σ × List Event)
    (h : run.result = .ok result) : run.failure = none ∧ result = (run.state, run.events) := by
  rw [Run.result] at h
  split at h
  · exact absurd h (by simp)
  · exact ⟨by assumption, (Except.ok.inj h).symm⟩

/-- The write of an article is the last check. -/
theorem deliver_endsBy (fails : Check → Bool) (s before : Surroundings)
    (hbefore : s.SameOutside before) (output : Option String) (html : String)
    (events : List Event) (Done : Rendering → Surroundings → Prop)
    (hdone : ∀ rendering left, Delivered output html s rendering.output left → Done rendering left)
    (hcheck : fails .output = output.any fun path => !(before.write path html).isOk) :
    EndsBy fails s Done [.output] ((deliver output html events).run.carryOut before) := by
  cases output with
  | none =>
      refine ⟨?_, hdone _ _ ⟨rfl, hbefore⟩⟩
      rw [List.find?_cons_of_neg (by simp [hcheck]), List.find?_nil]
  | some path =>
      rw [deliver, Attempt.carryOut_map, Attempt.carryOut_save]
      rcases hwrite : before.write path html with fault | left
      · -- Nothing is written, so what the command finds stays as it is.
        refine ⟨?_, hbefore⟩
        rw [List.find?_cons_of_pos (by simp [hcheck, hwrite, Except.isOk, Except.toBool])]
        rfl
      · refine ⟨?_, hdone _ _ ⟨rfl, hbefore.written (before.written_of_write left path html hwrite)⟩⟩
        rw [List.find?_cons_of_neg (by simp [hcheck, hwrite, Except.isOk, Except.toBool]),
          List.find?_nil]

/-- A render ends by its first failing check, and if there is none its article is
    delivered. -/
theorem planRender_endsBy (options : RenderOptions) (s : Surroundings) :
    EndsBy (Check.fails options (options.load s)) s
      (fun rendering left => ∃ run, (options.load s).run? options = some run ∧
        run.failure = none ∧ Delivered options.output run.state.1.html s rendering.output left)
      Check.order ((planRender options).run.carryOut s) := by
  -- Each check finds what has been loaded by then.
  refine EndsBy.bind _ _ s ⟨rfl, rfl, rfl⟩ (onlyReads_loadConfig _) (failsWith_loadConfig _)
    (isNone_toOption _) fun config s₁ hconfig h₁ => ?_
  refine EndsBy.bind _ _ s₁ h₁ (onlyReads_loadArticle _) (failsWith_loadArticle _)
    (by rw [Check.fails, RenderOptions.load, hconfig, isNone_toOption])
    fun article s₂ harticle h₂ => ?_
  have hload : options.load s =
      { config := some config
        article := some article
        references := ((loadPreliminary options.bibliography).run.carryOut s₂).1.toOption
        left := ((loadPreliminary options.bibliography).run.carryOut s₂).2 } := by
    rw [RenderOptions.load, hconfig, harticle]
    rfl
  -- The template and the mark are looked at without reading anything.
  refine EndsBy.bind _ _ s₂ h₂ trivial (Attempt.failsWith_check _ _ 12 fun _ _ => rfl)
    (by rw [hload, Attempt.carryOut_check, isOk_mapError, isOk_checkTemplate]; rfl)
    fun _ _ hpassed _ => ?_
  obtain rfl := (Prod.mk.inj hpassed).2
  refine EndsBy.bind _ _ _ h₂ trivial (Attempt.failsWith_check _ _ 13 (code_of_checkMark _ _ _))
    (by rw [hload, Attempt.carryOut_check, isOk_mapError, isOk_checkMark]; rfl)
    fun _ _ hpassed _ => ?_
  obtain rfl := (Prod.mk.inj hpassed).2
  refine EndsBy.bind _ _ _ h₂ (onlyReads_loadPreliminary _) (failsWith_loadPreliminary _)
    (by rw [hload, Check.fails, isNone_toOption]) fun references s₃ hreferences h₃ => ?_
  -- All is loaded now, and what is run and written depends on nothing else.
  let run := runPipeline options config references article
  have hrun : (options.load s).run? options = some run := by
    rw [hload, hreferences]
    rfl
  refine EndsBy.bind _ _ s₃ h₃ trivial (Attempt.failsWith_check _ _ 14 fun _ _ => rfl)
    (by rw [Check.fails, hrun, Attempt.carryOut_check, isOk_mapError, isOk_result]; rfl)
    fun result _ hpassed _ => ?_
  obtain rfl := (Prod.mk.inj hpassed).2
  rcases result_eq_ok run result (mapError_eq_ok _ _ _ (Prod.mk.inj hpassed).1) with ⟨hdone, rfl⟩
  refine deliver_endsBy _ s _ h₃ _ _ _ _ (fun _ _ h => ⟨run, hrun, hdone, h⟩) ?_
  rw [Check.fails, hrun, hload, hreferences]
  rfl

/-- The other commands only read. -/
theorem onlyReads_plan (request : Request) (h : ∀ options, request ≠ .render options) :
    request.plan.run.OnlyReads := by
  cases request with
  | render options => exact absurd rfl (h options)
  | template input =>
      exact Attempt.onlyReads_bind _ _ (onlyReads_loadArticle input) fun article =>
        Attempt.onlyReads_bind _ _ trivial fun _ => trivial
  | cite keys bibliography style =>
      exact Attempt.onlyReads_bind _ _ (onlyReads_loadReferences bibliography) fun _ => trivial

/-- A request that fails changes nothing. -/
theorem sameOutside_of_failure (request : Request) (s left : Surroundings) (failure : Failure)
    (h : request.plan.run.carryOut s = (.error failure, left)) : s.SameOutside left := by
  cases request with
  | render options =>
      have hend := planRender_endsBy options s
      rw [show (planRender options).run.carryOut s = _ from h] at hend
      exact hend.2
  | template input =>
      have hreads := (onlyReads_plan (.template input) (by simp)).sameOutside _ s
      rw [h] at hreads
      exact hreads
  | cite keys bibliography style =>
      have hreads := (onlyReads_plan (.cite keys bibliography style) (by simp)).sameOutside _ s
      rw [h] at hreads
      exact hreads

theorem carryOut_runCommandLine (arguments : List String) (request : Request)
    (h : Request.read arguments = .ok request) (s : Surroundings) :
    (runCommandLine arguments).carryOut s =
      (reportOf (request.plan.run.carryOut s).1, (request.plan.run.carryOut s).2) := by
  rw [runCommandLine, h]
  exact Plan.carryOut_bind _ _ s

/-- What a command line comes to. One that is misused has the exit code 2. The exit
    code of a render is that of its first failing check, and if it is zero the
    rendered article is delivered, whole and to one place. Whatever the command,
    one that fails shows nothing on the standard output and changes nothing. -/
theorem runCommandLine_exits (arguments : List String) (s : Surroundings) :
    let report := ((runCommandLine arguments).carryOut s).1
    let left := ((runCommandLine arguments).carryOut s).2
    (∀ misuse, Request.read arguments = .error (.misuse misuse) → report.code = 2) ∧
    (∀ options, Request.read arguments = .ok (.render options) →
      report.code = options.exitCode s ∧
      (report.code = 0 → ∃ run, (options.load s).run? options = some run ∧ run.failure = none ∧
        Delivered options.output run.state.1.html s report.output left)) ∧
    (report.code ≠ 0 → report.output = "" ∧ s.SameOutside left) := by
  refine ⟨fun misuse h => ?_, fun options h => ?_, fun hcode => ?_⟩
  · rw [runCommandLine, h]
    rfl
  · rw [carryOut_runCommandLine arguments _ h s]
    have hend := planRender_endsBy options s
    rw [show (Request.render options).plan = planRender options from rfl]
    -- The code is the one of the first failing check, and no failure has the code of success.
    rcases hresult : (planRender options).run.carryOut s with ⟨failure | rendering, left⟩
    · rw [hresult] at hend
      refine ⟨?_, fun hzero => absurd hzero failure.code_ne_zero⟩
      rw [RenderOptions.exitCode, hend.1]
      rfl
    · rw [hresult] at hend
      refine ⟨?_, fun _ => hend.2⟩
      rw [RenderOptions.exitCode, hend.1]
      rfl
  · rcases hread : Request.read arguments with stop | request
    · rw [runCommandLine, hread] at hcode ⊢
      cases stop with
      | help => exact absurd rfl hcode
      | version => exact absurd rfl hcode
      | misuse m => exact ⟨rfl, rfl, rfl, rfl⟩
    · rw [carryOut_runCommandLine arguments request hread s] at hcode ⊢
      -- A request that ends well has the code of success, so only a failure is left.
      rcases hresult : request.plan.run.carryOut s with ⟨failure | rendering, left⟩
      · exact ⟨rfl, sameOutside_of_failure request s left failure hresult⟩
      · rw [hresult] at hcode
        exact absurd rfl hcode

/-- A command line of each kind. The article is missing in the first. In the second there
    is no file, and the render fails by its configuration, not by its article, its
    references or its output. In the third nothing fails, and the rendered article is in
    its file alone. -/
theorem runCommandLine_exits_each :
    let files : Files := .ofList
      [("a.html", "<dt-cite key=\"k\"></dt-cite>".toUTF8), ("b.bib", "@misc\x7bk\x7d".toUTF8)]
    let s : Surroundings := { files }
    let html := "<html><head></head><body distill-prerendered=\"\">" ++
      "<dt-cite key=\"k\">[1]</dt-cite></body></html>"
    ((runCommandLine ["render", "-b", "b.bib"]).carryOut s).1.code = 2 ∧
    (let arguments :=
        ["render", "a.html", "--config", "c.json", "-b", "b.bib", "-o", "none/a.html"]
      let report := ((runCommandLine arguments).carryOut {}).1
      let left := ((runCommandLine arguments).carryOut {}).2
      report.code = 16 ∧ report.output = "" ∧ Surroundings.SameOutside {} left) ∧
    (let arguments := ["render", "a.html", "-b", "b.bib", "-o", "out.html"]
      let report := ((runCommandLine arguments).carryOut s).1
      let left := ((runCommandLine arguments).carryOut s).2
      report.code = 0 ∧ report.output = "" ∧ s.Written "out.html" html left) := by
  intro files s html
  refine ⟨?misused, ?fails, ?ends⟩
  case misused =>
    have hread : Request.read ["render", "-b", "b.bib"] =
        .error (.misuse (.missing "INPUT")) := by rfl
    exact (runCommandLine_exits _ s).1 _ hread
  case fails =>
    intro arguments report left
    have hread : Request.read arguments = .ok (.render
        { input := "a.html", bibliography := some "b.bib", output := some "none/a.html",
          config := some "c.json" }) := by rfl
    have hexits := runCommandLine_exits arguments {}
    have hcode : report.code = 16 := (hexits.2.1 _ hread).1.trans (by decide +kernel)
    exact ⟨hcode, hexits.2.2 (show report.code ≠ 0 by rw [hcode]; decide)⟩
  case ends =>
    intro arguments report left
    let options : RenderOptions :=
      { input := "a.html", bibliography := some "b.bib", output := some "out.html" }
    have hread : Request.read arguments = .ok (.render options) := by rfl
    rcases (runCommandLine_exits arguments s).2.1 options hread with ⟨hexit, hdelivered⟩
    have hcode : report.code = 0 := hexit.trans (by decide +kernel)
    rcases hdelivered hcode with ⟨run, hrun, -, hshown, hwritten⟩
    -- The file has what the stages leave of the article, so that is what is computed.
    have hhtml : ((options.load s).run? options).map (fun run => run.state.1.html) =
        some html := by decide +kernel
    rw [hrun, Option.map_some, Option.some.injEq] at hhtml
    exact ⟨hcode, hshown, hhtml ▸ hwritten⟩

end CiteRender
