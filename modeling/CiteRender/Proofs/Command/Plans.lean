import CiteRender.Command.Run

/-!
# Carrying Out Plans

A plan that is made of two is carried out by carrying out one after the other in
the surroundings that the first has left. An attempt goes on only after a
success, so what a command comes to can be followed check by check.

A plan that only reads uses up the standard input at most. Loading is such a
plan, and all that a render does before it has passed its checks is loading.

## Main definitions

* `Plan.OnlyReads`: A plan that writes nothing.
* `Surroundings.SameOutside`: Surroundings with the same files and outputs.

## Theorems

* `Plan.carryOut_bind`: One plan after another.
* `Attempt.carryOut_bind_ok`, `Attempt.carryOut_bind_error`: Attempts.
* `Plan.OnlyReads.sameOutside`: Reading changes nothing outside.
* `planRender_marked`: A render refuses an article that is marked.
-/

namespace CiteRender

variable {α β : Type}

/-- Surroundings with the same files, and the same texts on their outputs. -/
structure Surroundings.SameOutside (s s' : Surroundings) : Prop where
  files : s'.files = s.files
  output : s'.output = s.output
  complaint : s'.complaint = s.complaint

theorem Surroundings.SameOutside.trans {s s' s'' : Surroundings} (h : s.SameOutside s')
    (h' : s'.SameOutside s'') : s.SameOutside s'' :=
  ⟨h'.files.trans h.files, h'.output.trans h.output, h'.complaint.trans h.complaint⟩

theorem Surroundings.sameOutside_read (s : Surroundings) (path : String) :
    s.SameOutside (s.read path).2 := by
  rw [read]
  split <;> exact ⟨rfl, rfl, rfl⟩

namespace Plan

/-- A plan is carried out in the surroundings that the one before it left. -/
theorem carryOut_bind (plan : Plan α) (f : α → Plan β) :
    ∀ s, (plan.bind f).carryOut s = (f (plan.carryOut s).1).carryOut (plan.carryOut s).2 := by
  induction plan with
  | done result => exact fun _ => rfl
  | readInput next ih => exact fun _ => ih _ _
  | readFile path next ih => exact fun _ => ih _ _
  | writeFile path text next ih =>
      intro s
      rw [Plan.bind, carryOut, carryOut]
      split
      · exact ih _ _
      · exact ih _ _

/-- A plan that writes nothing. -/
def OnlyReads : Plan α → Prop
  | done _ => True
  | readInput next => ∀ text, (next text).OnlyReads
  | readFile _ next => ∀ text, (next text).OnlyReads
  | writeFile _ _ _ => False

theorem OnlyReads.sameOutside (plan : Plan α) (h : plan.OnlyReads) :
    ∀ s : Surroundings, s.SameOutside (plan.carryOut s).2 := by
  induction plan with
  | done result => exact fun _ => ⟨rfl, rfl, rfl⟩
  | readInput next ih =>
      exact fun s => ⟨(ih _ (h _) _).files, (ih _ (h _) _).output, (ih _ (h _) _).complaint⟩
  | readFile path next ih => exact fun s => (s.sameOutside_read path).trans (ih _ (h _) _)
  | writeFile path text next ih => exact absurd h not_false

theorem OnlyReads.bind (plan : Plan α) (f : α → Plan β) (h : plan.OnlyReads)
    (hf : ∀ a, (f a).OnlyReads) : (plan.bind f).OnlyReads := by
  induction plan with
  | done result => exact hf result
  | readInput next ih => exact fun text => ih text (h text)
  | readFile path next ih => exact fun text => ih text (h text)
  | writeFile path text next ih => exact absurd h not_false

end Plan

namespace Attempt

/-- An attempt goes on after a success. -/
theorem carryOut_bind_ok (first : Attempt α) (next : α → Attempt β) (s s' : Surroundings) (a : α)
    (h : first.run.carryOut s = (.ok a, s')) :
    (first >>= next).run.carryOut s = (next a).run.carryOut s' := by
  have hbind := Plan.carryOut_bind first.run (ExceptT.bindCont next) s
  rw [h] at hbind
  exact hbind

/-- An attempt ends with a failure. -/
theorem carryOut_bind_error (first : Attempt α) (next : α → Attempt β) (s s' : Surroundings)
    (failure : Failure) (h : first.run.carryOut s = (.error failure, s')) :
    (first >>= next).run.carryOut s = (.error failure, s') := by
  have hbind := Plan.carryOut_bind first.run (ExceptT.bindCont next) s
  rw [h] at hbind
  exact hbind

theorem onlyReads_bind (first : Attempt α) (next : α → Attempt β) (h : first.run.OnlyReads)
    (hnext : ∀ a, (next a).run.OnlyReads) : (first >>= next).run.OnlyReads :=
  Plan.OnlyReads.bind first.run (ExceptT.bindCont next) h fun result =>
    match result with
    | .ok a => hnext a
    | .error _ => trivial

theorem onlyReads_map (f : α → β) (attempt : Attempt α) (h : attempt.run.OnlyReads) :
    (f <$> attempt).run.OnlyReads := by
  refine Plan.OnlyReads.bind attempt.run _ h fun result => ?_
  cases result <;> trivial

theorem onlyReads_file (failure : FileFault → Failure) (path : String) :
    (file failure path).run.OnlyReads :=
  fun _ => trivial

end Attempt

theorem onlyReads_loadConfig (path : Option String) : (loadConfig path).run.OnlyReads := by
  cases path with
  | none => trivial
  | some path => exact Attempt.onlyReads_bind _ _ (Attempt.onlyReads_file _ path) fun _ => trivial

theorem onlyReads_loadArticle (path : String) : (loadArticle path).run.OnlyReads := by
  rw [loadArticle]
  refine Attempt.onlyReads_map _ _ ?_
  split
  · exact fun _ => trivial
  · exact Attempt.onlyReads_file _ path

/-- A render without force refuses an article that is marked, before anything is
    written. -/
theorem planRender_marked (options : RenderOptions) (config : Config) (document : Document)
    (s s₁ s₂ : Surroundings) (hforce : options.force = false)
    (hconfig : (loadConfig options.config).run.carryOut s = (.ok config, s₁))
    (harticle : (loadArticle options.input).run.carryOut s₁ = (.ok document, s₂))
    (htemplate : checkTemplate options.checkTemplate document = .ok ())
    (hmarked : document.isMarked config.prerenderedAttribute = true) :
    (planRender options).run.carryOut s =
        (.error (.alreadyRendered options.input config.prerenderedAttribute), s₂) ∧
      s.SameOutside s₂ := by
  have hmark : checkMark options config document =
      .error (.alreadyRendered options.input config.prerenderedAttribute) := by
    rw [checkMark, hmarked, hforce]
    rfl
  constructor
  · rw [planRender, Attempt.carryOut_bind_ok _ _ _ _ _ hconfig,
      Attempt.carryOut_bind_ok _ _ _ _ _ harticle, htemplate]
    refine (Attempt.carryOut_bind_ok _ _ _ s₂ () rfl).trans ?_
    rw [hmark]
    exact Attempt.carryOut_bind_error _ _ _ s₂ _ rfl
  · -- What comes before the check only reads.
    have hfirst := (onlyReads_loadConfig options.config).sameOutside _ s
    have hsecond := (onlyReads_loadArticle options.input).sameOutside _ s₁
    rw [hconfig] at hfirst
    rw [harticle] at hsecond
    exact hfirst.trans hsecond

end CiteRender
