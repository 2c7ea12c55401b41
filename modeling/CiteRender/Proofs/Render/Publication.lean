import CiteRender.Proofs.Render.Agreement
import CiteRender.Proofs.Render.Marking

/-!
# Publication

What publication makes of a page. Each of its three stages looks for an element
anywhere in the document, and adds one to the body if there is none. Nothing is
looked for before the stages run, so the second and the third see what those
before them have added.

They do not disturb each other. What a stage adds is neither an element that
another one looks for nor a body, so what is lacking after one stage is what was
lacking before it, and the body is the same with one more child. All three
together are one change of the body, `Document.around`, and the proof puts the
changes of the stages together in the order in which they are made.

Without a body the first element that is lacking ends the run, before anything
has been added.

## Main definitions

* `chromeStages`, `chromeNames`: The names of the stages, and of what they add.
* `Document.has`, `Document.lacking`: What is there, and what is added of a name.
* `Document.around`: Nodes around the children of an element.
* `Document.GrownTo`: A body with nodes around its children.
* `Document.lacks?`: How a stage fails in a document without a body.

## Theorems

* `around_around`, `numbersOf_around`: What `Document.around` does.
* `GrownTo.inject`: One stage, on a document with a body.
* `distillify_of_body`, `distillify_of_no_body`: All stages.
* `distillify_effect`: What publication does, and that it does it once.
-/

namespace CiteRender

open Node Document

/-- The names of the stages of publication, each with that of the element it adds. -/
def chromeStages : List (String × String) :=
  [("DistillHeader", "distill-header"), ("DistillAppendix", "distill-appendix"),
    ("DistillFooter", "distill-footer")]

/-- The names of the elements that publication adds. -/
def chromeNames : List String :=
  chromeStages.map Prod.snd

namespace Document

/-- Whether a document has an element of a name, anywhere. -/
def has (document : Document) (name : String) : Bool :=
  !(numbersOf name document.nodes).isEmpty

/-- What is added of a name: an empty element with some number, unless there is one. -/
def lacking (document : Document) (name : String) (id : Nat) : List (Node Nat) :=
  if document.has name then [] else [(Element.bare id name).node]

/-- The document with new nodes around the children of an element. Each of them has used
    a number. -/
def around (document : Document) (id : Nat) (front back : List (Node Nat)) : Document :=
  { document with
    nodes := updateIn id (fun e => e.withChildren (front ++ e.children ++ back)) document.nodes
    next := document.next + front.length + back.length }

theorem has_eq_false_iff (document : Document) (name : String) :
    document.has name = false ↔ numbersOf name document.nodes = [] := by
  rw [has, Bool.not_eq_false', List.isEmpty_iff]

theorem around_nil (document : Document) (id : Nat) : document.around id [] [] = document := by
  have hsame := updateIn_eq_self id (fun e => e.withChildren ([] ++ e.children ++ []))
    document.nodes fun e _ _ => by rw [List.nil_append, List.append_nil]; rfl
  rw [around, hsame]
  rfl

theorem around_around (document : Document) (id : Nat) (front back before behind : List (Node Nat)) :
    (document.around id front back).around id before behind =
      document.around id (before ++ front) (back ++ behind) := by
  have hnodes := updateIn_updateIn id (fun e => e.withChildren (front ++ e.children ++ back))
    (fun e => e.withChildren (before ++ e.children ++ behind)) (fun _ => rfl) document.nodes
  have hnext : document.next + front.length + back.length + before.length + behind.length =
      document.next + (before ++ front).length + (back ++ behind).length := by
    simp only [List.length_append]
    omega
  rw [around, around, around]
  dsimp only
  rw [hnodes, hnext]
  simp only [Element.withChildren, List.append_assoc]

end Document

theorem numbersOf_append (name : String) (nodes more : List (Node Nat)) :
    numbersOf name (nodes ++ more) = numbersOf name nodes ++ numbersOf name more :=
  labelsNamed_append _ nodes more

theorem numbersOf_bare (name tag : String) (id : Nat) :
    numbersOf name [(Element.bare id tag).node] = if tag = name then [id] else [] := by
  rw [numbersOf, labelsNamed_element]
  by_cases hname : tag = name
  · simp [Element.bare, Tag.html, labelsNamed, hname]
  · simp [Element.bare, Tag.html, labelsNamed, hname]

theorem numbersOf_lacking (document : Document) (name tag : String) (id : Nat) :
    numbersOf name (document.lacking tag id) =
      if tag = name ∧ document.has tag = false then [id] else [] := by
  rw [lacking]
  by_cases hhas : document.has tag = true
  · rw [if_pos hhas, if_neg (by simp [hhas])]
    rfl
  · rw [if_neg hhas, numbersOf_bare, Bool.not_eq_true] at *
    simp [hhas]

/-- Of other names than those of the new nodes the document has what it had. -/
theorem numbersOf_around_of_nil (document : Document) (id : Nat) (front back : List (Node Nat))
    (name : String) (hfront : numbersOf name front = []) (hback : numbersOf name back = []) :
    numbersOf name (document.around id front back).nodes = numbersOf name document.nodes := by
  refine labelsNamed_updateIn _ _ (fun e => e.withChildren (front ++ e.children ++ back))
    (fun e => ⟨rfl, rfl, ?_⟩) _
  rw [numbersOf] at hfront hback
  rw [Element.withChildren, labelsNamed_append, labelsNamed_append, hfront, hback, List.nil_append,
    List.append_nil]

/-- The new nodes are there beside the old ones. -/
theorem numbersOf_around (document : Document) (h : document.Numbered) (e : Element Nat)
    (he : e ∈ elementsIn document.nodes) (front back : List (Node Nat)) (name : String) :
    (numbersOf name (document.around e.label front back).nodes).Perm
      (numbersOf name document.nodes ++ (numbersOf name front ++ numbersOf name back)) := by
  have hperm := labelsNamed_updateIn_perm (fun tag => tag.name = name) document.nodes h.nodup_nodes
    e he fun children => front ++ children ++ back
  -- What was in the element is on both sides.
  refine List.perm_iff_count.mpr fun id => ?_
  have hcount := List.perm_iff_count.mp hperm id
  simp only [labelsNamed_append, List.count_append] at hcount
  simp only [numbersOf, around, List.count_append]
  omega

/-- The body with nodes around its children is the body of the document that it gives. -/
theorem Document.body?_around (document : Document) (h : document.Numbered) (body : Element Nat)
    (hbody : document.body? = some body) (front back : List (Node Nat))
    (hnumbered : (document.around body.label front back).Numbered)
    (hfront : numbersOf "body" front = []) (hback : numbersOf "body" back = []) :
    (document.around body.label front back).body? =
      some (body.withChildren (front ++ body.children ++ back)) := by
  set later := document.around body.label front back with hlater
  have hlabel : later.body?.map Element.label = some body.label := by
    have hsame := numbersOf_around_of_nil document body.label front back "body" hfront hback
    rw [numbersOf, numbersOf] at hsame
    rw [label_body?, hlater, hsame, ← label_body?, hbody, Option.map_some]
  rcases Option.map_eq_some_iff.mp hlabel with ⟨found, hfound, hsame⟩
  -- The number of the body names one element, and the changed body has it.
  have hchanged := mem_updateIn document.nodes h.nodup_nodes body
    (document.mem_of_body? body hbody).1 fun e => e.withChildren (front ++ e.children ++ back)
  rw [hfound, eq_of_label_eq later.nodes hnumbered.nodup_nodes found _
    (later.mem_of_body? found hfound).1 hchanged hsame]

theorem selectFirst_chrome (document : Document) (tag : String) (htag : tag ∈ chromeNames) :
    ∃ found, document.selectFirst tag = .ok found ∧ found.isSome = document.has tag := by
  have hfirst : document.selectFirst tag =
      .ok ((elementsIn document.nodes).find? fun e => e.tag.name = tag) := by
    simp only [chromeNames, chromeStages, List.map_cons, List.map_nil, List.mem_cons,
      List.not_mem_nil, or_false] at htag
    rcases htag with rfl | rfl | rfl
    · exact document.selectFirst_named _ rfl (by decide)
    · exact document.selectFirst_named _ rfl (by decide)
    · exact document.selectFirst_named _ rfl (by decide)
  refine ⟨_, hfirst, ?_⟩
  rw [← Option.isSome_map (f := Element.label), find?_numbersOf, has]
  cases numbersOf tag document.nodes <;> rfl

/-! One stage. -/

/-- What of some nodes stands before the children of an element when they are put at an end
    of it. -/
def End.before (place : End) (nodes : List (Node Nat)) : List (Node Nat) :=
  match place with
  | .first => nodes
  | .last => []

/-- What of some nodes stands behind the children of an element when they are put at an end
    of it. -/
def End.behind (place : End) (nodes : List (Node Nat)) : List (Node Nat) :=
  match place with
  | .first => []
  | .last => nodes

theorem End.before_nil (place : End) : place.before [] = [] := by
  cases place <;> rfl

theorem End.behind_nil (place : End) : place.behind [] = [] := by
  cases place <;> rfl

theorem End.numbersOf_eq_nil (place : End) {name : String} {nodes : List (Node Nat)}
    (h : numbersOf name nodes = []) :
    numbersOf name (place.before nodes) = [] ∧ numbersOf name (place.behind nodes) = [] := by
  cases place with
  | first => exact ⟨h, rfl⟩
  | last => exact ⟨rfl, h⟩

/-- Publication keeps an element that is there. -/
theorem inject_of_has (document : Document) (tag : String) (htag : tag ∈ chromeNames)
    (place : End) (verbose : Bool) (h : document.has tag = true) :
    (inject tag place verbose document).failure = none ∧
      (inject tag place verbose document).state = document := by
  rcases selectFirst_chrome document tag htag with ⟨found, hfound, hsome⟩
  rw [h, Option.isSome_iff_exists] at hsome
  rcases hsome with ⟨e, rfl⟩
  rw [inject, hfound]
  exact ⟨rfl, rfl⟩

theorem inject_of_no_body (document : Document) (tag : String) (htag : tag ∈ chromeNames)
    (place : End) (verbose : Bool) (hbody : document.body? = none) :
    (inject tag place verbose document).state = document ∧
      (inject tag place verbose document).failure =
        if document.has tag then none else some (.document .missingBody) := by
  rcases selectFirst_chrome document tag htag with ⟨found, hfound, hsome⟩
  rw [inject, hfound, Document.addToBody, hbody, ← hsome]
  rcases found with _ | e
  · exact ⟨rfl, rfl⟩
  · exact ⟨rfl, rfl⟩

theorem inject_of_body (document : Document) (h : document.Numbered) (tag : String)
    (htag : tag ∈ chromeNames) (place : End) (verbose : Bool) (hlacks : document.has tag = false)
    (body : Element Nat) (hbody : document.body? = some body) :
    let run := inject tag place verbose document
    let added := [(Element.bare document.next tag).node]
    run.failure = none ∧ run.state.Numbered ∧
      run.state = document.around body.label (place.before added) (place.behind added) := by
  rcases selectFirst_chrome document tag htag with ⟨found, hfound, hsome⟩
  rw [hlacks, Option.isSome_eq_false_iff, Option.isNone_iff_eq_none] at hsome
  subst hsome
  have hname : isTagName tag.toList = true :=
    (by decide : ∀ tag ∈ chromeNames, isTagName tag.toList = true) tag htag
  have hcreated := createElement_bare document tag hname (parsedElement_chrome tag htag)
  have hmem := (document.mem_of_body? body hbody).1
  rw [inject, hfound, addToBody, hbody]
  dsimp only
  rw [hcreated]
  dsimp only [Except.map]
  -- The two ends are two ways to put the new element among the children.
  cases place with
  | first =>
      rcases place_withBare document h tag body hmem (fun node children => node :: children)
        fun _ _ => Or.inr rfl with ⟨hnumbered, hplaced⟩
      refine ⟨rfl, hnumbered, hplaced.trans ?_⟩
      simp only [around, End.before, End.behind, List.append_nil, List.singleton_append]
      rfl
  | last =>
      rcases place_withBare document h tag body hmem (fun node children => children ++ [node])
        fun _ _ => Or.inl rfl with ⟨hnumbered, hplaced⟩
      exact ⟨rfl, hnumbered, hplaced⟩

/-- What has been made of a document with a body: nodes stand around the children of the
    body. -/
structure Document.GrownTo (document : Document) (body : Element Nat)
    (front back : List (Node Nat)) (later : Document) : Prop where
  eq : later = document.around body.label front back
  numbered : later.Numbered
  body : later.body? = some (body.withChildren (front ++ body.children ++ back))

/-- One stage more. It adds what the document lacked at first. -/
theorem Document.GrownTo.inject {document : Document} {body : Element Nat}
    {front back : List (Node Nat)} {later : Document} (h : document.GrownTo body front back later)
    (tag : String) (htag : tag ∈ chromeNames) (hfront : numbersOf tag front = [])
    (hback : numbersOf tag back = []) (place : End) (verbose : Bool) :
    let run := inject tag place verbose later
    let added := document.lacking tag (document.next + front.length + back.length)
    run.failure = none ∧
      document.GrownTo body (place.before added ++ front) (back ++ place.behind added) run.state := by
  intro run added
  have hnext : later.next = document.next + front.length + back.length := by
    rw [h.eq]
    rfl
  have hhas : later.has tag = document.has tag := by
    rw [has, has, h.eq, numbersOf_around_of_nil document _ front back tag hfront hback]
  by_cases hthere : document.has tag = true
  · have hadded : added = [] := if_pos hthere
    rcases inject_of_has later tag htag place verbose (hhas.trans hthere) with ⟨hdone, hstate⟩
    rw [hadded, place.before_nil, place.behind_nil, List.nil_append, List.append_nil,
      show run.state = later from hstate]
    exact ⟨hdone, h⟩
  · rw [Bool.not_eq_true] at hthere
    have hadded : added = [(Element.bare later.next tag).node] := by
      rw [hnext]
      exact if_neg (by rw [hthere]; exact Bool.false_ne_true)
    rcases inject_of_body later h.numbered tag htag place verbose (hhas.trans hthere) _ h.body with
      ⟨hdone, hnumbered, hstate⟩
    rw [← hadded] at hstate
    have hgrown : run.state = document.around body.label (place.before added ++ front)
        (back ++ place.behind added) := by
      rw [← around_around, ← h.eq]
      exact hstate
    refine ⟨hdone, hgrown, hnumbered, ?_⟩
    -- What is new is no body, so the body is the one that was there.
    have hne : tag ≠ "body" := (by decide : ∀ tag ∈ chromeNames, tag ≠ "body") tag htag
    have hnone : numbersOf "body" added = [] := by
      rw [hadded, numbersOf_bare, if_neg hne]
    rcases place.numbersOf_eq_nil hnone with ⟨hbefore, hbehind⟩
    have hbody := later.body?_around h.numbered _ h.body (place.before added)
      (place.behind added) (hstate ▸ hnumbered) hbefore hbehind
    have hchildren : place.before added ++ (front ++ body.children ++ back) ++ place.behind added =
        place.before added ++ front ++ body.children ++ (back ++ place.behind added) := by
      simp only [List.append_assoc]
    rw [← hchildren]
    exact (congrArg Document.body? hstate).trans hbody

/-! All stages. -/

/-- A run whose steps all leave the state as it was. It fails over the first step that does. -/
theorem Run.forEach_still {α σ ε : Type} (step : α → σ → Run σ ε) (items : List α) (state : σ)
    (h : ∀ item ∈ items, (step item state).state = state) :
    (forEach step items state).state = state ∧
      (forEach step items state).failure = items.findSome? fun item => (step item state).failure := by
  induction items with
  | nil => exact ⟨rfl, rfl⟩
  | cons item items ih =>
      rw [List.forall_mem_cons] at h
      rw [forEach, List.findSome?_cons]
      rcases hfail : (step item state).failure with _ | error
      · rw [andThen_of_done _ _ hfail, h.1]
        exact ih h.2
      · rw [andThen_of_failure _ _ error hfail]
        exact ⟨h.1, hfail⟩

/-- The stages of publication, by the names of their elements. -/
theorem mem_distillers (config : Config) (stage : Transform)
    (h : stage ∈ (Pipeline.standard config).distillers) :
    ∃ tag ∈ chromeNames, ∃ place, ∀ verbose ledger document,
      stage.run verbose ledger document = inject tag place verbose document := by
  simp only [Pipeline.standard, List.mem_cons, List.not_mem_nil, or_false] at h
  rcases h with rfl | rfl | rfl
  · exact ⟨"distill-header", by decide, .first, fun _ _ _ => rfl⟩
  · exact ⟨"distill-appendix", by decide, .last, fun _ _ _ => rfl⟩
  · exact ⟨"distill-footer", by decide, .last, fun _ _ _ => rfl⟩

/-- What publication makes of a document that has all the elements: nothing. -/
theorem distillify_of_all (config : Config) (verbose : Bool) (ledger : Ledger)
    (document : Document) (h : ∀ tag ∈ chromeNames, document.has tag = true) :
    ((Pipeline.standard config).distillify verbose ledger document).failure = none ∧
      ((Pipeline.standard config).distillify verbose ledger document).state = document := by
  have hstage : ∀ stage ∈ (Pipeline.standard config).distillers,
      (runStage .distill verbose ledger stage document).failure = none ∧
        (runStage .distill verbose ledger stage document).state = document := by
    intro stage hstage
    rcases mem_distillers config stage hstage with ⟨tag, htag, place, hrun⟩
    rcases inject_of_has document tag htag place verbose (h tag htag) with ⟨hdone, hstate⟩
    rw [runStage, hrun, hdone]
    exact ⟨rfl, hstate⟩
  rcases Run.forEach_still _ _ document fun stage hmem => (hstage stage hmem).2 with
    ⟨hstate, hfailure⟩
  exact ⟨hfailure.trans (List.findSome?_eq_none_iff.mpr fun stage hmem => (hstage stage hmem).1),
    hstate⟩

/-- The failure at a stage of publication in a document without a body. -/
def Document.lacks? (document : Document) (stage : String × String) : Option PipelineError :=
  if document.has stage.2 then none else some (.stage .distill stage.1 (.document .missingBody))

/-- What publication makes of a document without a body: nothing. It fails at the first stage
    whose element is lacking. -/
theorem distillify_of_no_body (config : Config) (verbose : Bool) (ledger : Ledger)
    (document : Document) (hbody : document.body? = none) :
    let run := (Pipeline.standard config).distillify verbose ledger document
    run.state = document ∧ run.failure = chromeStages.findSome? document.lacks? := by
  have hfail (name tag : String) (htag : tag ∈ chromeNames) (place : End) :
      (inject tag place verbose document).failure.map (.stage .distill name) =
        document.lacks? (name, tag) := by
    rw [(inject_of_no_body document tag htag place verbose hbody).2, lacks?]
    cases document.has tag <;> rfl
  -- Without a body no stage changes anything, so each of them sees the same document.
  have hstill : ∀ stage ∈ (Pipeline.standard config).distillers,
      (runStage .distill verbose ledger stage document).state = document := by
    intro stage hstage
    rcases mem_distillers config stage hstage with ⟨tag, htag, place, hrun⟩
    rw [runStage, hrun]
    exact (inject_of_no_body document tag htag place verbose hbody).1
  rcases Run.forEach_still _ _ document hstill with ⟨hstate, hfailure⟩
  refine ⟨hstate, hfailure.trans ?_⟩
  simp only [chromeStages, List.findSome?_cons, List.findSome?_nil,
    ← hfail "DistillHeader" "distill-header" (by decide) .first,
    ← hfail "DistillAppendix" "distill-appendix" (by decide) .last,
    ← hfail "DistillFooter" "distill-footer" (by decide) .last]
  rfl

/-- What publication makes of a document with a body. Every stage adds what the document
    lacked at first, and takes the next number for it. -/
theorem distillify_of_body (config : Config) (verbose : Bool) (ledger : Ledger)
    (document : Document) (h : document.Numbered) (body : Element Nat)
    (hbody : document.body? = some body) :
    let run := (Pipeline.standard config).distillify verbose ledger document
    let header := document.lacking "distill-header" document.next
    let appendix := document.lacking "distill-appendix" (document.next + header.length)
    let footer := document.lacking "distill-footer"
      (document.next + header.length + appendix.length)
    run.failure = none ∧ document.GrownTo body header (appendix ++ footer) run.state := by
  intro run header appendix footer
  have hother (name tag : String) (id : Nat) (hne : tag ≠ name) :
      numbersOf name (document.lacking tag id) = [] := by
    rw [numbersOf_lacking, if_neg fun hsame => hne hsame.1]
  have hstart : document.GrownTo body [] [] document :=
    ⟨(document.around_nil body.label).symm, h, by rw [hbody, List.append_nil]; rfl⟩
  -- The stages follow each other, and none of them fails.
  have hfirst := hstart.inject "distill-header" (by decide) rfl rfl .first verbose
  set first := inject "distill-header" .first verbose document
  have hheader : document.GrownTo body header [] first.state := by
    have hgrown := hfirst.2
    rw [End.before, End.behind, List.append_nil, List.append_nil] at hgrown
    exact hgrown
  have hsecond := hheader.inject "distill-appendix" (by decide) (hother _ _ _ (by decide)) rfl
    .last verbose
  set second := inject "distill-appendix" .last verbose first.state
  have happendix : document.GrownTo body header appendix second.state := hsecond.2
  have hthird := happendix.inject "distill-footer" (by decide) (hother _ _ _ (by decide))
    (hother _ _ _ (by decide)) .last verbose
  have hdone {name : String} {stage : Run Document StageError} (h : stage.failure = none) :
      stage.failure.map (PipelineError.stage .distill name) = none := by
    rw [h]
    rfl
  let step : Transform → Document → Run Document PipelineError :=
    runStage .distill verbose ledger
  have hheaderRun := Run.andThen_outcome (step addHeader document)
    (Run.forEach step [addAppendix, addFooter]) (hdone hfirst.1)
  have happendixRun := Run.andThen_outcome (step addAppendix first.state)
    (Run.forEach step [addFooter]) (hdone hsecond.1)
  have hfooterRun := Run.andThen_outcome (step addFooter second.state)
    (Run.forEach step []) (hdone hthird.1)
  refine ⟨hheaderRun.2.trans (happendixRun.2.trans hfooterRun.2), ?_⟩
  rw [show run.state = _ from hheaderRun.1.trans (happendixRun.1.trans hfooterRun.1)]
  exact hthird.2

/-- With what it lacked around the children of its body a document has each of the elements:
    those that it had, and otherwise one. -/
theorem Document.GrownTo.has {document : Document} (h : document.Numbered) {body : Element Nat}
    (hbody : document.body? = some body) {later : Document} {header appendix footer : Nat}
    (hgrown : document.GrownTo body (document.lacking "distill-header" header)
      (document.lacking "distill-appendix" appendix ++ document.lacking "distill-footer" footer)
      later) (tag : String) (htag : tag ∈ chromeNames) :
    later.has tag = true ∧
      (document.has tag = true → numbersOf tag later.nodes = numbersOf tag document.nodes) ∧
      (document.has tag = false → ∃ id, numbersOf tag later.nodes = [id]) := by
  by_cases hthere : document.has tag = true
  · have hnone (name : String) (id : Nat) : numbersOf tag (document.lacking name id) = [] := by
      rw [numbersOf_lacking, if_neg]
      rintro ⟨rfl, hlacks⟩
      exact absurd hthere (by simp [hlacks])
    have hsame : numbersOf tag later.nodes = numbersOf tag document.nodes := by
      rw [hgrown.eq]
      refine numbersOf_around_of_nil document _ _ _ tag (hnone _ _) ?_
      rw [numbersOf_append, hnone, hnone, List.append_nil]
    refine ⟨?_, fun _ => hsame, fun hlacks => absurd hthere (by simp [hlacks])⟩
    rw [Document.has, hsame]
    exact hthere
  · rw [Bool.not_eq_true] at hthere
    -- The document had none, so what is there now has been added.
    have hone : ∃ id, numbersOf tag later.nodes = [id] := by
      have hperm := numbersOf_around document h body (document.mem_of_body? body hbody).1
        (document.lacking "distill-header" header)
        (document.lacking "distill-appendix" appendix ++ document.lacking "distill-footer" footer) tag
      rw [← hgrown.eq, (document.has_eq_false_iff tag).mp hthere, List.nil_append,
        numbersOf_append, numbersOf_lacking, numbersOf_lacking, numbersOf_lacking] at hperm
      -- The element is one of the three, and the other two have other names.
      simp only [chromeNames, chromeStages, List.map_cons, List.map_nil, List.mem_cons,
        List.not_mem_nil, or_false] at htag
      rcases htag with rfl | rfl | rfl
      · exact ⟨header, List.perm_singleton.mp (by simpa [hthere] using hperm)⟩
      · exact ⟨appendix, List.perm_singleton.mp (by simpa [hthere] using hperm)⟩
      · exact ⟨footer, List.perm_singleton.mp (by simpa [hthere] using hperm)⟩
    rcases hone with ⟨id, hid⟩
    refine ⟨?_, fun hhas => absurd hthere (by simp [hhas]), fun _ => ⟨id, hid⟩⟩
    rw [Document.has, hid]
    rfl

/-- A document without a body is published without failure if it has all the elements, and
    otherwise the body is missed. -/
theorem findSome?_lacks (document : Document) :
    (chromeStages.findSome? document.lacks? = none ↔
      ∀ tag ∈ chromeNames, document.has tag = true) ∧
    ∀ error, chromeStages.findSome? document.lacks? = some error →
      ∃ name, error = .stage .distill name (.document .missingBody) := by
  constructor
  · rw [List.findSome?_eq_none_iff, chromeNames, List.forall_mem_map]
    refine forall₂_congr fun stage _ => ?_
    rw [lacks?]
    cases document.has stage.2 <;> simp
  · intro error herror
    rcases List.exists_of_findSome?_eq_some herror with ⟨stage, -, hstage⟩
    rw [lacks?] at hstage
    split at hstage
    · exact absurd hstage (by simp)
    · exact ⟨stage.1, (Option.some.inj hstage).symm⟩

/-- What publication does. -/
theorem distillify_effect (config : Config) (verbose : Bool) (ledger : Ledger)
    (document : Document) (h : document.Numbered) :
    let run := (Pipeline.standard config).distillify verbose ledger document
    let header := document.lacking "distill-header" document.next
    let appendix := document.lacking "distill-appendix" (document.next + header.length)
    let footer := document.lacking "distill-footer"
      (document.next + header.length + appendix.length)
    -- It is done if there is a body, or if there is nothing to add.
    (run.failure = none ↔
      document.body?.isSome = true ∨ ∀ tag ∈ chromeNames, document.has tag = true) ∧
    -- To the children of a body it adds what is lacking.
    (∀ body, document.body? = some body →
      run.state = document.around body.label header (appendix ++ footer) ∧
        run.state.body? = some (body.withChildren (header ++ body.children ++ (appendix ++ footer)))) ∧
    -- Without a body it changes nothing, and fails for want of one.
    (document.body? = none → run.state = document) ∧
    (∀ error, run.failure = some error → document.body? = none ∧
      ∃ name, error = .stage .distill name (.document .missingBody)) ∧
    -- Then all elements are there, those that were and one of each that was not.
    (run.failure = none → ∀ tag ∈ chromeNames, run.state.has tag = true ∧
      (document.has tag = true → numbersOf tag run.state.nodes = numbersOf tag document.nodes) ∧
      (document.has tag = false → ∃ id, numbersOf tag run.state.nodes = [id])) ∧
    -- To do it again comes to the same and changes nothing.
    ∀ verbose' ledger', let again := (Pipeline.standard config).distillify verbose' ledger' run.state
      again.failure = run.failure ∧ again.state = run.state := by
  intro run header appendix footer
  rcases hbody : document.body? with _ | body
  · rcases distillify_of_no_body config verbose ledger document hbody with ⟨hstate, hfailure⟩
    rcases findSome?_lacks document with ⟨hnone, hsome⟩
    rw [← hfailure] at hnone hsome
    refine ⟨by simpa using hnone, fun body hfound => absurd hfound (by simp), fun _ => hstate,
      fun error herror => ⟨rfl, hsome error herror⟩, fun hdone tag htag => ?_, ?_⟩
    · rw [show run.state = document from hstate]
      have hhas := hnone.mp hdone tag htag
      exact ⟨hhas, fun _ => rfl, fun hlacks => absurd hhas (by simp [hlacks])⟩
    · intro verbose' ledger'
      rw [show run.state = document from hstate]
      rcases distillify_of_no_body config verbose' ledger' document hbody with ⟨hstate', hfailure'⟩
      exact ⟨hfailure'.trans hfailure.symm, hstate'⟩
  · rcases distillify_of_body config verbose ledger document h body hbody with ⟨hdone, hgrown⟩
    have hall := fun tag htag => hgrown.has h hbody tag htag
    refine ⟨⟨fun _ => Or.inl rfl, fun _ => hdone⟩, fun found hfound => ?_,
      fun hnone => absurd hnone (by simp), fun error herror => ?_, fun _ => hall, ?_⟩
    · obtain rfl := Option.some.inj hfound
      exact ⟨hgrown.eq, hgrown.body⟩
    · rw [show run.failure = none from hdone] at herror
      exact absurd herror (by simp)
    · intro verbose' ledger'
      rcases distillify_of_all config verbose' ledger' run.state fun tag htag => (hall tag htag).1
        with ⟨hdone', hstate'⟩
      exact ⟨hdone'.trans hdone.symm, hstate'⟩

/-- A page that has a footer, and lacks the other two elements. -/
theorem distillify_effect_page :
    let page := Document.parse "<distill-footer>F</distill-footer><p>a</p>"
    let run := (Pipeline.standard {}).distillify false {} page
    page.Numbered ∧ run.failure = none ∧
      run.state.html = "<html><head></head><body><distill-header></distill-header>" ++
        "<distill-footer>F</distill-footer><p>a</p><distill-appendix></distill-appendix>" ++
        "</body></html>" ∧
      ((Pipeline.standard {}).distillify true {} run.state).state = run.state := by
  intro page run
  rcases distillify_effect {} false {} page (Document.parse_numbered _) with
    ⟨hdone, -, -, -, -, hagain⟩
  exact ⟨Document.parse_numbered _, hdone.mpr (Or.inl (by decide +kernel)), by decide +kernel,
    (hagain true {}).2⟩

end CiteRender
