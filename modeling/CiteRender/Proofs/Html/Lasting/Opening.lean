import CiteRender.Proofs.Html.Lasting.Rules
import CiteRender.Proofs.Html.Printed

/-!
# How a Marked Body Comes to Be Open

The start tag of a body opens it with the attributes of the tag if it stands
between head and body, where only the `html` element is open and there is no
body yet. From there on the body stays open to the end of the text. So a text
whose reading comes to a start tag with the mark in such a state gives a
document with a marked body.

## Main definitions

* `Html.Builder.step`, `Html.Builder.steps`: Reading a text step by step.
* `Html.Builder.LeadsTo`: What reading leads to.
* `Html.Scaffold.IsRooted`: A tree that has its `html` element and no body.
* `Html.Builder.IsCalm`: A state in which nothing waits.
* `Html.Builder.IsBetween`: A state between head and body.

## Theorems

* `Builder.run_steps`: Reading goes on from where some steps have come.
* `Builder.IsBetween.openBody`: The start tag opens the body.
* `hasMark_of_leadsTo`: The document of such a text has a marked body.
-/

namespace CiteRender

namespace Html

namespace Builder

/-! Steps. -/

/-- The effect of one step of reading, with the text that is left; nothing if
    the reading ends with it. -/
def step (b : Builder) (s : List Char) : Option (Builder × List Char) :=
  match b.textMode with
  | .markup =>
    (readTokens b.foreignHere s).map fun r =>
      let after := r.1.foldl process b
      ({ after with readsAnew := false }, after.restFor r.2)
  | .withReferences name =>
    let r := readRaw name s
    some (b.processText (referencedRuns (replaceNul r.1)), r.2)
  | .raw name =>
    let r := readRaw name s
    some (b.processText (runs (replaceNul r.1)), r.2)
  | .script =>
    let r := readScript .outside s
    some (b.processText (runs (replaceNul r.1)), r.2)
  | .plain => none

/-- The effect of some steps of reading. -/
def steps : (count : Nat) → Builder × List Char → Option (Builder × List Char)
  | 0, r => some r
  | count + 1, r => (r.1.step r.2).bind (steps count)

theorem steps_add (count more : Nat) :
    ∀ r, steps (count + more) r = (steps count r).bind (steps more) := by
  induction count with
  | zero =>
      intro r
      rw [Nat.zero_add]
      rfl
  | succ count ih =>
      intro r
      rw [Nat.add_right_comm, steps, steps, Option.bind_assoc]
      exact congrArg _ (funext ih)

theorem run_step (fuel : Nat) (b b' : Builder) (s s' : List Char)
    (h : b.step s = some (b', s')) : run (fuel + 1) b s = run fuel b' s' := by
  rw [step] at h
  rw [run]
  cases hmode : b.textMode with
  | markup =>
      rw [hmode] at h
      dsimp only at h ⊢
      rcases hread : readTokens b.foreignHere s with _ | ⟨tokens, rest⟩
      · rw [hread] at h
        simp at h
      · rw [hread] at h
        obtain ⟨rfl, rfl⟩ := Prod.mk.inj (Option.some.inj h)
        rfl
  | withReferences name =>
      rw [hmode] at h
      obtain ⟨rfl, rfl⟩ := Prod.mk.inj (Option.some.inj h)
      rfl
  | raw name =>
      rw [hmode] at h
      obtain ⟨rfl, rfl⟩ := Prod.mk.inj (Option.some.inj h)
      rfl
  | script =>
      rw [hmode] at h
      obtain ⟨rfl, rfl⟩ := Prod.mk.inj (Option.some.inj h)
      rfl
  | plain =>
      rw [hmode] at h
      simp at h

/-- Reading goes on from where some steps have come. -/
theorem run_steps (count fuel : Nat) (b' : Builder) (s' : List Char) :
    ∀ (b : Builder) (s : List Char), steps count (b, s) = some (b', s') →
      run (count + fuel) b s = run fuel b' s' := by
  induction count with
  | zero =>
      intro b s h
      obtain ⟨rfl, rfl⟩ := Prod.mk.inj (Option.some.inj h)
      rw [Nat.zero_add]
  | succ count ih =>
      intro b s h
      rw [steps, Option.bind_eq_some_iff] at h
      rcases h with ⟨⟨next, rest⟩, hstep, hsteps⟩
      rw [Nat.add_right_comm, run_step _ b next s rest hstep]
      exact ih next rest hsteps

/-- Reading leads from one state and the text that is left to another, by at most
    two steps for each character that is read. The start tag of an element with
    raw text has three characters at least, so there is room for a raw text that
    is empty. -/
def LeadsTo (r r' : Builder × List Char) : Prop :=
  ∃ count, steps count r = some r' ∧ count + 2 * r'.2.length ≤ 2 * r.2.length

theorem LeadsTo.refl (r : Builder × List Char) : LeadsTo r r :=
  ⟨0, rfl, by omega⟩

theorem LeadsTo.trans {r r' r'' : Builder × List Char} (h : LeadsTo r r') (h' : LeadsTo r' r'') :
    LeadsTo r r'' := by
  rcases h with ⟨count, hsteps, hcount⟩
  rcases h' with ⟨more, hmore, hcount'⟩
  exact ⟨count + more, by rw [steps_add, hsteps, Option.bind_some, hmore], by omega⟩

theorem LeadsTo.of_step {r r' : Builder × List Char} (h : r.1.step r.2 = some r')
    (hlength : r'.2.length < r.2.length) : LeadsTo r r' :=
  ⟨1, by rw [steps, h]; rfl, by omega⟩

/-- Two steps, of which the second may read nothing. -/
theorem LeadsTo.of_steps {r r' r'' : Builder × List Char} (h : r.1.step r.2 = some r')
    (h' : r'.1.step r'.2 = some r'') (hlength : r''.2.length < r.2.length) : LeadsTo r r'' :=
  ⟨2, by rw [steps, h, Option.bind_some, steps, h']; rfl, by omega⟩

end Builder

/-! Between head and body. -/

/-- The `html` element is where it belongs, and there is no body. -/
structure Scaffold.IsRooted (html : Nat) (nodes : Scaffold) : Prop where
  document : nodes.element? 0 = none
  outer : html ∈ nodes.children 0
  root : ∃ cell, nodes.element? html = some cell ∧ cell.tag = .html "html" ∧ cell.contents = none
  onlyOuter : ∀ i, html ∈ nodes.children i → i = 0
  bodiless : ∀ i cell, nodes.element? i = some cell → cell.tag.name ≠ "body"
  below : ∀ i, ∀ x ∈ nodes.children i, x < nodes.size

/-- A tree with a new body in its `html` element. -/
theorem Scaffold.IsRooted.holds {html : Nat} {nodes : Scaffold} (h : nodes.IsRooted html)
    (attributes : List Attribute) (mark : String) (hmark : HasMark mark attributes) :
    Scaffold.Holds html nodes.size mark
      ((nodes.add (.element (.html "body") attributes none)).1.append html nodes.size) := by
  rcases h.root with ⟨root, hroot, hroottag, -⟩
  have hlt := Scaffold.lt_of_element? nodes html root hroot
  have hne : html ≠ nodes.size := Nat.ne_of_lt hlt
  have helement (i : Nat) : Scaffold.element?
      ((nodes.add (.element (.html "body") attributes none)).1.append html nodes.size) i =
        if i = nodes.size then some ⟨.html "body", attributes, none⟩ else nodes.element? i := by
    rw [Scaffold.element?_append, Scaffold.element?_add]
    rfl
  -- The new element has a number that nothing pointed to.
  have hfresh (k : Nat) : nodes.size ∉
      (nodes.add (.element (.html "body") attributes none)).1.children k := by
    rw [Scaffold.children_add]
    exact fun hmem => Nat.lt_irrefl _ (h.below k _ hmem)
  have hchildren (i : Nat) : html ∈ Scaffold.children
      ((nodes.add (.element (.html "body") attributes none)).1.append html nodes.size) i ↔
        html ∈ nodes.children i := by
    rw [Scaffold.mem_children_append _ _ _ _ _ hne, Scaffold.children_add]
  refine ⟨?_, (hchildren 0).mpr h.outer, ?_, ⟨root, ?_, hroottag⟩,
    ⟨⟨.html "body", attributes, none⟩, ?_, rfl, hmark⟩,
    fun i hi => h.onlyOuter i ((hchildren i).mp hi), fun i hi => ?_, fun i cell hcell hname => ?_⟩
  · rw [helement, if_neg (Nat.ne_of_lt (Nat.zero_lt_of_lt hlt))]
    exact h.document
  · refine Scaffold.mem_children_append_self _ _ _ ?_
    rw [Scaffold.size_add]
    exact Nat.lt_succ_of_lt hlt
  · rw [helement, if_neg hne, hroot]
  · rw [helement, if_pos rfl]
  · exact Scaffold.eq_of_mem_children_append _ _ _ _ hfresh hi
  · rw [helement] at hcell
    split at hcell
    · assumption
    · exact absurd hname (h.bodiless i cell hcell)

namespace Builder

/-- A state in which tags are read and nothing waits for a later place. -/
structure IsCalm (b : Builder) : Prop where
  textMode : b.textMode = .markup
  formatting : b.formatting = []
  form : b.form = none
  templates : b.templateModes = []
  waiting : b.waitingText = []
  fostering : b.fostering = false
  newline : b.dropNewline = false

/-- A state between head and body, in which only the `html` element is open. -/
structure IsBetween (html : Nat) (b : Builder) : Prop extends b.IsCalm where
  nodes : b.nodes.IsRooted html
  mode : b.mode = .afterHead
  opened : b.opened = [html]

variable {html : Nat} {mark : String} {b : Builder}

theorem IsBetween.currentTag (h : b.IsBetween html) : b.currentTag = .html "html" := by
  rcases h.nodes.root with ⟨root, hroot, hroottag, -⟩
  rw [Builder.currentTag, current, h.opened, tag, List.head?_cons, Option.getD_some,
    Scaffold.tag_eq, hroot]
  exact hroottag

theorem IsBetween.place (h : b.IsBetween html) : b.place = .last html := by
  rcases h.nodes.root with ⟨root, hroot, -, hcontents⟩
  rw [Builder.place, placeIn, h.fostering, Bool.false_and, if_neg (by simp), current, h.opened,
    List.head?_cons, Option.getD_some, Scaffold.contentsOrSelf_eq, hroot]
  simp [hcontents]

/-- The start tag of a body opens it with the attributes of the tag. -/
theorem IsBetween.insertBody (h : b.IsBetween html) (tag : StartTag) (htag : tag.name = "body")
    (hmark : HasMark mark (plainAttributes tag)) :
    Lasts html b.nodes.size mark { (b.insert tag).forbidFrameset with mode := .inBody } := by
  have hholds := h.nodes.holds (plainAttributes tag) mark hmark
  -- The only open element is that of the document, so the body goes right inside it.
  have hinsert : b.insert tag = { b with
      nodes := (b.nodes.add (.element (.html "body") (plainAttributes tag) none)).1.append html
        b.nodes.size
      opened := [b.nodes.size, html] } := by
    rw [Builder.insert, openElement, addElement, h.place, createElement, htag,
      if_neg (by decide), create, ← h.opened]
    rfl
  rw [hinsert]
  have hhtml := hholds.tag_html
  have hbody := hholds.tag_body
  generalize (b.nodes.add (.element (.html "body") (plainAttributes tag) none)).1.append html
    b.nodes.size = nodes at hholds hhtml hbody ⊢
  -- Nothing else is open, and no list or flag of the state holds anything yet.
  refine ⟨⟨hholds, ⟨[], rfl, by simp⟩, ?_, ?_, ?_, ?_, rfl, ?_, ?_⟩, .settled trivial⟩
  · show ∀ x ∈ [b.nodes.size, html], (nodes.element? x).isSome = true
    rw [List.forall_mem_cons, List.forall_mem_singleton]
    rcases hholds.marked with ⟨marked, hmarked, -⟩
    rcases hholds.root with ⟨root, hroot, -⟩
    exact ⟨Option.isSome_iff_exists.mpr ⟨marked, hmarked⟩,
      Option.isSome_iff_exists.mpr ⟨root, hroot⟩⟩
  · show Nested [nodes.tag b.nodes.size, nodes.tag html]
    rw [hhtml, hbody]
    exact ⟨standsIn_of_holders _ _ (by decide), standsIn_of_holders _ _ (by decide), trivial⟩
  · show ∀ id start, .element id start ∈ b.formatting → _
    rw [h.formatting]
    exact fun _ _ hentry => absurd hentry List.not_mem_nil
  · show ∀ id ∈ b.form, _
    rw [h.form]
    exact fun _ hid => absurd hid (by simp)
  · show ∀ m ∈ b.templateModes, _
    rw [h.templates]
    exact fun _ hm => absurd hm List.not_mem_nil
  · show ∀ t ∈ b.waitingText, _
    rw [h.waiting]
    exact fun _ ht => absurd ht List.not_mem_nil

/-- What a token does is what the rules of the mode make of it. -/
theorem IsCalm.process (h : b.IsCalm) (token : Token) (hidle : b.isIdle token = false) :
    b.process token = apply token (8 * b.opened.length + 32) b := by
  have hsame : { b with dropNewline := false } = b := by rw [← h.newline]
  rw [Builder.process, hidle, if_neg (by simp), h.newline, if_neg (by simp)]
  dsimp only
  rw [hsame]

theorem apply_done (token : Token) (fuel : Nat) (b' : Builder) (hforeign : b.isForeign token = false)
    (hrules : b.rules token = .done b') : apply token (fuel + 1) b = b' := by
  rw [apply, hforeign, if_neg (by simp), hrules]

theorem IsBetween.rules (h : b.IsBetween html) (tag : StartTag) (htag : tag.name = "body") :
    b.rules (.start tag) = .done { (b.insert tag).forbidFrameset with mode := .inBody } := by
  rw [Builder.rules, h.mode]
  dsimp only
  rw [afterHead]
  dsimp only
  rw [htag, if_neg (by decide), if_pos rfl]

/-- The start tag of a body opens it, as one token of the text. -/
theorem IsBetween.openBody (h : b.IsBetween html) (tag : StartTag) (htag : tag.name = "body")
    (hmark : HasMark mark (plainAttributes tag)) :
    (b.process (.start tag)).Lasts html b.nodes.size mark := by
  have hforeign : b.isForeign (.start tag) = false := by
    simp [isForeign, h.currentTag, Tag.html]
  rw [h.process _ rfl, apply_done (.start tag) _ _ hforeign (h.rules tag htag)]
  exact h.insertBody tag htag hmark

end Builder

/-- The printed start tag of a body with a mark opens it. -/
theorem Builder.IsBetween.step {html : Nat} {b : Builder} (h : b.IsBetween html)
    (attributes : List Attribute) (rest : List Char) (mark : String)
    (hreadable : ∀ a ∈ attributes, IsReadable a) (hmark : HasMark mark attributes) :
    ∃ b' rest', b.step (unifyLines (printStart (.html "body") attributes ++ rest)) =
      some (b', rest') ∧ b'.Lasts html b.nodes.size mark := by
  rcases readTokens_printStart b.foreignHere (.html "body") attributes rest (by decide) hreadable
    with ⟨start, hname, -, hattributes, hread⟩
  -- The tag that is read has the mark, if with another value.
  have hstart : HasMark mark (plainAttributes start) := by
    rcases hmark with ⟨a, ha, -, haname⟩
    rcases hattributes a ha with ⟨c, hc, hcname⟩
    exact ⟨⟨.plain, c.1, c.2⟩, List.mem_map.mpr ⟨c, hc, rfl⟩, rfl, hcname.trans haname⟩
  have hopen := h.openBody start hname hstart
  have hstep : b.step (unifyLines (printStart (.html "body") attributes ++ rest)) =
      some ({ b.process (.start start) with readsAnew := false },
        (b.process (.start start)).restFor (unifyLines rest)) := by
    rw [Builder.step, h.textMode]
    dsimp only
    rw [hread]
    rfl
  exact ⟨_, _, hstep, hopen.stays, hopen.fits.congr rfl rfl rfl rfl⟩

/-- A text whose reading leads to the start tag of a body with a mark, between
    head and body, gives a document whose body has the mark. -/
theorem hasMark_of_leadsTo (s : List Char) (html : Nat) (b : Builder) (attributes : List Attribute)
    (rest : List Char) (mark : String) (hbetween : b.IsBetween html)
    (hreadable : ∀ a ∈ attributes, IsReadable a) (hmark : HasMark mark attributes)
    (hleads : Builder.LeadsTo ({}, unifyLines (dropMark s))
      (b, unifyLines (printStart (.html "body") attributes ++ rest))) :
    (∃ e ∈ Node.elementsIn (parse s), e.tag.name = "body") ∧
      ∀ e ∈ Node.elementsIn (parse s), e.tag.name = "body" → HasMark mark e.attributes := by
  rcases hleads with ⟨count, hsteps, hcount⟩
  dsimp only at hcount
  rcases hbetween.step attributes rest mark hreadable hmark with ⟨opened, rest', hstep, hlasts⟩
  have hfuel : 2 * (unifyLines (dropMark s)).length + 2 =
      count + ((2 * (unifyLines (dropMark s)).length + 1 - count) + 1) := by omega
  have hrun := (hlasts.run (2 * (unifyLines (dropMark s)).length + 1 - count) rest').process .stop
  rw [parse, hfuel, Builder.run_steps count _ _ _ _ _ hsteps, Builder.run_step _ _ _ _ _ hstep]
  exact hrun.stays.nodes.mem_trees

end Html

end CiteRender
