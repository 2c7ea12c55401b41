import CiteRender.Proofs.Html.Lasting.Formatting

/-!
# A Marked Body and the Modes

Once the body is open with its mark, no tag in the text closes it, replaces it
or moves it. What could break this is a rule for tables that closes elements up
to a table while none is open, so the mode has to fit the innermost part of a
table or template that is open. Here this is shown of the mode that is chosen
when a template ends, and of what belongs in the head but may stand anywhere.

## Main definitions

* `Html.FitsIn`: The parts that may be the innermost one in a mode.
* `Html.Builder.Lasts`: A state in which the body stays open.

## Theorems

* `Builder.Stays.resetMode`: The mode that is chosen for the open elements fits.
* `Builder.Stays.closeUntil_part`, `Builder.Stays.insert_part`: Closing and
  opening parts of tables.
* `Builder.Lasts.closeTemplate`, `Builder.Stays.inHead_start`: What the rules for
  templates and for the head keep.
-/

namespace CiteRender

namespace Html

/-- The parts that may be the innermost one in a mode. -/
def FitsIn (mode : Mode) (part : Option Tag) : Prop :=
  match mode with
  | .inBody | .inCaption | .inColumnGroup | .afterBody | .afterAfterBody => True
  | .inTable => ∃ t ∈ part, t.isOneOf ["table", "template"] = true
  | .inTableBody => ∃ t ∈ part, t.isOneOf ["tbody", "tfoot", "thead", "template"] = true
  | .inRow => ∃ t ∈ part, t.isOneOf ["tr", "template"] = true
  | .inCell => ∃ t ∈ part, t.isOneOf ["td", "th"] = true
  | .inTemplate => ∃ t ∈ part, t.isOneOf ["template"] = true
  | _ => False

theorem fitsIn_template (mode : Mode) (hmode : mode ∈ heldModes) (tag : Tag)
    (htag : tag.isOneOf ["template"] = true) : FitsIn mode (some tag) := by
  have hmore (names : List String) (hname : "template" ∈ names) :
      ∃ t ∈ some tag, t.isOneOf names = true :=
    ⟨tag, rfl, isOneOf_mono tag (fun n hn => List.mem_singleton.mp hn ▸ hname) htag⟩
  simp only [heldModes, List.mem_cons, List.not_mem_nil, or_false] at hmode
  rcases hmode with rfl | rfl | rfl | rfl | rfl | rfl
  · exact hmore _ (by simp)
  · exact hmore _ (by simp)
  · trivial
  · exact hmore _ (by simp)
  · exact hmore _ (by simp)
  · trivial

namespace Builder

/-- Whether the mode fits what is open. While a text is read, or the text of a
    table waits, it is the mode to go back to that has to. -/
inductive Fits (b : Builder) : Prop where
  | settled (h : FitsIn b.mode b.innermost)
  | inText (hmode : b.mode = .inText) (h : FitsIn b.returnMode b.innermost)
      (hspace : b.currentTag.space = .html) (hloose : isLoose b.currentTag = true)
  | inTableText (hmode : b.mode = .inTableText) (h : FitsIn b.returnMode b.innermost)

/-- A state in which the marked body is open, and remains so. -/
structure Lasts (html body : Nat) (mark : String) (b : Builder) : Prop where
  stays : b.Stays html body mark
  fits : b.Fits

end Builder

/-- An outcome in which the marked body is open, and remains so. -/
def Outcome.Lasts (html body : Nat) (mark : String) : Outcome → Prop
  | .done b => b.Lasts html body mark
  | .again b => b.Lasts html body mark

theorem Outcome.Lasts.ite {html body : Nat} {mark : String} {p : Prop} [Decidable p]
    {x y : Outcome} (hx : p → x.Lasts html body mark) (hy : ¬ p → y.Lasts html body mark) :
    (if p then x else y).Lasts html body mark := by
  split
  · next hp => exact hx hp
  · next hp => exact hy hp

namespace Builder

variable {html body : Nat} {mark : String} {b b' : Builder} {tag : StartTag}

theorem Lasts.ite {p : Prop} [Decidable p] {x y : Builder} (hx : p → x.Lasts html body mark)
    (hy : ¬ p → y.Lasts html body mark) : (if p then x else y).Lasts html body mark := by
  split
  · next hp => exact hx hp
  · next hp => exact hy hp

theorem Keeps.fits (h : Keeps html body mark b b') (hfits : FitsIn b.mode b.innermost) :
    FitsIn b'.mode b'.innermost := by
  rwa [h.mode, h.innermost]

theorem Keeps.lasts (h : Keeps html body mark b b') (hfits : FitsIn b.mode b.innermost) :
    b'.Lasts html body mark :=
  ⟨h.stays, .settled (h.fits hfits)⟩

/-- A state in any mode that does not depend on the open parts. -/
theorem Stays.lasts (h : b.Stays html body mark) (hfree : ∀ part, FitsIn b.mode part) :
    b.Lasts html body mark :=
  ⟨h, .settled (hfree _)⟩

/-- Only the modes and the tags of open elements matter for whether they fit. -/
theorem Fits.congr (h : b.Fits) (hmode : b'.mode = b.mode) (hreturn : b'.returnMode = b.returnMode)
    (hinnermost : b'.innermost = b.innermost) (hcurrent : b'.currentTag = b.currentTag) :
    b'.Fits := by
  rcases h with h | ⟨htext, h, hspace, hloose⟩ | ⟨htable, h⟩
  · exact .settled (by rwa [hmode, hinnermost])
  · exact .inText (hmode.trans htext) (by rwa [hreturn, hinnermost]) (by rwa [hcurrent])
      (by rwa [hcurrent])
  · exact .inTableText (hmode.trans htable) (by rwa [hreturn, hinnermost])

/-! Fields that the body does not depend on. -/

theorem Lasts.withNewline (h : b.Lasts html body mark) (dropNewline : Bool) :
    { b with dropNewline }.Lasts html body mark :=
  ⟨h.stays, h.fits.congr rfl rfl rfl rfl⟩

theorem Keeps.forbidFrameset (h : Keeps html body mark b b') :
    Keeps html body mark b b'.forbidFrameset :=
  ⟨⟨h.stays.nodes, h.stays.opened, h.stays.present, h.stays.nested, h.stays.formatting,
    h.stays.form, rfl, h.stays.templates, h.stays.waiting⟩, h.extended, h.innermost, h.mode,
    h.returnMode⟩

theorem Keeps.withTextMode (h : Keeps html body mark b b') (textMode : TextMode) :
    Keeps html body mark b { b' with textMode } :=
  ⟨h.stays, h.extended, h.innermost, h.mode, h.returnMode⟩

theorem Keeps.withNewline (h : Keeps html body mark b b') (dropNewline : Bool) :
    Keeps html body mark b { b' with dropNewline } :=
  ⟨h.stays, h.extended, h.innermost, h.mode, h.returnMode⟩

theorem Keeps.withReads (h : Keeps html body mark b b') (readsAnew : Bool) :
    Keeps html body mark b { b' with readsAnew } :=
  ⟨h.stays, h.extended, h.innermost, h.mode, h.returnMode⟩

theorem Keeps.withForm (h : Keeps html body mark b b') (openForm : Option Nat)
    (hform : ∀ id ∈ openForm, (b'.nodes.element? id).isSome ∧ b'.tag id = .html "form") :
    Keeps html body mark b { b' with form := openForm } :=
  ⟨⟨h.stays.nodes, h.stays.opened, h.stays.present, h.stays.nested, h.stays.formatting, hform,
    h.stays.frameset, h.stays.templates, h.stays.waiting⟩, h.extended, h.innermost, h.mode,
    h.returnMode⟩

/-- A new text is read in a mode of its own. -/
theorem Stays.insertWithText (h : b.Stays html body mark) (hfits : FitsIn b.mode b.innermost)
    (htag : tag.name ∉ fixedNames) (textMode : TextMode) :
    (b.insertWithText tag textMode).Lasts html body mark := by
  have hopen := h.openElement (.html tag.name) (plainAttributes tag) (openable_html _ htag)
  have hcurrent : (b.insert tag).currentTag = .html tag.name := hopen.2.tag_eq
  have hkeeps : Keeps html body mark b (b.insert tag) := hopen.1
  rw [Builder.insertWithText]
  generalize b.insert tag = b' at hkeeps hcurrent
  refine ⟨hkeeps.stays, .inText rfl (by rw [← hkeeps.innermost] at hfits; exact hfits) ?_ ?_⟩
  · exact congrArg Tag.space hcurrent
  · exact (congrArg isLoose hcurrent).trans (openable_html _ htag).loose

/-! Templates. -/

theorem modeFor_loose (x : Nat) (rest : List Nat) (hinner : isInner (b.tag x) = true)
    (hloose : isLoose (b.tag x) = true) : b.modeFor (x :: rest) = b.modeFor rest := by
  rw [Builder.modeFor]
  generalize b.tag x = tag at hinner hloose
  rcases tag with ⟨space, name⟩
  by_cases hspace : space = .html
  · rw [hspace] at hinner hloose
    rw [if_neg (by simp [hspace])]
    -- A name that the choice looks for is not loose, or not inside the body.
    dsimp only
    split <;>
      first
        | exact absurd hloose (by decide)
        | exact absurd hinner (by decide)
        | rfl
  · rw [if_pos hspace]

theorem fitsIn_modeFor_part (x : Nat) (rest : List Nat) (hrest : rest ≠ [])
    (htemplates : ∀ m ∈ b.templateModes, m ∈ heldModes) (hpart : isPart (b.tag x) = true) :
    FitsIn (b.modeFor (x :: rest)) (some (b.tag x)) := by
  rw [Builder.modeFor, List.isEmpty_eq_false_iff.mpr hrest]
  generalize b.tag x = tag at hpart
  rcases tag with ⟨space, name⟩
  rw [isPart, isOneOf_iff] at hpart
  rcases hpart with ⟨rfl, hname⟩
  simp only [partNames, List.mem_cons, List.not_mem_nil, or_false] at hname
  have hheld : b.templateModes.head?.getD .inTemplate ∈ heldModes := by
    cases hmodes : b.templateModes with
    | nil => exact (by decide : Mode.inTemplate ∈ heldModes)
    | cons m modes => exact htemplates m (hmodes ▸ List.mem_cons_self)
  rcases hname with rfl | rfl | rfl | rfl | rfl | rfl | rfl | rfl | rfl | rfl <;>
    first
      | exact ⟨_, rfl, by decide⟩
      | exact fitsIn_template _ hheld _ (by decide)
      | trivial

/-- The mode that is chosen for the open elements fits them. -/
theorem Stays.fitsIn_modeFor (h : b.Stays html body mark) (inner : List Nat)
    (hinner : ∀ x ∈ inner, isInner (b.tag x) = true) :
    FitsIn (b.modeFor (inner ++ [body, html]))
      (((inner ++ [body, html]).map b.tag).find? isPart) := by
  induction inner with
  | nil =>
      have hbody : b.tag body = .html "body" := h.nodes.tag_body
      rw [List.nil_append, Builder.modeFor, hbody]
      trivial
  | cons x inner ih =>
      rw [List.forall_mem_cons] at hinner
      rw [List.cons_append, List.map_cons]
      rcases isLoose_or_isPart _ (isInside_of_isInner _ hinner.1) with hx | hx
      · rw [modeFor_loose x _ hinner.1 hx, List.find?_cons_of_neg]
        · exact ih hinner.2
        · rw [isPart_eq_false_of_isLoose _ hx]
          exact Bool.false_ne_true
      · rw [List.find?_cons_of_pos hx]
        exact fitsIn_modeFor_part x _ (by simp) h.templates hx

theorem Stays.resetMode (h : b.Stays html body mark) : b.resetMode.Lasts html body mark := by
  rcases h.opened with ⟨inner, hopened, hinner⟩
  have hfits := h.fitsIn_modeFor inner hinner
  rw [← hopened] at hfits
  exact ⟨h, .settled hfits⟩

theorem Stays.leaveTemplate (h : b.Stays html body mark) :
    b.leaveTemplate.Lasts html body mark := by
  have hclear := h.clearToMarker.stays
  rw [Builder.leaveTemplate]
  generalize b.clearToMarker = b' at hclear
  have hdrop : Stays html body mark { b' with templateModes := b'.templateModes.drop 1 } :=
    ⟨hclear.nodes, hclear.opened, hclear.present, hclear.nested, hclear.formatting, hclear.form,
      hclear.frameset, fun m hm => hclear.templates m ((List.drop_sublist _ _).subset hm),
      hclear.waiting⟩
  exact hdrop.resetMode

/-- A part is inside the body. -/
theorem isInside_of_isPart (tag : Tag) (h : isPart tag = true) : isInside tag = true := by
  rw [isPart, isOneOf_iff] at h
  rw [isInside, Bool.not_eq_true', ← Bool.not_eq_true, isOneOf_iff, not_and]
  exact fun _ => (by decide : ∀ n ∈ partNames, n ∉ ["html", "body"]) _ h.2

/-- What stands open in an element inside the body is inside the body. -/
theorem Stays.inside_before (h : b.Stays html body mark) (before after : List Nat) (x : Nat)
    (hsplit : b.opened = before ++ x :: after) (hx : isInside (b.tag x) = true) :
    ∀ y ∈ before, isInside (b.tag y) = true := by
  intro y hy
  rcases h.opened with ⟨inner, hopened, hinner⟩
  rcases List.append_eq_append_iff.mp (hopened.symm.trans hsplit) with
    ⟨more, -, hends⟩ | ⟨rest, rfl, -⟩
  · -- The element would be the body or the document.
    have hmem : x ∈ [body, html] := hends ▸ List.mem_append_right _ List.mem_cons_self
    rw [List.mem_cons, List.mem_singleton] at hmem
    rcases hmem with rfl | rfl
    · rw [Builder.tag, h.nodes.tag_body] at hx
      exact absurd hx (by decide)
    · rw [Builder.tag, h.nodes.tag_html] at hx
      exact absurd hx (by decide)
  · exact isInside_of_isInner _ (hinner y (List.mem_append_left _ hy))

/-- Closing an element inside the body, with all inside it. -/
theorem Stays.drop_inside (h : b.Stays html body mark) (before after : List Nat) (x : Nat)
    (hsplit : b.opened = before ++ x :: after) (hx : isInside (b.tag x) = true) :
    Stays html body mark { b with opened := after } := by
  refine h.drop (before ++ [x]) after (by rwa [List.append_assoc, List.singleton_append])
    fun y hy => ?_
  rcases List.mem_append.mp hy with hy | hy
  · exact h.inside_before before after x hsplit hx y hy
  · exact List.mem_singleton.mp hy ▸ hx

/-- A part that is closed with all inside it, and what it stood in. -/
theorem Stays.closeUntil_part (h : b.Stays html body mark) (names : List String)
    (hnames : ∀ n ∈ names, n ∈ partNames)
    (hopen : ∃ x ∈ b.opened, (b.tag x).isOneOf names = true) :
    (b.closeUntil names).Stays html body mark ∧ ∃ t : Tag, t.isOneOf names = true ∧
      StandsIn t ((b.closeUntil names).opened.map (b.closeUntil names).tag).head? := by
  rcases b.closeUntil_split names hopen with ⟨x, after, hsplit, hx, heq⟩
  have hnested := h.nested
  rw [hsplit, List.map_append] at hnested
  rw [heq]
  exact ⟨h.drop_inside _ after x hsplit (isInside_of_isPart _ (isOneOf_mono _ hnames hx)),
    b.tag x, hx, (nested_of_append _ _ hnested).1⟩

/-- Closing elements whose end tag may be left out, parts of tables among
    them. -/
theorem Stays.closeThoroughly (h : b.Stays html body mark) :
    (b.closeImplied thoroughlyImpliedNames).Stays html body mark := by
  refine h.drop (b.opened.takeWhile fun id => (b.tag id).isOneOf thoroughlyImpliedNames) _
    List.takeWhile_append_dropWhile.symm fun x hx => ?_
  have hone := List.all_eq_true.mp List.all_takeWhile x hx
  rw [isOneOf_iff] at hone
  rw [isInside, Bool.not_eq_true', ← Bool.not_eq_true, isOneOf_iff, not_and]
  exact fun _ => (by decide : ∀ n ∈ thoroughlyImpliedNames, n ∉ ["html", "body"]) _ hone.2

theorem exists_of_hasOpen (name : String) (hopen : b.hasOpen name = true) :
    ∃ x ∈ b.opened, (b.tag x).isOneOf [name] = true := by
  rcases List.any_eq_true.mp hopen with ⟨x, hx, hname⟩
  exact ⟨x, hx, by rwa [isOneOf_singleton]⟩

/-- Closing implied elements does not lose one of other names. -/
theorem exists_closeImplied (implied names : List String) (hdisjoint : ∀ n ∈ names, n ∉ implied)
    (hopen : ∃ x ∈ b.opened, (b.tag x).isOneOf names = true) :
    ∃ x ∈ (b.closeImplied implied).opened, ((b.closeImplied implied).tag x).isOneOf names = true := by
  rcases hopen with ⟨x, hx, hname⟩
  refine ⟨x, ?_, hname⟩
  rw [← List.takeWhile_append_dropWhile (p := fun id => (b.tag id).isOneOf implied)
    (l := b.opened), List.mem_append] at hx
  refine hx.resolve_left fun himplied => ?_
  have hone := List.all_eq_true.mp List.all_takeWhile x himplied
  rw [isOneOf_iff] at hone hname
  exact hdisjoint _ hname.2 hone.2

theorem Lasts.closeTemplate (h : b.Lasts html body mark) :
    b.closeTemplate.Lasts html body mark := by
  rw [Builder.closeTemplate]
  refine Lasts.ite (fun hopen => ?_) fun _ => h
  exact (h.stays.closeThoroughly.closeUntil_part ["template"] (by decide)
    (exists_closeImplied _ _ (by decide) (exists_of_hasOpen _ hopen))).1.leaveTemplate

theorem Lasts.endInTemplate (h : b.Lasts html body mark) :
    b.endInTemplate.Lasts html body mark := by
  rw [Builder.endInTemplate]
  refine Outcome.Lasts.ite (fun hopen => ?_) fun _ => h
  exact (h.stays.closeUntil_part ["template"] (by decide) (exists_of_hasOpen _ hopen)).1.leaveTemplate

/-- Opening a part in what it stands in. -/
theorem Stays.insert_part (h : b.Stays html body mark) (name : String)
    (attributes : List Attribute) (hname : name ∈ partNames)
    (hstands : StandsIn (.html name) (b.opened.map b.tag).head?) :
    (b.openElement (.html name) attributes).1.Stays html body mark ∧
      (b.openElement (.html name) attributes).1.innermost = some (.html name) := by
  have hbody : name ≠ "body" := (by decide : ∀ n ∈ partNames, n ≠ "body") name hname
  have hadd := h.addElement (.html name) attributes hbody
  have hopened : (b.addElement (.html name) attributes).1.opened = b.opened := by
    rw [Builder.addElement, putAt_opened, createElement_opened]
  -- The tags of what is open do not change by a new element, so the part still fits.
  have htags : (b.opened.map (b.addElement (.html name) attributes).1.tag) = b.opened.map b.tag :=
    List.map_congr_left fun x hx => (hadd.1.extended.tag_eq x (h.present x hx)).1
  unfold Builder.openElement
  generalize b.addElement (.html name) attributes = r at hadd hopened htags
  have hinner : isInner (.html name) = true :=
    (by decide : ∀ n ∈ partNames, isInner (.html n) = true) name hname
  have hpart : isPart (.html name) = true :=
    (by decide : ∀ n ∈ partNames, isPart (.html n) = true) name hname
  rw [← hadd.2.tag_eq] at hinner hpart
  refine ⟨hadd.1.stays.push r.2 hadd.2.present hinner ?_, ?_⟩
  · rw [hopened, htags, hadd.2.tag_eq]
    exact hstands
  · exact (List.find?_cons_of_pos hpart).trans (congrArg some hadd.2.tag_eq)

theorem standsIn_of_holders (name : String) (outer : Option Tag) (h : holders name = []) :
    StandsIn (.html name) outer :=
  fun _ hholders => absurd h hholders

theorem Stays.openTemplate (h : b.Stays html body mark) (htag : tag.name = "template") :
    (b.openTemplate tag).Lasts html body mark := by
  have hopen := h.insert_part tag.name (plainAttributes tag) (by rw [htag]; decide)
    (standsIn_of_holders _ _ (by rw [htag]; decide))
  rw [htag] at hopen
  rw [Builder.openTemplate, Builder.insert, htag]
  generalize (b.openElement (.html "template") (plainAttributes tag)).1 = b' at hopen ⊢
  have hclosed := hopen.1.pushMarker.forbidFrameset.stays
  refine ⟨⟨hclosed.nodes, hclosed.opened, hclosed.present, hclosed.nested, hclosed.formatting,
    hclosed.form, hclosed.frameset, ?_, hclosed.waiting⟩, .settled ⟨.html "template", hopen.2, rfl⟩⟩
  exact List.forall_mem_cons.mpr ⟨by decide, h.templates⟩

/-! The head. -/

/-- What belongs in the head wherever it stands. -/
theorem Stays.inHead_start (h : b.Stays html body mark) (hfits : FitsIn b.mode b.innermost)
    (hname : tag.name ∈ headNames) : (b.inHead (.start tag)).Lasts html body mark := by
  have hfixed : tag.name ≠ "template" → tag.name ∉ fixedNames :=
    (by decide : ∀ n ∈ headNames, n ≠ "template" → n ∉ fixedNames) _ hname
  have hbody : tag.name ≠ "body" := (by decide : ∀ n ∈ headNames, n ≠ "body") _ hname
  have htext (htemplate : tag.name ≠ "template") (textMode : TextMode) :=
    h.insertWithText hfits (hfixed htemplate) textMode
  unfold Builder.inHead
  refine .ite (fun _ => (h.mergeHtml tag).lasts hfits) fun hhtml => ?_
  refine .ite (fun _ => ?_) fun hvoid => ?_
  · exact ((h.insertVoid tag hbody).withReads _).lasts hfits
  refine .ite (fun htitle => htext (by simp [htitle]) _) fun htitle => ?_
  refine .ite (fun hraw => htext ?_ _) fun hraw => ?_
  · intro htemplate
    simp [htemplate] at hraw
  refine .ite (fun hscript => htext (by simp [hscript]) _) fun hscript => ?_
  refine .ite h.openTemplate fun htemplate => ?_
  -- No name is left.
  simp only [headNames, List.mem_cons, List.not_mem_nil, or_false] at hname
  simp only [headVoidNames, List.contains_iff_mem, List.mem_cons, List.not_mem_nil, or_false]
    at hvoid hraw
  grind

end Builder

end Html

end CiteRender
