import CiteRender.Proofs.Html.Lasting.Modes

/-!
# A Marked Body under the Rules for the Body

The rules for the body open and close elements inside it, and give it
attributes that it does not have. Nearly all of them leave the open parts of
tables and templates alone too, so the mode still fits. An end tag that names
such a part may close it, but it only comes here in modes that fit any parts.

## Theorems

* `Builder.Stays.blockStart`, `Builder.Stays.inlineStart`, `Builder.Stays.bodyStart`:
  What start tags keep.
* `Builder.Lasts.elementClose`: What end tags keep.
* `Builder.Stays.inBody`: What the rules keep.
-/

namespace CiteRender

namespace Html

namespace Builder

variable {html body : Nat} {mark : String} {b b' : Builder} {tag : StartTag}

/-! Closing what is implied. -/

theorem Stays.removeOpen (h : b.Stays html body mark) (id : Nat) (hid : isLoose (b.tag id) = true) :
    Keeps html body mark b (b.removeOpen id) := by
  have hbody : body ≠ id := by
    rintro rfl
    rw [Builder.tag, h.nodes.tag_body] at hid
    exact absurd hid (by decide)
  have hhtml : html ≠ id := by
    rintro rfl
    rw [Builder.tag, h.nodes.tag_html] at hid
    exact absurd hid (by decide)
  refine ⟨⟨h.nodes, ?_, fun x hx => h.present x (List.mem_of_mem_filter hx),
    nested_filter id hid _ h.nested, h.formatting, h.form, h.frameset, h.templates, h.waiting⟩,
    Scaffold.extends_of_eq fun _ => rfl, find?_filter id hid _, rfl, rfl⟩
  -- What is left of the open elements still ends in the body and the document.
  rcases h.opened with ⟨inner, hopened, hinner⟩
  refine ⟨inner.filter (· ≠ id), ?_, fun x hx => hinner x (List.mem_of_mem_filter hx)⟩
  rw [Builder.removeOpen, hopened, List.filter_append]
  simp [hbody, hhtml]

theorem Stays.closeImpliedExcept (h : b.Stays html body mark) (name : String) :
    Keeps html body mark b (b.closeImpliedExcept name) :=
  h.closeImplied _ (looseNames_filter _ _ looseNames_implied)

theorem Stays.closeExcept (h : b.Stays html body mark) (name : String) (hname : LooseNames [name])
    (hreached : b.Reached [name]) :
    Keeps html body mark b ((b.closeImpliedExcept name).closeUntil [name]) :=
  h.closeReached _ _ (looseNames_filter _ _ looseNames_implied) hname
    (fun n hn => by simp [List.mem_singleton.mp hn]) hreached

/-- Closing what is found in reach, after all that may end before it. -/
theorem Stays.closeInReach (h : b.Stays html body mark) {bounds : Tag → Bool}
    (hbounds : Bounds bounds) {names : List String} (hnames : LooseNames names)
    (hdisjoint : ∀ n ∈ names, n ∉ impliedNames) (hscope : b.inScope bounds names = true) :
    Keeps html body mark b ((b.closeImplied impliedNames).closeUntil names) :=
  h.closeReached _ _ looseNames_implied hnames hdisjoint
    (h.reached_of_inScope hbounds names hnames hscope)

theorem looseNames_paragraph : LooseNames ["p"] :=
  looseNames_singleton _ (by decide)

theorem Stays.closeParagraphInScope (h : b.Stays html body mark) :
    Keeps html body mark b b.closeParagraphInScope :=
  Keeps.ite (fun hscope => h.closeExcept "p" looseNames_paragraph
    (h.reached_of_inScope bounds_button _ looseNames_paragraph hscope)) fun _ => Keeps.refl h

/-- The item that a new one ends is open, and all inside it are loose. -/
theorem reached_of_endedItem (names : List String) (name : String) (opened : List Nat)
    (h : b.endedItem names opened = some name) :
    name ∈ names ∧ ∃ before x after, opened = before ++ x :: after ∧
      (∀ y ∈ before, isLoose (b.tag y) = true) ∧ (b.tag x).isOneOf [name] = true := by
  induction opened with
  | nil => simp [Builder.endedItem] at h
  | cons x opened ih =>
      rw [Builder.endedItem] at h
      split at h
      · next hone =>
          rw [isOneOf_iff] at hone
          rw [← Option.some.inj h]
          exact ⟨hone.2, [], x, opened, rfl, by simp,
            (isOneOf_iff _ _).mpr ⟨hone.1, List.mem_singleton_self _⟩⟩
      · split at h
        · simp at h
        · next hspecial =>
            have hloose : isLoose (b.tag x) = true := by
              -- The search goes past three special names, none of which is a part.
              by_cases hx : isSpecial (b.tag x) = true
              · refine isLoose_of_isOneOf _ ["address", "div", "p"] (by decide) ?_
                simpa [hx] using hspecial
              · exact isLoose_of_not_isSpecial _ (by simpa using hx)
            rcases ih h with ⟨hname, before, y, after, rfl, hbefore, hy⟩
            exact ⟨hname, x :: before, y, after, rfl,
              List.forall_mem_cons.mpr ⟨hloose, hbefore⟩, hy⟩

theorem Stays.openItem (h : b.Stays html body mark) (names : List String)
    (hnames : LooseNames names) (htag : tag.name ∉ fixedNames) :
    Keeps html body mark b (b.openItem names tag) := by
  have hforbid := (Keeps.refl h).forbidFrameset
  -- Whether or not an item ends first, a paragraph does, and the new item opens.
  have hlast {b' : Builder} (hended : Keeps html body mark b b') :
      Keeps html body mark b (b'.closeParagraphInScope.insert tag) :=
    have hclosed := hended.trans hended.stays.closeParagraphInScope
    hclosed.trans (hclosed.stays.insert tag htag)
  rw [Builder.openItem]
  generalize b.forbidFrameset = b' at hforbid ⊢
  cases hname : b'.endedItem names b'.opened with
  | none => exact hlast hforbid
  | some name =>
      have hitem := reached_of_endedItem names name _ hname
      exact hlast (hforbid.trans
        (hforbid.stays.closeExcept name (looseNames_singleton _ (hnames _ hitem.1)) hitem.2))

theorem Stays.openForm (h : b.Stays html body mark) (htag : tag.name = "form") :
    Keeps html body mark b (b.openForm tag) := by
  have hclosed := h.closeParagraphInScope
  have hopen := hclosed.stays.openElement (.html "form") (plainAttributes tag)
    (openable_html _ (by decide))
  rw [Builder.openForm, htag]
  refine Keeps.ite (fun _ => Keeps.refl h) fun _ => ?_
  dsimp only
  generalize b.closeParagraphInScope = b' at hclosed hopen ⊢
  generalize b'.openElement (.html "form") (plainAttributes tag) = r at hopen ⊢
  have hall := hclosed.trans hopen.1
  refine Keeps.ite (fun _ => hall) fun _ => hall.withForm _ fun id hid => ?_
  rw [← Option.some.inj hid]
  exact ⟨hopen.2.present, hopen.2.tag_eq⟩

theorem Stays.openLink (h : b.Stays html body mark) (htag : tag.name = "a") :
    Keeps html body mark b (b.openLink tag) := by
  have hname : "a" ∉ "html" :: "body" :: partNames := by decide
  have hlast {b' : Builder} (hclosed : Keeps html body mark b b') :
      Keeps html body mark b (b'.reopen.openFormatting tag) :=
    have hreopen := hclosed.trans hclosed.stays.reopen
    hreopen.trans (hreopen.stays.openFormatting tag (by rw [htag]; decide))
  rw [Builder.openLink]
  cases hfound : b.findFormatting "a" with
  | none => exact hlast (Keeps.refl h)
  | some entry =>
      rcases entry with ⟨id, start⟩
      have hclose := h.closeFormatting "a" hname
      have hremove := hclose.trans (hclose.stays.removeFormatting id)
      -- The entry was on the list before anything closed, so the element is still one of a link.
      have hentry := (h.formatting id start (mem_of_findFormatting "a" id start hfound)).mono
        hremove.extended
      exact hlast (hremove.trans (hremove.stays.removeOpen id hentry.isLoose))

theorem Stays.closeOption (h : b.Stays html body mark) : Keeps html body mark b b.closeOption := by
  refine Keeps.ite (fun hcurrent => h.pop ?_) fun _ => Keeps.refl h
  rw [← isOneOf_singleton] at hcurrent
  exact isLoose_of_isOneOf _ _ (looseNames_singleton _ (by decide)) hcurrent

theorem looseNames_select : LooseNames ["select"] :=
  looseNames_singleton _ (by decide)

theorem Stays.closeSelect (h : b.Stays html body mark) (hselects : b.selects = true) :
    Keeps html body mark b (b.closeUntil ["select"]) :=
  h.closeUntil _ looseNames_select (h.reached_of_inScope bounds_default _ looseNames_select hselects)

theorem Stays.openSelect (h : b.Stays html body mark) (htag : tag.name ∉ fixedNames) :
    Keeps html body mark b (b.openSelect tag) :=
  Keeps.ite h.closeSelect fun _ => (h.reopen.trans (h.reopen.stays.insert tag htag)).forbidFrameset

theorem Stays.openOption (h : b.Stays html body mark) (htag : tag.name ∉ fixedNames) :
    Keeps html body mark b (b.openOption tag) := by
  have hclosed : Keeps html body mark b
      (if b.selects then b.closeImpliedExcept "optgroup" else b.closeOption) :=
    Keeps.ite (fun _ => h.closeImpliedExcept _) fun _ => h.closeOption
  have hreopen := hclosed.trans hclosed.stays.reopen
  exact hreopen.trans (hreopen.stays.insert tag htag)

theorem Stays.openGroup (h : b.Stays html body mark) (htag : tag.name ∉ fixedNames) :
    Keeps html body mark b (b.openGroup tag) := by
  have hclosed : Keeps html body mark b
      (if b.selects then b.closeImplied impliedNames else b.closeOption) :=
    Keeps.ite (fun _ => h.closeImplied _ looseNames_implied) fun _ => h.closeOption
  have hreopen := hclosed.trans hclosed.stays.reopen
  exact hreopen.trans (hreopen.stays.insert tag htag)

theorem Stays.addRule (h : b.Stays html body mark) (htag : tag.name ≠ "body") :
    Keeps html body mark b (b.addRule tag) := by
  have hparagraph := h.closeParagraphInScope
  rw [Builder.addRule]
  generalize b.closeParagraphInScope = b' at hparagraph ⊢
  have hclosed : Keeps html body mark b (if b'.selects then b'.closeImplied impliedNames else b') :=
    Keeps.ite (fun _ => hparagraph.trans (hparagraph.stays.closeImplied _ looseNames_implied))
      fun _ => hparagraph
  exact (hclosed.trans (hclosed.stays.insertVoid tag htag)).forbidFrameset

theorem Stays.addInput (h : b.Stays html body mark) (htag : tag.name ≠ "body") :
    Keeps html body mark b (b.addInput tag) := by
  have hclosed : Keeps html body mark b (if b.selects then b.closeUntil ["select"] else b) :=
    Keeps.ite h.closeSelect fun _ => Keeps.refl h
  have hreopen := hclosed.trans hclosed.stays.reopen
  have hinput := hreopen.trans (hreopen.stays.insertVoid tag htag)
  exact Keeps.ite (fun _ => hinput) fun _ => hinput.forbidFrameset

/-! Start tags. -/

/-- A state that there may be, and in which the marked body remains open. -/
def SomeLasts (html body : Nat) (mark : String) (found : Option Builder) : Prop :=
  ∀ b ∈ found, b.Lasts html body mark

theorem someLasts_none : SomeLasts html body mark none :=
  fun _ hb => absurd hb (by simp)

theorem Lasts.some (h : b.Lasts html body mark) : SomeLasts html body mark (some b) :=
  fun _ hb => Option.some.inj hb ▸ h

theorem SomeLasts.ite {p : Prop} [Decidable p] {x y : Option Builder}
    (hx : p → SomeLasts html body mark x) (hy : ¬ p → SomeLasts html body mark y) :
    SomeLasts html body mark (if p then x else y) := by
  split
  · next hp => exact hx hp
  · next hp => exact hy hp

theorem SomeLasts.or {x y : Option Builder} (hx : SomeLasts html body mark x)
    (hy : SomeLasts html body mark y) : SomeLasts html body mark (x.or y) := by
  cases x with
  | none => exact hy
  | some b => exact hx

theorem SomeLasts.getD {x : Option Builder} (hx : SomeLasts html body mark x)
    (hb : x = none → b.Lasts html body mark) : (x.getD b).Lasts html body mark := by
  cases x with
  | none => exact hb rfl
  | some b => exact hx b rfl

theorem notMem_fixedNames (names : List String) (hnames : ∀ n ∈ names, n ∉ fixedNames)
    (h : names.contains tag.name = true) : tag.name ∉ fixedNames :=
  hnames _ (List.contains_iff_mem.mp h)

theorem ne_body_of_notMem (h : tag.name ∉ fixedNames) : tag.name ≠ "body" := by
  intro hbody
  rw [hbody] at h
  exact h (by decide)

theorem Stays.openTable (h : b.Stays html body mark) (htag : tag.name = "table") :
    { ((if b.oldLayout then b else b.closeParagraphInScope).insert tag).forbidFrameset with
      mode := .inTable }.Lasts html body mark := by
  have hclosed : Keeps html body mark b (if b.oldLayout then b else b.closeParagraphInScope) :=
    Keeps.ite (fun _ => Keeps.refl h) fun _ => h.closeParagraphInScope
  generalize (if b.oldLayout then b else b.closeParagraphInScope) = b' at hclosed ⊢
  have hopen := hclosed.stays.insert_part "table" (plainAttributes tag) (by decide)
    (standsIn_of_holders _ _ (by decide))
  rw [Builder.insert, htag]
  generalize (b'.openElement (.html "table") (plainAttributes tag)).1 = b'' at hopen ⊢
  -- The table is now the innermost part, which the new mode asks for.
  exact ⟨(Keeps.refl hopen.1).forbidFrameset.stays, .settled ⟨.html "table", hopen.2, rfl⟩⟩

theorem Stays.blockStart (h : b.Stays html body mark) (hfits : FitsIn b.mode b.innermost) :
    SomeLasts html body mark (b.blockStart tag) := by
  have hclosed := h.closeParagraphInScope
  have hinsert (htag : tag.name ∉ fixedNames) := hclosed.trans (hclosed.stays.insert tag htag)
  rw [Builder.blockStart]
  -- Blocks.
  refine .ite (fun hname => ((hinsert ?_).lasts hfits).some) fun _ => ?_
  · exact notMem_fixedNames _ (by decide) hname
  -- A heading, which ends one that is open.
  refine .ite (fun hname => Lasts.some ?_) fun _ => ?_
  · have htag := notMem_fixedNames _ (by decide) hname
    have hheading : Keeps html body mark b (if b.closeParagraphInScope.currentTag.isOneOf
        headingNames then b.closeParagraphInScope.pop else b.closeParagraphInScope) :=
      Keeps.ite (fun hcurrent => hclosed.trans (hclosed.stays.pop
        (isLoose_of_isOneOf _ _ (by decide) hcurrent))) fun _ => hclosed
    exact (hheading.trans (hheading.stays.insert tag htag)).lasts hfits
  -- A block whose first line end does not count.
  refine .ite (fun hname => Lasts.some ?_) fun _ => ?_
  · exact ((hinsert (notMem_fixedNames _ (by decide) hname)).forbidFrameset.withNewline _).lasts hfits
  -- A form, and the items of lists.
  refine .ite (fun hname => ((h.openForm hname).lasts hfits).some) fun _ => ?_
  refine .ite (fun hname => ((h.openItem _ ?_ ?_).lasts hfits).some) fun _ => ?_
  · exact looseNames_singleton _ (by decide)
  · exact hname ▸ by decide
  refine .ite (fun hname => ((h.openItem _ ?_ ?_).lasts hfits).some) fun _ => ?_
  · exact fun n hn => (by decide : ∀ n ∈ ["dd", "dt"], n ∉ "html" :: "body" :: partNames) n hn
  · exact notMem_fixedNames _ (by decide) hname
  -- Text to the end of the document.
  refine .ite (fun hname => (((hinsert ?_).withTextMode _).lasts hfits).some) fun _ => ?_
  · exact hname ▸ by decide
  -- A table, a rule and raw text.
  refine .ite (fun hname => (h.openTable hname).some) fun _ => ?_
  refine .ite (fun hname => ((h.addRule (by simp [hname])).lasts hfits).some) fun _ => ?_
  refine .ite (fun hname => Lasts.some ?_) fun _ => someLasts_none
  have hreopen := (hclosed.trans hclosed.stays.reopen).forbidFrameset
  exact hreopen.stays.insertWithText (hreopen.fits hfits) (hname ▸ by decide) _

theorem Stays.openForeign (h : b.Stays html body mark) (space : Space) (name : String)
    (hspace : space ≠ .html) (hname : name ≠ "body") :
    Keeps html body mark b (b.openForeign space name tag) := by
  rw [Builder.openForeign]
  refine Keeps.ite (fun _ => (h.addElement _ _ hname).1) fun _ => ?_
  exact (h.openElement _ _ (openable_of_space _ hspace hname)).1

theorem Stays.openNobr (h : b.Stays html body mark) (htag : tag.name = "nobr") :
    Keeps html body mark b (Builder.openFormatting (if b.reopen.inScope defaultBounds ["nobr"] then
      (b.reopen.closeFormatting "nobr").reopen else b.reopen) tag) := by
  have hreopen := h.reopen
  have hclosed : Keeps html body mark b (if b.reopen.inScope defaultBounds ["nobr"] then
      (b.reopen.closeFormatting "nobr").reopen else b.reopen) := by
    refine Keeps.ite (fun _ => ?_) fun _ => hreopen
    have hclose := hreopen.stays.closeFormatting "nobr" (by decide)
    exact hreopen.trans (hclose.trans hclose.stays.reopen)
  exact hclosed.trans (hclosed.stays.openFormatting tag (htag ▸ by decide))

theorem Stays.inlineStart (h : b.Stays html body mark) (hfits : FitsIn b.mode b.innermost) :
    SomeLasts html body mark (b.inlineStart tag) := by
  have hreopen := h.reopen
  have hforbid := (Keeps.refl h).forbidFrameset
  have hbefore (x : Builder) (hkeeps : Keeps html body mark b x) (htag : tag.name ∉ fixedNames) :
      Keeps html body mark b (x.insert tag) := hkeeps.trans (hkeeps.stays.insert tag htag)
  rw [Builder.inlineStart]
  -- Links and other formatting elements.
  refine .ite (fun hname => ((h.openLink hname).lasts hfits).some) fun _ => ?_
  refine .ite (fun hname => Lasts.some ?_) fun _ => ?_
  · have hentry : tag.name ∈ entryNames := by
      rw [List.contains_iff_mem] at hname
      exact List.mem_cons_of_mem _ (List.mem_cons_of_mem _ hname)
    exact (hreopen.trans (hreopen.stays.openFormatting tag hentry)).lasts hfits
  refine .ite (fun hname => ((h.openNobr hname).lasts hfits).some) fun _ => ?_
  -- A button, which ends one that is in reach.
  refine .ite (fun hname => Lasts.some ?_) fun _ => ?_
  · have hclosed : Keeps html body mark b (if b.inScope defaultBounds ["button"] then
        (b.closeImplied impliedNames).closeUntil ["button"] else b) :=
      Keeps.ite (h.closeInReach bounds_default (looseNames_singleton _ (by decide)) (by decide))
        fun _ => Keeps.refl h
    exact (hbefore _ (hclosed.trans hclosed.stays.reopen)
      (hname ▸ by decide)).forbidFrameset.lasts hfits
  -- Embedded objects, and elements without contents.
  refine .ite (fun hname => Lasts.some ?_) fun _ => ?_
  · have hopen := hbefore _ hreopen (notMem_fixedNames _ (by decide) hname)
    exact ((hopen.trans hopen.stays.pushMarker).forbidFrameset).lasts hfits
  refine .ite (fun hname => Lasts.some ?_) fun _ => ?_
  · have htag := ne_body_of_notMem (notMem_fixedNames _ (by decide) hname)
    exact ((hreopen.trans (hreopen.stays.insertVoid tag htag)).forbidFrameset).lasts hfits
  refine .ite (fun hname => ((h.addInput (by simp [hname])).lasts hfits).some) fun _ => ?_
  refine .ite (fun hname => ((h.insertVoid tag ?_).lasts hfits).some) fun _ => ?_
  · exact ne_body_of_notMem (notMem_fixedNames _ (by decide) hname)
  -- Elements that hold nothing but text; the mode returned to is the one that fits now.
  refine .ite (fun hname => Lasts.some ?_) fun _ => ?_
  · have hname' : tag.name ∉ fixedNames := hname ▸ by decide
    have htext := hforbid.stays.insertWithText (hforbid.fits hfits) hname'
      (.withReferences "textarea")
    exact htext.withNewline true
  refine .ite (fun hname => Lasts.some ?_) fun _ => ?_
  · exact hforbid.stays.insertWithText (hforbid.fits hfits) (hname ▸ by decide) _
  refine .ite (fun hname => Lasts.some ?_) fun _ => ?_
  · exact h.insertWithText hfits (notMem_fixedNames _ (by decide) hname) _
  -- Selections with their options and groups.
  refine .ite (fun hname => ((h.openSelect ?_).lasts hfits).some) fun _ => ?_
  · exact hname ▸ by decide
  refine .ite (fun hname => ((h.openOption ?_).lasts hfits).some) fun _ => ?_
  · exact hname ▸ by decide
  refine .ite (fun hname => ((h.openGroup ?_).lasts hfits).some) fun _ => ?_
  · exact hname ▸ by decide
  -- Annotations, which end what is implied before them.
  refine .ite (fun hname => ((hbefore _ ?_ ?_).lasts hfits).some) fun _ => ?_
  · exact Keeps.ite (fun _ => h.closeImplied _ looseNames_implied) fun _ => Keeps.refl h
  · exact notMem_fixedNames _ (by decide) hname
  refine .ite (fun hname => ((hbefore _ ?_ ?_).lasts hfits).some) fun _ => ?_
  · exact Keeps.ite (fun _ => h.closeImpliedExcept _) fun _ => Keeps.refl h
  · exact notMem_fixedNames _ (by decide) hname
  -- Roots of the other vocabularies.
  refine .ite (fun _ => Lasts.some ?_) fun _ => .ite (fun _ => Lasts.some ?_) fun _ =>
    someLasts_none
  · exact (hreopen.trans (hreopen.stays.openForeign _ _ (by simp) (by simp))).lasts hfits
  · exact (hreopen.trans (hreopen.stays.openForeign _ _ (by simp) (by simp))).lasts hfits

theorem Stays.mergeBody (h : b.Stays html body mark) (tag : StartTag) :
    Keeps html body mark b (b.mergeBody tag) := by
  have hforbid := (Keeps.refl h).forbidFrameset
  rw [Builder.mergeBody]
  split
  · exact Keeps.ite (fun _ => Keeps.refl h) fun _ =>
      hforbid.trans (hforbid.stays.grow (h.nodes.addAttributes _ _))
  · exact Keeps.refl h

theorem Stays.replaceBody (h : b.Stays html body mark) (tag : StartTag) :
    b.replaceBody tag = b := by
  rw [Builder.replaceBody, h.frameset]

theorem Stays.bodyStart (h : b.Stays html body mark) (hfits : FitsIn b.mode b.innermost) :
    (b.bodyStart tag).Lasts html body mark := by
  unfold Builder.bodyStart
  generalize (if tag.name = "image" then { tag with name := "img" } else tag) = tag
  refine .ite (fun _ => (h.mergeHtml tag).lasts hfits) fun hhtml => ?_
  refine .ite (fun hname => ?_) fun hhead => ?_
  · exact h.inHead_start hfits (List.contains_iff_mem.mp hname)
  refine .ite (fun _ => (h.mergeBody tag).lasts hfits) fun hbody => ?_
  refine .ite (fun _ => ?_) fun hframeset => ?_
  · rw [h.replaceBody]
    exact (Keeps.refl h).lasts hfits
  refine .ite (fun _ => (Keeps.refl h).lasts hfits) fun hmisplaced => ?_
  -- A tag without a rule of its own has none of the names looked for above.
  refine ((h.blockStart hfits).or (h.inlineStart hfits)).getD fun hnone => ?_
  have htable : tag.name ≠ "table" := by
    intro htable
    simp [Builder.blockStart, htable, blockNames, headingNames] at hnone
  have htag : tag.name ∉ fixedNames := by
    intro hfixed
    have hsome := (by decide : ∀ n ∈ fixedNames, n ∈ ["html", "body", "frameset", "table"] ∨
      n ∈ headNames ∨ n ∈ misplacedNames) _ hfixed
    simp only [List.contains_iff_mem] at hhead hmisplaced
    simp [hhtml, hbody, hframeset, htable, hhead, hmisplaced] at hsome
  exact (h.reopen.trans (h.reopen.stays.insert tag htag)).lasts hfits

/-! End tags. -/

theorem Stays.closeForm (h : b.Stays html body mark) : Keeps html body mark b b.closeForm := by
  have hname : LooseNames ["form"] := looseNames_singleton _ (by decide)
  rw [Builder.closeForm]
  refine Keeps.ite (fun _ => Keeps.ite (h.closeInReach bounds_default hname (by decide))
    fun _ => Keeps.refl h) fun _ => ?_
  split
  · exact Keeps.refl h
  · next form hform =>
      have hnone := (Keeps.refl h).withForm none (by simp)
      have hclosed := hnone.trans (hnone.stays.closeImplied _ looseNames_implied)
      have hopen := h.form form hform
      refine Keeps.ite (fun _ => hclosed.trans (hclosed.stays.removeOpen form ?_)) fun _ => hnone
      -- The form is closed by its number, so its tag has to be the old one still.
      have htag := hclosed.extended.tag_eq form hopen.1
      exact (congrArg isLoose (htag.1.trans hopen.2)).trans (by decide)

theorem Stays.closeInScope (h : b.Stays html body mark) {bounds : Tag → Bool}
    (hbounds : Bounds bounds) (name : String) (hname : LooseNames [name]) :
    Keeps html body mark b (b.closeInScope bounds name) :=
  Keeps.ite (fun hscope => h.closeExcept name hname
    (h.reached_of_inScope hbounds _ hname hscope)) fun _ => Keeps.refl h

/-- An end tag for a paragraph opens one if none is open. -/
theorem Stays.endParagraph (h : b.Stays html body mark) : Keeps html body mark b
    (if b.inScope buttonBounds ["p"] then b else b.insertImplied "p").closeParagraph := by
  by_cases hscope : b.inScope buttonBounds ["p"] = true
  · rw [if_pos hscope]
    exact h.closeExcept "p" looseNames_paragraph
      (h.reached_of_inScope bounds_button _ looseNames_paragraph hscope)
  · rw [if_neg hscope]
    have hopen := h.openElement (.html "p") (plainAttributes { name := "p" })
      (openable_html _ (by decide))
    refine hopen.1.trans (hopen.1.stays.closeExcept "p" looseNames_paragraph
      ⟨[], _, _, rfl, by simp, ?_⟩)
    exact congrArg (Tag.isOneOf · ["p"]) hopen.2.tag_eq

/-- An end tag that names no part of a table leaves the parts alone. -/
theorem Stays.elementClose (h : b.Stays html body mark) (name : String)
    (hname : name ∉ "html" :: "body" :: partNames) :
    Keeps html body mark b (b.elementClose name) := by
  have hloose := looseNames_singleton name hname
  have hrefl := Keeps.refl h
  have notImplied (names : List String) (hnames : ∀ n ∈ names, n ∉ impliedNames)
      (hmem : names.contains name = true) : ∀ n ∈ [name], n ∉ impliedNames :=
    fun n hn => List.mem_singleton.mp hn ▸ hnames _ (List.contains_iff_mem.mp hmem)
  rw [Builder.elementClose, if_neg (by rintro rfl; exact hname (by decide))]
  refine .ite (fun hblock => .ite (h.closeInReach bounds_default hloose ?_) fun _ => hrefl)
    fun _ => ?_
  · exact notImplied _ (by decide) hblock
  refine .ite (fun _ => h.closeForm) fun _ => ?_
  refine .ite (fun _ => h.endParagraph) fun _ => ?_
  refine .ite (fun _ => h.closeInScope bounds_list name hloose) fun _ => ?_
  refine .ite (fun _ => h.closeInScope bounds_default name hloose) fun _ => ?_
  refine .ite (fun _ => .ite (h.closeInReach bounds_default ?_ (by decide)) fun _ => hrefl)
    fun _ => ?_
  · exact fun n hn => (by decide : ∀ n ∈ headingNames, n ∉ "html" :: "body" :: partNames) n hn
  refine .ite (fun _ => h.closeFormatting name hname) fun _ => ?_
  refine .ite (fun hobject => .ite (fun hscope => ?_) fun _ => hrefl) fun _ => ?_
  · have hclosed := h.closeInReach bounds_default hloose (notImplied _ (by decide) hobject) hscope
    exact hclosed.trans hclosed.stays.clearToMarker
  refine .ite (fun _ => ?_) fun _ => h.closeAny name hname
  exact (h.reopen.trans (h.reopen.stays.insertVoid { name := "br" } (by decide))).forbidFrameset

/-- An end tag that names a part of a table may close it. -/
theorem Stays.closeAny_part (h : b.Stays html body mark) (name : String) (hname : name ∈ partNames) :
    (b.closeAny name).Stays html body mark ∧ (b.closeAny name).mode = b.mode := by
  rw [Builder.closeAny]
  split
  · next hfound =>
      rcases findPlain_split name _ hfound with ⟨before, x, after, hsplit, -, hx⟩
      have hclosed := h.closeUntil_part [name] (by simpa using hname) ⟨x, by simp [hsplit], hx⟩
      exact ⟨hclosed.1, rfl⟩
  · exact ⟨h, rfl⟩

theorem elementClose_part (b : Builder) (name : String) (hname : name ∈ partNames)
    (htemplate : name ≠ "template") : b.elementClose name = b.closeAny name := by
  simp only [partNames, List.mem_cons, List.not_mem_nil, or_false] at hname
  rcases hname with rfl | rfl | rfl | rfl | rfl | rfl | rfl | rfl | rfl | rfl <;>
    first
      | exact absurd rfl htemplate
      | simp [Builder.elementClose, blockCloseNames, headingNames, formattingNames]

/-- What the rules for the body keep. An end tag that names a part of a table
    only gets here in modes that fit any parts. -/
theorem Stays.inBody (h : b.Stays html body mark) (hfits : FitsIn b.mode b.innermost)
    (token : Token) (hclose : ∀ name ∈ partNames, name ≠ "template" → token = .close name →
      ∀ part, FitsIn b.mode part) : (b.inBody token).Lasts html body mark := by
  have hrefl := (Keeps.refl h).lasts hfits
  have htext (s : List Char) := h.reopen.trans (h.reopen.stays.insertText s)
  cases token with
  | text s => exact (htext s).forbidFrameset.lasts hfits
  | blanks s => exact (htext s).lasts hfits
  | comment s => exact (h.insertComment s).lasts hfits
  | start tag => exact h.bodyStart hfits
  | close name =>
      have hafter : { b with mode := .afterBody }.Lasts html body mark := ⟨h, .settled trivial⟩
      refine .ite (fun _ => Lasts.ite (fun _ => hafter) fun _ => hrefl) fun hbody => ?_
      refine .ite (fun _ => .ite (fun _ => hafter) fun _ => hrefl) fun hhtml => ?_
      by_cases htemplate : name = "template"
      · rw [Builder.elementClose, if_pos htemplate]
        exact hrefl.closeTemplate
      -- A part may close here, and then the mode fits only because it fits any parts.
      by_cases hpart : name ∈ partNames
      · rw [elementClose_part b name hpart htemplate]
        have hclosed := h.closeAny_part name hpart
        exact hclosed.1.lasts fun part => hclosed.2 ▸ hclose name hpart htemplate rfl part
      · exact (h.elementClose name (by simp [hbody, hhtml, hpart])).lasts hfits
  | stop => exact .ite (fun _ => hrefl) fun _ => hrefl.endInTemplate
  | _ => exact hrefl

end Builder

end Html

end CiteRender
