import CiteRender.Proofs.Html.Lasting.Body

/-!
# A Marked Body under the Rules for Tables

The rules for tables close elements up to a part of the table that has to be
open, and open the next part in it or go on in the mode for what that part
stands in. As the parts stand in each other as they should, the new mode fits
again.

## Theorems

* `Builder.Stays.closeToContext`: Closing elements up to the innermost part.
* `Builder.Stays.closePart`, `Builder.Stays.closeContext`: Closing a part.
* `Builder.Stays.inTable`, `Builder.Stays.inTableBody`, ...: What the rules keep.
-/

namespace CiteRender

namespace Html

namespace Builder

variable {html body : Nat} {mark : String} {b b' : Builder} {tag : StartTag}

/-! Parts. -/

theorem exists_of_reaches (bounds : Tag → Bool) (p : Nat → Bool) (opened : List Nat)
    (h : b.reaches bounds p opened = true) : ∃ x ∈ opened, p x = true := by
  induction opened with
  | nil => simp [reaches] at h
  | cons x opened ih =>
      rw [reaches, Bool.or_eq_true, Bool.and_eq_true] at h
      rcases h with hx | ⟨-, hrest⟩
      · exact ⟨x, List.mem_cons_self, hx⟩
      · rcases ih hrest with ⟨y, hy, hpy⟩
        exact ⟨y, List.mem_cons_of_mem _ hy, hpy⟩

theorem reaches_of_append (bounds : Tag → Bool) (p : Nat → Bool) (before rest : List Nat)
    (hbefore : ∀ y ∈ before, p y = false) (h : b.reaches bounds p (before ++ rest) = true) :
    b.reaches bounds p rest = true := by
  induction before with
  | nil => exact h
  | cons y before ih =>
      rw [List.forall_mem_cons] at hbefore
      rw [List.cons_append, reaches, hbefore.1, Bool.false_or, Bool.and_eq_true] at h
      exact ih hbefore.2 h.2

/-- The open elements up to the innermost part. -/
theorem Stays.part_split (h : b.Stays html body mark) (t : Tag) (ht : t ∈ b.innermost) :
    ∃ before x after, b.opened = before ++ x :: after ∧ b.tag x = t ∧ isPart t = true ∧
      ∀ y ∈ before, isLoose (b.tag y) = true := by
  rw [Option.mem_def, innermost, List.find?_map, Option.map_eq_some_iff] at ht
  rcases ht with ⟨x, hfound, rfl⟩
  rw [List.find?_eq_some_iff_append] at hfound
  rcases hfound with ⟨hpart, before, after, hsplit, hbefore⟩
  refine ⟨before, x, after, hsplit, rfl, hpart, fun y hy => ?_⟩
  -- Nothing before the innermost part is a part, and all of it is inside the body.
  have hinside := h.inside_before before after x hsplit (isInside_of_isPart _ hpart) y hy
  exact (isLoose_or_isPart _ hinside).resolve_right (by simpa using hbefore y hy)

/-- A loose tag has none of the names that tables look for. -/
theorem not_isOneOf_of_isLoose (t : Tag) (names : List String)
    (hnames : ∀ n ∈ names, n ∈ "html" :: "body" :: partNames) (h : isLoose t = true) :
    t.isOneOf names = false := by
  rw [← Bool.not_eq_true]
  intro hone
  rw [isLoose, isOneOf_mono t hnames hone] at h
  exact absurd h (by simp)

/-- Closing elements up to the innermost part. -/
theorem Stays.closeToContext (h : b.Stays html body mark) (names : List String)
    (hnames : ∀ n ∈ names, n ∈ "html" :: "body" :: partNames) (t : Tag) (ht : t ∈ b.innermost)
    (hone : t.isOneOf names = true) :
    Keeps html body mark b (b.closeToContext names) ∧
      ∃ x after, (b.closeToContext names).opened = x :: after ∧
        (b.closeToContext names).tag x = t := by
  rcases h.part_split t ht with ⟨before, x, after, hsplit, hx, -, hbefore⟩
  have hdrop : b.opened.dropWhile (fun id => !(b.tag id).isOneOf names) = x :: after := by
    rw [hsplit, List.dropWhile_append_of_pos, List.dropWhile_cons_of_neg]
    · simp [hx, hone]
    · intro y hy
      simp [not_isOneOf_of_isLoose _ names hnames (hbefore y hy)]
  rw [Builder.closeToContext, hdrop]
  exact ⟨h.trim before _ hsplit hbefore, x, after, rfl, hx⟩

/-- What a part stands in is the innermost part when it is closed. -/
theorem mem_find?_of_standsIn (t : Tag) (tags : List Tag) (names parts : List String)
    (ht : t.isOneOf names = true) (hholders : ∀ n ∈ names, holders n = parts) (hparts : parts ≠ [])
    (hstands : StandsIn t tags.head?) : ∃ outer ∈ tags.find? isPart, outer.isOneOf parts = true := by
  rw [isOneOf_iff] at ht
  have hname := hholders _ ht.2
  rcases hstands ht.1 (hname ▸ hparts) with ⟨outer, houter, hone⟩
  have hpart : isPart outer = true :=
    isOneOf_mono outer (fun n hn => (mem_partNames_of_holders _ n hn).2) hone
  exact ⟨outer, find?_of_head? tags outer houter hpart, hname ▸ hone⟩

/-- Closing a part of some names with all inside it. -/
theorem Stays.closePart (h : b.Stays html body mark) (names parts : List String) (mode : Mode)
    (hnames : ∀ n ∈ names, n ∈ partNames ∧ n ∉ impliedNames ∧ holders n = parts)
    (hparts : parts ≠ [])
    (hmode : ∀ part, (∃ t ∈ part, Tag.isOneOf t parts = true) → FitsIn mode part)
    (hopen : ∃ x ∈ b.opened, (b.tag x).isOneOf names = true) :
    { ((b.closeImplied impliedNames).closeUntil names).clearToMarker with mode }.Lasts
      html body mark := by
  have himplied := (h.closeImplied _ looseNames_implied).stays
  have hclosed := himplied.closeUntil_part names (fun n hn => (hnames n hn).1)
    (exists_closeImplied _ _ (fun n hn => (hnames n hn).2.1) hopen)
  generalize (b.closeImplied impliedNames).closeUntil names = b' at hclosed ⊢
  rcases hclosed with ⟨hstays, t, ht, hstands⟩
  have hfits := mem_find?_of_standsIn t _ names parts ht (fun n hn => (hnames n hn).2.2) hparts hstands
  exact ⟨hstays.clearToMarker.stays, .settled (hmode _ hfits)⟩

/-- A part in reach is not a template. -/
theorem Stays.not_template (h : b.Stays html body mark) (names : List String)
    (hnames : ∀ n ∈ names, n ∈ partNames ∧ n ≠ "template") (t : Tag) (ht : t ∈ b.innermost)
    (hscope : b.inScope tableBounds names = true) : t.isOneOf ["template"] = false := by
  rcases h.part_split t ht with ⟨before, x, after, hsplit, hx, -, hbefore⟩
  rw [← Bool.not_eq_true]
  intro htemplate
  rw [inScope, hsplit] at hscope
  -- The search comes to the template, where it has to end without a result.
  have hreach := reaches_of_append _ _ before _ (fun y hy => not_isOneOf_of_isLoose _ _
    (fun n hn => List.mem_cons_of_mem _ (List.mem_cons_of_mem _ (hnames n hn).1))
    (hbefore y hy)) hscope
  have hbound : tableBounds (b.tag x) = true :=
    hx ▸ isOneOf_mono t (by decide) htemplate
  have hother : (b.tag x).isOneOf names = false := by
    rw [← Bool.not_eq_true, hx, isOneOf_iff, not_and]
    rw [isOneOf_iff, List.mem_singleton] at htemplate
    exact fun _ hmem => (hnames _ hmem).2 htemplate.2
  rw [reaches, hbound, hother] at hreach
  exact absurd hreach (by simp)

/-- Closing the innermost part. -/
theorem Stays.closeContext (h : b.Stays html body mark) (context names parts : List String)
    (mode : Mode) (hcontext : ∀ n ∈ context, n ∈ "html" :: "body" :: partNames)
    (hnames : ∀ n ∈ names, n ∈ context ∧ holders n = parts) (hparts : parts ≠ [])
    (hmode : ∀ part, (∃ t ∈ part, Tag.isOneOf t parts = true) → FitsIn mode part)
    (t : Tag) (ht : t ∈ b.innermost) (hone : t.isOneOf names = true) :
    { (b.closeToContext context).pop with mode }.Lasts html body mark := by
  have hclosed := h.closeToContext context hcontext t ht
    (isOneOf_mono t (fun n hn => (hnames n hn).1) hone)
  generalize b.closeToContext context = b' at hclosed ⊢
  rcases hclosed with ⟨hkeeps, x, after, hopened, hx⟩
  have hnested : Nested (b'.opened.map b'.tag) := hkeeps.stays.nested
  have hpart := h.part_split t ht
  rw [hopened] at hnested
  rw [Builder.pop, hopened, List.drop_one, List.tail_cons]
  -- What the part stands in comes next on the stack, and the mode is the one for that.
  have hfits := mem_find?_of_standsIn t _ names parts hone (fun n hn => (hnames n hn).2) hparts
    (hx ▸ hnested.1)
  refine ⟨hkeeps.stays.drop_inside [] after x hopened ?_, .settled (hmode _ hfits)⟩
  rcases hpart with ⟨-, -, -, -, -, hpart, -⟩
  exact hx ▸ isInside_of_isPart _ hpart

/-- Opening a part in the innermost one, with markers or not. -/
theorem Stays.openPart (h : b.Stays html body mark) (name : String) (attributes : List Attribute)
    (hname : name ∈ partNames) (x : Nat) (after : List Nat) (hopened : b.opened = x :: after)
    (hholds : (b.tag x).isOneOf (holders name) = true) :
    (b.openElement (.html name) attributes).1.Stays html body mark ∧
      (b.openElement (.html name) attributes).1.innermost = some (.html name) := by
  refine h.insert_part name attributes hname fun _ _ => ⟨b.tag x, ?_, hholds⟩
  rw [hopened]
  rfl

/-- Closing elements up to the innermost part, which bounds the others of some
    kinds. -/
theorem Stays.toContext (h : b.Stays html body mark) (parts : List String)
    (hparts : ∀ n ∈ parts, n ∈ partNames)
    (hfits : ∃ t ∈ b.innermost, t.isOneOf parts = true) :
    (b.closeToContext (parts ++ ["html"])).Stays html body mark ∧
      ∃ x after, (b.closeToContext (parts ++ ["html"])).opened = x :: after ∧
        ((b.closeToContext (parts ++ ["html"])).tag x).isOneOf parts = true := by
  rcases hfits with ⟨t, ht, hone⟩
  have hclosed := h.closeToContext (parts ++ ["html"]) (fun n hn => ?_) t ht
    (isOneOf_mono t (fun n hn => List.mem_append_left _ hn) hone)
  · rcases hclosed.2 with ⟨x, after, hopened, hx⟩
    exact ⟨hclosed.1.stays, x, after, hopened, hx ▸ hone⟩
  · rcases List.mem_append.mp hn with hn | hn
    · exact List.mem_cons_of_mem _ (List.mem_cons_of_mem _ (hparts n hn))
    · exact List.mem_singleton.mp hn ▸ List.mem_cons_self

/-- Opening a part in the innermost one, which it may stand in. -/
theorem Stays.openInContext (h : b.Stays html body mark) (parts : List String)
    (hfits : ∃ t ∈ b.innermost, t.isOneOf parts = true) (start : StartTag)
    (hname : start.name ∈ partNames) (hholders : holders start.name = parts) :
    ((b.closeToContext (parts ++ ["html"])).insert start).Stays html body mark ∧
      ((b.closeToContext (parts ++ ["html"])).insert start).innermost =
        some (.html start.name) := by
  rcases h.toContext parts (fun n hn => (mem_partNames_of_holders _ n (hholders ▸ hn)).2) hfits with
    ⟨hstays, x, after, hopened, hx⟩
  exact hstays.openPart start.name (plainAttributes start) hname x after hopened (hholders ▸ hx)

/-- The mode after a part was opened. -/
theorem Stays.lasts_of_innermost (h : b.Stays html body mark) (name : String) (mode : Mode)
    (hinnermost : b.innermost = some (.html name)) (hmode : FitsIn mode (some (.html name))) :
    { b with mode }.Lasts html body mark := by
  rw [← hinnermost] at hmode
  exact ⟨h, .settled hmode⟩

/-! In front of a table. -/

theorem Lasts.withFostering (h : b.Lasts html body mark) (fostering : Bool) :
    { b with fostering }.Lasts html body mark :=
  ⟨h.stays, h.fits.congr rfl rfl rfl rfl⟩

theorem Stays.fosterInBody (h : b.Stays html body mark) (hfits : FitsIn b.mode b.innermost)
    (token : Token) (hclose : ∀ name ∈ partNames, token ≠ .close name) :
    (b.fosterInBody token).Lasts html body mark := by
  have hbody := Stays.inBody (b := { b with fostering := true }) h hfits token
    fun name hname _ htoken => absurd htoken (hclose name hname)
  rw [Builder.fosterInBody]
  generalize Builder.inBody { b with fostering := true } token = outcome at hbody ⊢
  cases outcome with
  | done b => exact Lasts.withFostering hbody false
  | again b => exact Lasts.withFostering hbody false

theorem Stays.textInTable (h : b.Stays html body mark) (hfits : FitsIn b.mode b.innermost)
    (token : Token) (hclose : ∀ name ∈ partNames, token ≠ .close name) :
    (b.textInTable token).Lasts html body mark := by
  refine .ite (fun _ => ⟨?_, .inTableText rfl hfits⟩) fun _ => h.fosterInBody hfits token hclose
  exact ⟨h.nodes, h.opened, h.present, h.nested, h.formatting, h.form, h.frameset, h.templates,
    fun t ht => absurd ht List.not_mem_nil⟩

/-! Tables. -/

theorem Stays.closeTable (h : b.Stays html body mark) (hscope : b.inScope tableBounds ["table"] = true) :
    (b.closeUntil ["table"]).resetMode.Lasts html body mark :=
  (h.closeUntil_part ["table"] (by decide) (exists_of_reaches _ _ _ hscope)).1.resetMode

theorem Stays.openCaption (h : b.Stays html body mark) (hfits : FitsIn .inTable b.innermost)
    (htag : tag.name = "caption") :
    { b.toTable.pushMarker.insert tag with mode := .inCaption }.Lasts html body mark := by
  -- A marker goes between the table and its caption, which is no open element.
  rcases h.toContext ["table", "template"] (by decide) hfits with ⟨hstays, x, after, hopened, hx⟩
  have hopen := hstays.pushMarker.stays.openPart tag.name (plainAttributes tag)
    (by rw [htag]; decide) x after hopened (by rw [htag]; exact hx)
  exact ⟨hopen.1, .settled trivial⟩

/-- What the rules for start tags in a table keep. They also serve sections and
    rows, but for the parts of the table itself. -/
theorem Stays.tableStart (h : b.Stays html body mark) (hfits : FitsIn b.mode b.innermost)
    (htable : tag.name ∈ tablePartNames → FitsIn .inTable b.innermost) :
    (b.tableStart tag).Lasts html body mark := by
  have hrefl := (Keeps.refl h).lasts hfits
  have hopen (start : StartTag) (mode : Mode) (htable : FitsIn .inTable b.innermost)
      (hname : start.name ∈ partNames) (hholders : holders start.name = ["table", "template"])
      (hmode : FitsIn mode (some (.html start.name))) :
      { b.toTable.insert start with mode }.Lasts html body mark := by
    have hpart := h.openInContext _ htable start hname hholders
    exact hpart.1.lasts_of_innermost start.name mode hpart.2 hmode
  unfold Builder.tableStart
  -- Captions, column groups and columns; a column comes with its group.
  refine .ite (fun hname => h.openCaption (htable (by rw [hname]; decide)) hname) fun _ => ?_
  refine .ite (fun hname => hopen tag .inColumnGroup (htable (by rw [hname]; decide))
    (by rw [hname]; decide) (by rw [hname]; decide) trivial) fun _ => ?_
  refine .ite (fun hname => hopen { name := "colgroup" } .inColumnGroup
    (htable (by rw [hname]; decide)) (by decide) (by decide) trivial) fun _ => ?_
  -- Sections.
  refine .ite (fun hname => ?_) fun _ => ?_
  · have hsection := (by decide : ∀ n ∈ sectionNames, n ∈ partNames ∧ n ∈ tablePartNames ∧
      holders n = ["table", "template"] ∧ (Tag.html n).isOneOf ("template" :: sectionNames) = true)
      _ (List.contains_iff_mem.mp hname)
    exact hopen tag .inTableBody (htable hsection.2.1) hsection.1 hsection.2.2.1
      ⟨_, rfl, isOneOf_mono _ (by decide) hsection.2.2.2⟩
  -- A row or cell without a section comes with one.
  refine .ite (fun hname => ?_) fun _ => ?_
  · have hcell := (by decide : ∀ n ∈ ["td", "th", "tr"], n ∈ tablePartNames) _
      (List.contains_iff_mem.mp hname)
    exact hopen { name := "tbody" } .inTableBody (htable hcell) (by decide) (by decide)
      ⟨_, rfl, by decide⟩
  -- A table ends the one that it is in.
  refine .ite (fun _ => .ite h.closeTable fun _ => hrefl) fun _ => ?_
  -- What belongs in the head, and hidden fields.
  refine .ite (fun hname => h.inHead_start hfits ?_) fun _ => ?_
  · exact (by decide : ∀ n ∈ ["style", "script", "template"], n ∈ headNames) _
      (List.contains_iff_mem.mp hname)
  refine .ite (fun hname => (h.insertVoid tag ?_).lasts hfits) fun _ => ?_
  · rw [Bool.and_eq_true, decide_eq_true_eq] at hname
    simp [hname.1]
  -- A form is not left open, so only its number is kept.
  refine .ite (fun hname => .ite (fun _ => hrefl) fun _ => ?_) fun _ =>
    h.fosterInBody hfits (.start tag) (by simp)
  have hadd := h.addElement (.html tag.name) (plainAttributes tag) (by rw [hname]; decide)
  generalize b.addElement (.html tag.name) (plainAttributes tag) = r at hadd
  refine (hadd.1.withForm (some r.2) fun id hid => ?_).lasts hfits
  rw [← Option.some.inj hid, ← hname]
  exact ⟨hadd.2.present, hadd.2.tag_eq⟩

/-- What the rules for a table keep. They also serve sections and rows. -/
theorem Stays.inTable (h : b.Stays html body mark) (hfits : FitsIn b.mode b.innermost)
    (token : Token) (htable : ∀ tag, token = .start tag → tag.name ∈ tablePartNames →
      FitsIn .inTable b.innermost) : (b.inTable token).Lasts html body mark := by
  have hrefl := (Keeps.refl h).lasts hfits
  cases token with
  | start tag => exact h.tableStart hfits (htable tag rfl)
  | close name =>
      refine .ite (fun _ => Lasts.ite h.closeTable fun _ => hrefl) fun hname => ?_
      refine .ite (fun _ => hrefl) fun hpart => ?_
      refine .ite (fun _ => hrefl.closeTemplate) fun htemplate => ?_
      refine h.fosterInBody hfits _ fun other hother hclose => ?_
      rw [← Token.close.inj hclose] at hother
      -- An end tag that is left to the body here names no part.
      have hnames := (by decide : ∀ n ∈ partNames, n ∈ ["table", "template"] ∨
        n ∈ tablePartNames) _ hother
      simp only [Bool.or_eq_true, List.contains_iff_mem, not_or] at hpart
      simp [hname, htemplate, hpart.2] at hnames
  | comment s => exact (h.insertComment s).lasts hfits
  | stop => exact h.inBody hfits .stop (by simp)
  | _ => exact h.textInTable hfits _ (by simp)

/-! Text in a table. -/

theorem Keeps.withFostering (h : Keeps html body mark b b') (fostering : Bool) :
    Keeps html body mark b { b' with fostering } :=
  ⟨h.stays, h.extended, h.innermost, h.mode, h.returnMode⟩

theorem Stays.placeWaiting (h : b.Stays html body mark) (foster : Bool) (token : Token)
    (htoken : isCharacters token = true) : Keeps html body mark b (placeWaiting foster b token) := by
  have hfoster := (Keeps.refl h).withFostering true
  have hfostered (s : List Char) :=
    hfoster.trans (hfoster.stays.reopen.trans (hfoster.stays.reopen.stays.insertText s))
  cases token with
  | text s =>
      cases foster with
      | true => exact (hfostered s).forbidFrameset.withFostering false
      | false => exact h.insertText s
  | blanks s =>
      cases foster with
      | true => exact (hfostered s).withFostering false
      | false => exact h.insertText s
  | nul =>
      cases foster with
      | true => exact hfoster.withFostering false
      | false => exact Keeps.refl h
  | _ => exact absurd htoken (by simp [isCharacters])

theorem Stays.withWaiting (h : b.Stays html body mark) (waitingText : List Token)
    (hwaiting : ∀ t ∈ waitingText, isCharacters t = true) :
    Keeps html body mark b { b with waitingText } :=
  ⟨⟨h.nodes, h.opened, h.present, h.nested, h.formatting, h.form, h.frameset, h.templates,
    hwaiting⟩, Scaffold.extends_of_eq fun _ => rfl, rfl, rfl, rfl⟩

/-- What the rules for waiting text keep. -/
theorem Stays.inTableText (h : b.Stays html body mark) (hmode : b.mode = .inTableText)
    (hfits : FitsIn b.returnMode b.innermost) (token : Token) :
    (b.inTableText token).Lasts html body mark := by
  have hwait (htoken : isCharacters token = true) :
      { b with waitingText := token :: b.waitingText }.Lasts html body mark :=
    ⟨(h.withWaiting _ (List.forall_mem_cons.mpr ⟨htoken, h.waiting⟩)).stays,
      .inTableText hmode hfits⟩
  have hplaced (foster : Bool) : Keeps html body mark b (b.waitingText.reverse.foldl
      (Builder.placeWaiting foster) { b with waitingText := [] }) := by
    refine List.foldlRecOn _ _ (h.withWaiting [] (by simp)) fun b' hb' t ht => ?_
    exact hb'.trans (hb'.stays.placeWaiting foster t (h.waiting t (List.mem_reverse.mp ht)))
  -- All that waits is put into the tree before the token is read in the mode before.
  have hgoOn (foster : Bool) : Outcome.Lasts html body mark (goOn (b.waitingText.reverse.foldl
      (Builder.placeWaiting foster) { b with waitingText := [] })
      (b.waitingText.reverse.foldl (Builder.placeWaiting foster)
        { b with waitingText := [] }).returnMode) := by
    have hkeeps := hplaced foster
    generalize List.foldl _ _ _ = b' at hkeeps ⊢
    refine ⟨hkeeps.stays, .settled ?_⟩
    rw [← hkeeps.returnMode, ← hkeeps.innermost] at hfits
    exact hfits
  cases token with
  | nul => exact ⟨h, .inTableText hmode hfits⟩
  | blanks s => exact hwait rfl
  | text s => exact hwait rfl
  | _ => exact hgoOn _

/-! Captions, columns, sections, rows and cells. -/

theorem Stays.closeCaption (h : b.Stays html body mark)
    (hscope : b.inScope tableBounds ["caption"] = true) : b.closeCaption.Lasts html body mark :=
  h.closePart ["caption"] ["table", "template"] .inTable (by decide) (by decide) (fun _ h => h)
    (exists_of_reaches _ _ _ hscope)

theorem Stays.inCaption (h : b.Stays html body mark) (hmode : b.mode = .inCaption) (token : Token) :
    (b.inCaption token).Lasts html body mark := by
  have hfree (part : Option Tag) : FitsIn b.mode part := hmode ▸ trivial
  have hrefl := h.lasts hfree
  have hbody := h.inBody (hfree _) token fun _ _ _ _ => hfree
  cases token with
  | start tag => exact .ite (fun _ => .ite h.closeCaption fun _ => hrefl) fun _ => hbody
  | close name =>
      refine .ite (fun _ => Lasts.ite h.closeCaption fun _ => hrefl) fun _ => ?_
      refine .ite (fun _ => .ite h.closeCaption fun _ => hrefl) fun _ => ?_
      exact .ite (fun _ => hrefl) fun _ => hbody
  | _ => exact hbody

theorem Stays.closeColumnGroup (h : b.Stays html body mark)
    (hcurrent : b.currentTag.isNamed "colgroup" = true) :
    { b.pop with mode := .inTable }.Lasts html body mark := by
  have hone : b.currentTag.isOneOf ["colgroup"] = true := (isOneOf_singleton _ _).trans hcurrent
  rcases h.opened with ⟨inner, hopened, -⟩
  cases inner with
  | nil =>
      have hbody : b.currentTag = .html "body" := by
        rw [currentTag, current, hopened]
        exact h.nodes.tag_body
      rw [hbody] at hone
      exact absurd hone (by decide)
  | cons x inner =>
      have hx : b.currentTag = b.tag x := by
        rw [currentTag, current, hopened]
        rfl
      rw [hx] at hone
      -- Nothing closes on the way to the column group.
      have hcontext : b.closeToContext ["colgroup"] = b := by
        rw [Builder.closeToContext, hopened, List.cons_append,
          List.dropWhile_cons_of_neg (by simp [hone]), ← List.cons_append, ← hopened]
      have hinnermost : b.tag x ∈ b.innermost := by
        rw [innermost, hopened, List.cons_append, List.map_cons]
        exact List.find?_cons_of_pos (isOneOf_mono _ (by decide) hone)
      have hclosed := h.closeContext ["colgroup"] ["colgroup"] ["table", "template"] .inTable
        (by decide) (by decide) (by decide) (fun _ h => h) _ hinnermost hone
      rwa [hcontext] at hclosed

theorem Stays.inColumnGroup (h : b.Stays html body mark) (hmode : b.mode = .inColumnGroup)
    (token : Token) : (b.inColumnGroup token).Lasts html body mark := by
  have hfree (part : Option Tag) : FitsIn b.mode part := hmode ▸ trivial
  have hrefl := h.lasts hfree
  have hleave : b.leaveColumnGroup.Lasts html body mark :=
    .ite h.closeColumnGroup fun _ => hrefl
  cases token with
  | blanks s => exact (h.insertText s).lasts (hfree _)
  | comment s => exact (h.insertComment s).lasts (hfree _)
  | start tag =>
      refine .ite (fun _ => h.inBody (hfree _) _ (by simp)) fun _ => ?_
      refine .ite (fun hname => (h.insertVoid tag (by simp [hname])).lasts (hfree _)) fun _ => ?_
      refine .ite (fun hname => h.inHead_start (hfree _) (by rw [hname]; decide)) fun _ => hleave
  | close name =>
      refine .ite (fun _ => Lasts.ite h.closeColumnGroup fun _ => hrefl) fun _ => ?_
      exact .ite (fun _ => hrefl) fun _ => .ite (fun _ => hrefl.closeTemplate) fun _ => hleave
  | stop => exact h.inBody (hfree _) .stop (by simp)
  | _ => exact hleave

/-- The innermost part is closed if it is in reach, and so not a template. -/
theorem Stays.closeReachedContext (h : b.Stays html body mark) (context names parts found : List String)
    (mode : Mode) (hcontext : ∀ n ∈ context, n ∈ "html" :: "body" :: partNames)
    (hnames : ∀ n ∈ names, n ∈ context ∧ holders n = parts) (hparts : parts ≠ [])
    (hmode : ∀ part, (∃ t ∈ part, Tag.isOneOf t parts = true) → FitsIn mode part)
    (hfound : ∀ n ∈ found, n ∈ partNames ∧ n ≠ "template")
    (hfits : ∃ t ∈ b.innermost, t.isOneOf (names ++ ["template"]) = true)
    (hscope : b.inScope tableBounds found = true) :
    { (b.closeToContext context).pop with mode }.Lasts html body mark := by
  rcases hfits with ⟨t, ht, hone⟩
  have hother := h.not_template found hfound t ht hscope
  refine h.closeContext context names parts mode hcontext hnames hparts hmode t ht ?_
  rw [← Bool.not_eq_true, isOneOf_iff] at hother
  rw [isOneOf_iff] at hone ⊢
  exact ⟨hone.1, (List.mem_append.mp hone.2).resolve_right fun hn => hother ⟨hone.1, hn⟩⟩

theorem Stays.closeSection (h : b.Stays html body mark) (hfits : FitsIn .inTableBody b.innermost)
    (found : List String) (hfound : ∀ n ∈ found, n ∈ partNames ∧ n ≠ "template")
    (hscope : b.inScope tableBounds found = true) :
    { b.toSection.pop with mode := .inTable }.Lasts html body mark :=
  h.closeReachedContext _ sectionNames ["table", "template"] found .inTable (by decide) (by decide)
    (by decide) (fun _ h => h) hfound hfits hscope

theorem Stays.inTableBody (h : b.Stays html body mark) (hmode : b.mode = .inTableBody)
    (hfits : FitsIn .inTableBody b.innermost) (token : Token) :
    (b.inTableBody token).Lasts html body mark := by
  have hsettled : FitsIn b.mode b.innermost := hmode ▸ hfits
  have hrefl := (Keeps.refl h).lasts hsettled
  have htable := h.inTable hsettled token
  have hleave : b.leaveSection.Lasts html body mark :=
    .ite (h.closeSection hfits _ (by decide)) fun _ => hrefl
  have hopen (start : StartTag) (hname : start.name = "tr") :
      { b.toSection.insert start with mode := .inRow }.Lasts html body mark := by
    have hpart := h.openInContext ["tbody", "tfoot", "thead", "template"] hfits start
      (by rw [hname]; decide) (by rw [hname]; decide)
    exact hpart.1.lasts_of_innermost start.name _ hpart.2 (hname ▸ ⟨_, rfl, by decide⟩)
  cases token with
  | start tag =>
      refine .ite (hopen tag) fun hrow => ?_
      refine .ite (fun _ => hopen { name := "tr" } rfl) fun hcell => ?_
      refine .ite (fun _ => hleave) fun hpart => ?_
      -- What is left to the table is no part that stands in a table.
      refine htable fun other hother hname => ?_
      rw [← Token.start.inj hother] at hname
      have hnames := (by decide : ∀ n ∈ tablePartNames, n = "tr" ∨ n ∈ ["th", "td"] ∨
        n ∈ ["caption", "col", "colgroup"] ++ sectionNames) _ hname
      rw [List.contains_iff_mem] at hcell hpart
      exact absurd hnames (by tauto)
  | close name =>
      refine .ite (fun hname => Lasts.ite (h.closeSection hfits [name] ?_) fun _ => hrefl) fun _ => ?_
      · exact fun n hn => List.mem_singleton.mp hn ▸
          (by decide : ∀ n ∈ sectionNames, n ∈ partNames ∧ n ≠ "template") _
            (List.contains_iff_mem.mp hname)
      refine .ite (fun _ => hleave) fun _ => .ite (fun _ => hrefl) fun _ => ?_
      exact htable (by simp)
  | _ => exact htable (by simp)

theorem Stays.closeRow (h : b.Stays html body mark) (hfits : FitsIn .inRow b.innermost)
    (hscope : b.inScope tableBounds ["tr"] = true) : b.closeRow.Lasts html body mark :=
  h.closeReachedContext _ ["tr"] ["tbody", "tfoot", "thead", "template"] ["tr"] .inTableBody
    (by decide) (by decide) (by decide) (fun _ h => h) (by decide) hfits hscope

theorem Stays.inRow (h : b.Stays html body mark) (hmode : b.mode = .inRow)
    (hfits : FitsIn .inRow b.innermost) (token : Token) : (b.inRow token).Lasts html body mark := by
  have hsettled : FitsIn b.mode b.innermost := hmode ▸ hfits
  have hrefl := (Keeps.refl h).lasts hsettled
  have htable := h.inTable hsettled token
  have hleave : b.leaveRow.Lasts html body mark := .ite (h.closeRow hfits) fun _ => hrefl
  cases token with
  | start tag =>
      refine .ite (fun hname => ?_) fun hcell => ?_
      · have hcell := (by decide : ∀ n ∈ ["th", "td"], n ∈ partNames ∧
          holders n = ["tr", "template"] ∧ n ∈ ["td", "th"]) _ (List.contains_iff_mem.mp hname)
        have hpart := h.openInContext ["tr", "template"] hfits tag hcell.1 hcell.2.1
        exact hpart.1.pushMarker.stays.lasts_of_innermost tag.name .inCell hpart.2
          ⟨_, rfl, (isOneOf_iff _ _).mpr ⟨rfl, hcell.2.2⟩⟩
      refine .ite (fun _ => hleave) fun hpart => ?_
      -- What is left to the table is no part that stands in a table.
      refine htable fun other hother hname => ?_
      rw [← Token.start.inj hother] at hname
      have hnames := (by decide : ∀ n ∈ tablePartNames, n ∈ ["th", "td"] ∨
        n ∈ ["caption", "col", "colgroup", "tr"] ++ sectionNames) _ hname
      rw [List.contains_iff_mem] at hcell hpart
      exact absurd hnames (by tauto)
  | close name =>
      refine .ite (fun _ => Lasts.ite (h.closeRow hfits) fun _ => hrefl) fun _ => ?_
      refine .ite (fun _ => hleave) fun _ => .ite (fun _ => .ite (fun _ => hleave) fun _ => hrefl)
        fun _ => .ite (fun _ => hrefl) fun _ => ?_
      exact htable (by simp)
  | _ => exact htable (by simp)

theorem Stays.closeCells (h : b.Stays html body mark) (names : List String)
    (hnames : ∀ n ∈ names, n ∈ ["td", "th"])
    (hopen : ∃ x ∈ b.opened, (b.tag x).isOneOf names = true) :
    { ((b.closeImplied impliedNames).closeUntil names).clearToMarker with mode := .inRow }.Lasts
      html body mark :=
  h.closePart names ["tr", "template"] .inRow
    (fun n hn => (by decide : ∀ n ∈ ["td", "th"], n ∈ partNames ∧ n ∉ impliedNames ∧
      holders n = ["tr", "template"]) n (hnames n hn)) (by decide) (fun _ h => h) hopen

theorem Stays.inCell (h : b.Stays html body mark) (hmode : b.mode = .inCell)
    (hfits : FitsIn .inCell b.innermost) (token : Token) : (b.inCell token).Lasts html body mark := by
  have hsettled : FitsIn b.mode b.innermost := hmode ▸ hfits
  have hrefl := (Keeps.refl h).lasts hsettled
  have hbody := h.inBody hsettled token
  -- The mode says that a cell is the innermost part, so one is open.
  have hcell : ∃ x ∈ b.opened, (b.tag x).isOneOf ["td", "th"] = true := by
    rcases hfits with ⟨t, ht, hone⟩
    rcases h.part_split t ht with ⟨before, x, after, hsplit, rfl, -, -⟩
    exact ⟨x, by simp [hsplit], hone⟩
  cases token with
  | start tag =>
      exact .ite (fun _ => .ite (fun _ => h.closeCells _ (by simp) hcell) fun _ => hrefl)
        fun _ => hbody (by simp)
  | close name =>
      refine .ite (fun hname => .ite (fun hscope => h.closeCells [name] ?_
        (exists_of_reaches _ _ _ hscope)) fun _ => hrefl) fun hcells => ?_
      · exact fun n hn => List.mem_singleton.mp hn ▸ List.contains_iff_mem.mp hname
      refine .ite (fun _ => hrefl) fun hignored => ?_
      refine .ite (fun _ => .ite (fun _ => h.closeCells _ (by simp) hcell) fun _ => hrefl)
        fun htable => hbody fun other hother htemplate hclose => ?_
      rw [← Token.close.inj hclose] at hother htemplate
      -- An end tag that is left to the body here names no part.
      have hnames := (by decide : ∀ n ∈ partNames, n = "template" ∨ n ∈ ["td", "th"] ∨
        n ∈ ["body", "caption", "col", "colgroup", "html"] ∨
        n ∈ "table" :: "tr" :: sectionNames) _ hother
      rw [List.contains_iff_mem] at hcells hignored htable
      exact absurd hnames (by tauto)
  | _ => exact hbody (by simp)

end Builder

end Html

end CiteRender
