import CiteRender.Proofs.Html.Lasting.Operations
import CiteRender.Proofs.Html.Origin.Operations

/-!
# A Marked Body and Formatting

Formatting elements are opened again in new places, and where their tags cross
those of blocks they are copied and what they hold is moved. All of this happens
to elements that no rule for tables looks for: the formatting element, and those
open inside it, which cannot be parts as these would bound its reach. So the body
stays where it is, with its mark, and the parts of tables keep their order.

A split creates elements and closes others in one go, and no state in between is
like the one before. What is carried along is therefore that each of the elements
concerned may be opened again, which only asks for its tag.

## Main definitions

* `Html.Builder.SplitStays`: What holds between two steps of a split.
* `Html.Builder.IsOpenable`: An open element that may be opened again elsewhere.

## Theorems

* `Builder.Stays.reopen`, `Builder.Stays.openFormatting`: Opening formatting
  elements.
* `Builder.Stays.closeAny`: Closing the innermost element of a name.
* `Builder.Stays.splitAround`, `Builder.Stays.closeFormatting`: Closing formatting
  elements that cross a block.
-/

namespace CiteRender

namespace Html

theorem openable_of_entry (name : String) (h : name ∈ entryNames) :
    Builder.Openable (.html name) :=
  Builder.openable_html name
    ((by decide : ∀ n ∈ entryNames, n ∉ Builder.fixedNames) name h)

theorem IsEntry.isLoose {tree : Scaffold} {id : Nat} {start : StartTag}
    (h : IsEntry tree id start) : isLoose (tree.tag id) = true := by
  rw [h.tag]
  exact (openable_of_entry _ h.named).loose

namespace Builder

variable {html body : Nat} {mark : String} {b : Builder}

theorem Stays.withFormatting (h : b.Stays html body mark) (entries : List Formatting)
    (hentries : ∀ id start, .element id start ∈ entries → IsEntry b.nodes id start) :
    Keeps html body mark b { b with formatting := entries } :=
  ⟨⟨h.nodes, h.opened, h.present, h.nested, hentries, h.form, h.frameset, h.templates, h.waiting⟩,
    Scaffold.extends_of_eq fun _ => rfl, rfl, rfl, rfl⟩

theorem Stays.removeFormatting (h : b.Stays html body mark) (id : Nat) :
    Keeps html body mark b (b.removeFormatting id) :=
  h.withFormatting _ fun id start hentry => h.formatting id start (List.mem_of_mem_filter hentry)

theorem Stays.clearToMarker (h : b.Stays html body mark) :
    Keeps html body mark b b.clearToMarker :=
  h.withFormatting _ fun id start hentry => h.formatting id start
    ((List.dropWhile_sublist _).subset ((List.drop_sublist _ _).subset hentry))

theorem Stays.pushMarker (h : b.Stays html body mark) : Keeps html body mark b b.pushMarker :=
  h.withFormatting _ fun id start hentry => h.formatting id start
    ((List.mem_cons.mp hentry).resolve_left (by simp))

/-- A new element of a tag that stands on the list of formatting elements. -/
theorem IsNew.isEntry {start : StartTag} {r : Builder × Nat}
    (h : IsNew html body (.html start.name) r) (hname : start.name ∈ entryNames) :
    IsEntry r.1.nodes r.2 start :=
  ⟨h.present, h.tag_eq, hname⟩

/-- Entries with the names of formatting elements. -/
def NamedEntries (entries : List Formatting) : Prop :=
  ∀ id start, .element id start ∈ entries → start.name ∈ entryNames

theorem Stays.reopenAll (entries : List Formatting) :
    ∀ {b : Builder}, b.Stays html body mark → NamedEntries entries →
      Keeps html body mark b (b.reopenAll entries).1 ∧
        ∀ id start, .element id start ∈ (b.reopenAll entries).2 →
          IsEntry (b.reopenAll entries).1.nodes id start := by
  induction entries with
  | nil => exact fun h _ => ⟨Keeps.refl h, fun _ _ hentry => absurd hentry List.not_mem_nil⟩
  | cons entry entries ih =>
      intro b h hnamed
      have hrest : NamedEntries entries := fun id start hentry =>
        hnamed id start (List.mem_cons_of_mem _ hentry)
      cases entry with
      | marker => exact ih h hrest
      | element id start =>
          have hname := hnamed id start List.mem_cons_self
          have hopen := h.openElement _ (plainAttributes start) (openable_of_entry _ hname)
          -- What is opened later goes on top, and the new entries of the rest come first.
          have hmore := ih hopen.1.stays hrest
          refine ⟨hopen.1.trans hmore.1, fun id' start' hentry => ?_⟩
          rcases List.mem_append.mp hentry with hentry | hentry
          · exact hmore.2 id' start' hentry
          · rw [List.mem_singleton, Formatting.element.injEq] at hentry
            rw [hentry.1, hentry.2]
            exact (hopen.2.isEntry hname).mono hmore.1.extended

theorem Stays.reopen (h : b.Stays html body mark) : Keeps html body mark b b.reopen := by
  rw [Builder.reopen]
  refine Keeps.ite (fun _ => Keeps.refl h) fun _ => ?_
  have hall := Stays.reopenAll (b.formatting.takeWhile fun entry => !b.isSettled entry).reverse h
    fun id start hentry => (h.formatting id start
      ((List.takeWhile_sublist _).subset (List.mem_reverse.mp hentry))).named
  refine hall.1.trans (hall.1.stays.withFormatting _ fun id start hentry => ?_)
  rcases List.mem_append.mp hentry with hentry | hentry
  · exact hall.2 id start hentry
  · exact (h.formatting id start ((List.dropWhile_sublist _).subset hentry)).mono hall.1.extended

theorem Stays.openFormatting (h : b.Stays html body mark) (start : StartTag)
    (hname : start.name ∈ entryNames) : Keeps html body mark b (b.openFormatting start) := by
  have hopen := h.openElement _ (plainAttributes start) (openable_of_entry _ hname)
  refine hopen.1.trans (hopen.1.stays.withFormatting _ fun id other hentry => ?_)
  rcases b.mem_openFormatting start _ hentry with heq | hold
  · rw [(Formatting.element.inj heq).1, (Formatting.element.inj heq).2]
    exact hopen.2.isEntry hname
  · exact (h.formatting id other hold).mono hopen.1.extended

/-! Closing by a plain end tag. -/

theorem isOneOf_singleton (tag : Tag) (name : String) : tag.isOneOf [name] = tag.isNamed name := by
  rw [Bool.eq_iff_iff, isOneOf_iff, List.mem_singleton, Tag.isNamed, Bool.and_eq_true,
    decide_eq_true_eq, decide_eq_true_eq]

theorem isLoose_of_not_isSpecial (tag : Tag) (h : isSpecial tag = false) : isLoose tag = true := by
  rw [isLoose, Bool.not_eq_true', ← Bool.not_eq_true]
  intro hfixed
  have hspecial := isOneOf_mono tag
    (by decide : ∀ n ∈ "html" :: "body" :: partNames, n ∈ specialNames) hfixed
  rw [isSpecial, hspecial] at h
  exact absurd h (by simp)

theorem findPlain_split (name : String) (opened : List Nat) (h : b.findPlain name opened = true) :
    ∃ before x after, opened = before ++ x :: after ∧
      (∀ y ∈ before, isLoose (b.tag y) = true) ∧ (b.tag x).isOneOf [name] = true := by
  induction opened with
  | nil => simp [findPlain] at h
  | cons x opened ih =>
      rw [findPlain, Bool.or_eq_true, Bool.and_eq_true, Bool.not_eq_true'] at h
      rcases h with hx | ⟨hspecial, hrest⟩
      · exact ⟨[], x, opened, rfl, by simp, by rwa [isOneOf_singleton]⟩
      · rcases ih hrest with ⟨before, y, after, rfl, hbefore, hy⟩
        exact ⟨x :: before, y, after, rfl,
          List.forall_mem_cons.mpr ⟨isLoose_of_not_isSpecial _ hspecial, hbefore⟩, hy⟩

theorem Stays.closeAny (h : b.Stays html body mark) (name : String)
    (hname : name ∉ "html" :: "body" :: partNames) : Keeps html body mark b (b.closeAny name) := by
  rw [Builder.closeAny]
  refine Keeps.ite (fun hfound => ?_) fun _ => Keeps.refl h
  exact h.closeUntil [name] (looseNames_singleton name hname) (findPlain_split name _ hfound)

/-! Splitting a formatting element. -/

/-- An entry that takes the place of another. -/
theorem Stays.placeEntry (h : b.Stays html body mark) (old new : Nat) (start : StartTag)
    (hnew : IsEntry b.nodes new start) (bookmark : Bookmark) :
    Keeps html body mark b
      { b with formatting := Builder.placeEntry old (.element new start) bookmark b.formatting } :=
  h.withFormatting _ fun id other hentry => by
    rcases mem_placeEntry _ _ _ _ _ hentry with heq | hold
    · rw [(Formatting.element.inj heq).1, (Formatting.element.inj heq).2]
      exact hnew
    · exact h.formatting id other hold

/-- A present element with a loose tag that may be open inside the body. -/
structure IsOpenable (b : Builder) (x : Nat) : Prop where
  present : (b.nodes.element? x).isSome
  inner : isInner (b.tag x) = true
  loose : isLoose (b.tag x) = true

theorem IsOpenable.keeps {x : Nat} {b' : Builder} (h : b.IsOpenable x)
    (hkeeps : Keeps html body mark b b') : b'.IsOpenable x := by
  have hnew := hkeeps.extended.tag_eq x h.present
  exact ⟨hnew.2, (congrArg isInner hnew.1).trans h.inner,
    (congrArg Html.isLoose hnew.1).trans h.loose⟩

theorem IsNew.isOpenable {tag : Tag} {id : Nat} (h : IsNew html body tag (b, id))
    (htag : Openable tag) : b.IsOpenable id :=
  ⟨h.present, (congrArg isInner h.tag_eq).trans htag.inner,
    (congrArg Html.isLoose h.tag_eq).trans htag.loose⟩

/-- An open element with a loose tag is inside the body. -/
theorem Stays.isOpenable (h : b.Stays html body mark) (x : Nat) (hx : x ∈ b.opened)
    (hloose : isLoose (b.tag x) = true) : b.IsOpenable x := by
  refine ⟨h.present x hx, ?_, hloose⟩
  rcases h.opened with ⟨inner, hopened, hinner⟩
  rw [hopened, List.mem_append, List.mem_cons, List.mem_singleton] at hx
  rcases hx with hx | rfl | rfl
  · exact hinner x hx
  · rw [Builder.tag, h.nodes.tag_body] at hloose
    exact absurd hloose (by decide)
  · rw [Builder.tag, h.nodes.tag_html] at hloose
    exact absurd hloose (by decide)

/-- An element that may be opened is none of those that have a fixed place. -/
theorem Stays.ne_of_isOpenable (h : b.Stays html body mark) (x : Nat) (hx : b.IsOpenable x) :
    x ≠ 0 ∧ x ≠ html ∧ x ≠ body := by
  refine ⟨?_, ?_, ?_⟩
  · rintro rfl
    have hpresent := hx.present
    rw [h.nodes.document] at hpresent
    simp at hpresent
  · rintro rfl
    exact absurd hx.loose (by rw [Builder.tag, h.nodes.tag_html]; decide)
  · rintro rfl
    exact absurd hx.loose (by rw [Builder.tag, h.nodes.tag_body]; decide)

/-- A split whose elements are loose, present, and neither the document's nor
    the body. -/
structure SplitStays (html body : Nat) (mark : String) (b : Builder) (s : Split) : Prop where
  keeps : Keeps html body mark b s.b
  opened : s.b.opened = b.opened
  between : ∀ x ∈ s.between, (s.b.nodes.element? x).isSome ∧ isInner (s.b.tag x) = true ∧
    isLoose (s.b.tag x) = true
  lastMoved : s.lastMoved ≠ html ∧ s.lastMoved ≠ body

theorem SplitStays.isOpenable {s : Split} (h : SplitStays html body mark b s) (x : Nat)
    (hx : x ∈ s.between) : s.b.IsOpenable x :=
  ⟨(h.between x hx).1, (h.between x hx).2.1, (h.between x hx).2.2⟩

/-- One more element is split: what was moved last moves into its copy. -/
theorem SplitStays.copy {s : Split} (h : SplitStays html body mark b s) (id : Nat)
    (start : StartTag) (hname : start.name ∈ entryNames) (bookmark : Bookmark)
    {r : Builder × Nat} (hr : r = s.b.createElement (.html start.name) (plainAttributes start)) :
    SplitStays html body mark b
      { b := { r.1 with
          formatting := Builder.placeEntry id (.element r.2 start) .replace r.1.formatting
          nodes := r.1.nodes.append r.2 s.lastMoved }
        between := s.between ++ [r.2], lastMoved := r.2, bookmark } := by
  have hopenable := openable_of_entry _ hname
  have hcreate : Keeps html body mark s.b r.1 ∧ IsNew html body (.html start.name) r :=
    hr ▸ h.keeps.stays.createElement _ _ hopenable.name
  have hopened : r.1.opened = s.b.opened := by rw [hr, createElement_opened]
  have happend := hcreate.1.stays.grow
    (hcreate.1.stays.nodes.append r.2 s.lastMoved h.lastMoved)
  have hentries := happend.stays.placeEntry id r.2 start
    ((hcreate.2.isEntry hname).mono happend.extended) .replace
  have hkeeps := hcreate.1.trans (happend.trans hentries)
  refine ⟨h.keeps.trans hkeeps, hopened.trans h.opened, fun x hx => ?_, hcreate.2.other⟩
  rcases List.mem_append.mp hx with hold | hnew
  · have hopen := (h.isOpenable x hold).keeps hkeeps
    exact ⟨hopen.present, hopen.inner, hopen.loose⟩
  · rw [List.mem_singleton.mp hnew]
    have hopen := (hcreate.2.keeps (happend.trans hentries)).isOpenable hopenable
    exact ⟨hopen.present, hopen.inner, hopen.loose⟩

theorem Stays.splitBetween (block : Nat) (between : List Nat) :
    ∀ (count : Nat) (s : Split), SplitStays html body mark b s →
      SplitStays html body mark b (splitBetween block count between s) := by
  induction between with
  | nil => exact fun _ _ h => h
  | cons id between ih =>
      intro count s h
      rw [Builder.splitBetween]
      split
      · exact ih _ _ h
      · next start hstart =>
          split
          · have hremove := h.keeps.stays.removeFormatting id
            exact ih _ _ ⟨h.keeps.trans hremove, h.opened, h.between, h.lastMoved⟩
          · have hentry := h.keeps.stays.formatting id start (mem_of_formattingTag? id start hstart)
            exact ih _ _ (h.copy id start hentry.named _ rfl)

theorem Stays.pushAll (ids : List Nat) (h : b.Stays html body mark)
    (hids : ∀ x ∈ ids, b.IsOpenable x) :
    Keeps html body mark b { b with opened := ids ++ b.opened } := by
  induction ids with
  | nil => exact Keeps.refl h
  | cons x ids ih =>
      rw [List.forall_mem_cons] at hids
      have hrest := ih hids.2
      exact hrest.trans (hrest.stays.push_loose x hids.1.present hids.1.inner hids.1.loose)

/-- What is in a block moves into a new element of a formatting tag, and that
    into the block. -/
theorem Stays.wrap (h : b.Stays html body mark) (block : Nat) (hblock : b.IsOpenable block)
    (old : Nat) (start : StartTag) (hname : start.name ∈ entryNames) (bookmark : Bookmark)
    {r : Builder × Nat} (hr : r = b.createElement (.html start.name) (plainAttributes start)) :
    let wrapped : Builder := { r.1 with
      nodes := (r.1.nodes.moveChildren block r.2).append block r.2
      formatting := Builder.placeEntry old (.element r.2 start) bookmark r.1.formatting }
    Keeps html body mark b wrapped ∧ wrapped.IsOpenable r.2 := by
  have hopenable := openable_of_entry _ hname
  have hcreate : Keeps html body mark b r.1 ∧ IsNew html body (.html start.name) r :=
    hr ▸ h.createElement _ _ hopenable.name
  have hother := h.ne_of_isOpenable block hblock
  have hmove := hcreate.1.stays.nodes.moveChildren block r.2 ⟨hother.1, hother.2.1⟩
  have hgrow := hcreate.1.stays.grow
    (hmove.trans (hmove.holds.append block r.2 hcreate.2.other))
  have hnew := hcreate.2.keeps hgrow
  have hformat := hgrow.stays.placeEntry old r.2 start (hnew.isEntry hname) bookmark
  exact ⟨hcreate.1.trans (hgrow.trans hformat), (hnew.keeps hformat).isOpenable hopenable⟩

theorem Stays.splitAround (h : b.Stays html body mark) (id : Nat) (start : StartTag)
    (hentry : IsEntry b.nodes id start) (inner : List Nat) (block : Nat) (between outer : List Nat)
    (hopened : b.opened = inner ++ block :: between ++ id :: outer)
    (hloose : ∀ x ∈ inner ++ block :: between, isLoose (b.tag x) = true) :
    Keeps html body mark b (b.splitAround id start inner block between outer) := by
  rcases b.splitAround_eq id start inner block between outer with
    ⟨s, moved, r, hs, hmoved, hr, heq⟩
  have hinside (x : Nat) (hx : x ∈ inner ++ block :: between) : b.IsOpenable x :=
    h.isOpenable x (hopened ▸ List.mem_append_left _ hx) (hloose x hx)
  have hblock := hinside block (by simp)
  -- The elements between are split, the block leaves, and what was in it is wrapped.
  have hsplit : SplitStays html body mark b s := hs ▸ Stays.splitBetween block between 0 _
    ⟨Keeps.refl h, rfl, fun x hx => absurd hx List.not_mem_nil, (h.ne_of_isOpenable block hblock).2⟩
  have hleave : Keeps html body mark s.b moved :=
    hmoved ▸ hsplit.keeps.stays.putAt _ _ hsplit.lastMoved
  have hwrap := hleave.stays.wrap block (hblock.keeps (hsplit.keeps.trans hleave)) id start
    hentry.named s.bookmark hr
  have hrest := hleave.trans hwrap.1
  have hall := hsplit.keeps.trans hrest
  have hropened : r.1.opened = b.opened := by
    rw [hr, createElement_opened, hmoved, putAt_opened, hsplit.opened]
  -- The formatting element and all inside it close, and their successors open.
  have htrim := hall.stays.trim (inner ++ block :: between ++ [id]) outer
    (by rw [List.append_assoc, List.singleton_append]; exact hropened.trans hopened) fun x hx => by
      rcases List.mem_append.mp hx with hx | hx
      · exact ((hinside x hx).keeps hall).loose
      · rw [List.mem_singleton.mp hx]
        exact (hentry.mono hall.extended).isLoose
  have hpush := htrim.stays.pushAll (inner ++ [r.2, block] ++ s.between) fun x hx => by
    have hcases : x ∈ inner ++ block :: between ∨ x = r.2 ∨ x ∈ s.between := by
      simp only [List.mem_append, List.mem_cons, List.not_mem_nil, or_false] at hx ⊢
      tauto
    rcases hcases with hx | rfl | hx
    · exact ((hinside x hx).keeps hall).keeps htrim
    · exact hwrap.2.keeps htrim
    · exact (hsplit.isOpenable x hx).keeps (hrest.trans htrim)
  rw [heq]
  exact hall.trans (htrim.trans hpush)

/-- A list with an element, split at the first one. -/
theorem eq_takeWhile_append (x : Nat) (xs : List Nat) (hx : x ∈ xs) :
    xs = xs.takeWhile (· ≠ x) ++ x :: (xs.dropWhile (· ≠ x)).drop 1 := by
  rcases takeWhile_split (· ≠ x) xs ⟨x, hx, by simp⟩ with ⟨y, after, hsplit, hy, hdrop⟩
  have hyx : y = x := by simpa using hy
  rw [hdrop, List.drop_one, List.tail_cons, ← hyx]
  rwa [hyx] at hsplit ⊢

/-- A formatting element in reach is open, and all inside it are loose. -/
theorem Stays.loose_above (h : b.Stays html body mark) (id : Nat)
    (hid : isLoose (b.tag id) = true) (hscope : b.nodeInScope id = true) :
    ∀ x ∈ b.opened.takeWhile (· ≠ id), isLoose (b.tag x) = true := by
  rcases h.opened with ⟨inner, hopened, hinner⟩
  have hnested := h.nested
  rw [nodeInScope, hopened] at hscope
  rw [hopened] at hnested
  rcases reaches_split bounds_default _ (fun x hx => of_decide_eq_true hx ▸ hid) body html
    h.nodes.tag_body h.nodes.tag_html inner
    (fun x hx => isLoose_or_isPart _ (isInside_of_isInner _ (hinner x hx))) hnested hscope with
    ⟨before, x, after, rfl, hbefore, hx⟩
  intro y hy
  rw [hopened, List.append_assoc, List.cons_append] at hy
  refine hbefore y (takeWhile_subset _ before _ x ?_ y hy)
  simpa using hx

theorem Stays.closeFormattingWith (name : String) (hname : name ∉ "html" :: "body" :: partNames)
    (times : Nat) : ∀ {b : Builder}, b.Stays html body mark →
      Keeps html body mark b (closeFormattingWith name times b) := by
  induction times with
  | zero => exact fun h => Keeps.refl h
  | succ times ih =>
      intro b h
      rw [Builder.closeFormattingWith]
      split
      · exact h.closeAny name hname
      · next id start hfound =>
          have hentry := h.formatting id start (mem_of_findFormatting name id start hfound)
          refine Keeps.ite (fun _ => h.removeFormatting id) fun hopen => ?_
          refine Keeps.ite (fun _ => Keeps.refl h) fun hscope => ?_
          have hsplit := eq_takeWhile_append id b.opened (by simpa using hopen)
          have habove := h.loose_above id hentry.isLoose (by simpa using hscope)
          dsimp only
          generalize b.opened.takeWhile (· ≠ id) = above at hsplit habove ⊢
          generalize (b.opened.dropWhile (· ≠ id)).drop 1 = outer at hsplit ⊢
          split
          · -- No block is open inside it, so it closes with all inside.
            have hremove := h.removeFormatting id
            refine hremove.trans (hremove.stays.trim (above ++ [id]) outer
              (by rwa [List.append_assoc, List.singleton_append]) fun x hx => ?_)
            rcases List.mem_append.mp hx with hx | hx
            · exact habove x hx
            · exact List.mem_singleton.mp hx ▸ hentry.isLoose
          · next block hblock =>
              have hmem := List.mem_reverse.mp (List.mem_of_find?_eq_some hblock)
              have hinner := eq_takeWhile_append block above hmem
              have hkeeps := h.splitAround id start hentry (above.takeWhile (· ≠ block)) block
                ((above.dropWhile (· ≠ block)).drop 1) outer (by rwa [← hinner])
                (by rwa [← hinner])
              exact hkeeps.trans (ih hkeeps.stays)

/-- Closing the innermost element if it is loose. -/
theorem Stays.pop (h : b.Stays html body mark) (hloose : isLoose b.currentTag = true) :
    Keeps html body mark b b.pop := by
  rcases hopened : b.opened with _ | ⟨x, rest⟩
  · rw [Builder.pop, hopened]
    exact h.trim [] _ hopened (by simp)
  · refine h.trim [x] _ (by rw [hopened]; rfl) fun y hy => ?_
    rwa [List.mem_singleton.mp hy, ← show b.current = x by rw [current, hopened]; rfl]

theorem Stays.closeFormatting (h : b.Stays html body mark) (name : String)
    (hname : name ∉ "html" :: "body" :: partNames) :
    Keeps html body mark b (b.closeFormatting name) := by
  rw [Builder.closeFormatting]
  refine Keeps.ite (fun hcurrent => ?_) fun _ => Stays.closeFormattingWith name hname 8 h
  rw [Bool.and_eq_true, ← isOneOf_singleton] at hcurrent
  exact h.pop (isLoose_of_isOneOf _ _ (looseNames_singleton name hname) hcurrent.1)

end Builder

end Html

end CiteRender
