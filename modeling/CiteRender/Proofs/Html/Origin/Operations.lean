import CiteRender.Proofs.Html.Cells
import CiteRender.Proofs.Html.Tags

/-!
# Where Attributes Come From

An element of HTML has no attributes but those of tags that were read. While a
tree is built a tag may wait among the formatting elements to be opened again,
and a second tag of the document or the body may add to the first, but no rule
makes up an attribute.

Only the vocabularies other than HTML restore capitals in the names of
attributes. A body is never of these: its tag ends them.

## Main definitions

* `Html.IsReadable`: An attribute with a name that can be read.
* `Html.ElementCell.IsNamed`: An element with names that can be read.
* `Html.Builder.IsNamed`: A state in which all elements are such, and all tags
  that wait.

## Theorems

* `IsNamed.insert`, `IsNamed.reopen`, `IsNamed.closeFormatting`, ...: What each
  operation keeps.
-/

namespace CiteRender

namespace Html

/-- An attribute that a tag can give an element of HTML. -/
def IsReadable (a : Attribute) : Prop :=
  a.space = .plain ∧ isAttributeName a.name.toList = true

/-- An element of HTML has only attributes with names that can be read, and a
    body is an element of HTML. -/
structure ElementCell.IsNamed (cell : ElementCell) : Prop where
  readable : cell.tag.space = .html → ∀ a ∈ cell.attributes, IsReadable a
  body : cell.tag.name = "body" → cell.tag.space = .html

/-- Nodes all of whose elements are named. -/
def Scaffold.IsNamed (nodes : Scaffold) : Prop :=
  ∀ i cell, nodes.element? i = some cell → cell.IsNamed

/-- The parts of a state that attributes come from. -/
structure NamedParts (nodes : Scaffold) (formatting : List Formatting) (waiting : List Token) :
    Prop where
  nodes : nodes.IsNamed
  formatting : ∀ id tag, .element id tag ∈ formatting → tag.IsNamed
  waiting : ∀ t ∈ waiting, t.IsNamed

namespace Scaffold

variable {nodes : Scaffold}

theorem IsNamed.of_element?_eq {nodes' : Scaffold} (h : nodes.IsNamed)
    (heq : ∀ i, nodes'.element? i = nodes.element? i) : nodes'.IsNamed :=
  fun i cell hcell => h i cell (heq i ▸ hcell)

theorem IsNamed.append (h : nodes.IsNamed) (p i : Nat) : (nodes.append p i).IsNamed :=
  h.of_element?_eq fun j => nodes.element?_append p i j

theorem IsNamed.insertBefore (h : nodes.IsNamed) (sibling i : Nat) :
    (nodes.insertBefore sibling i).IsNamed :=
  h.of_element?_eq fun j => nodes.element?_insertBefore sibling i j

theorem IsNamed.add (h : nodes.IsNamed) (kind : CellKind)
    (hkind : ∀ cell, kind.asElement? = some cell → cell.IsNamed) : (nodes.add kind).1.IsNamed := by
  intro i cell hcell
  rw [element?_add] at hcell
  split at hcell
  · exact hkind cell hcell
  · exact h i cell hcell

theorem IsNamed.moveChildren (h : nodes.IsNamed) (source target : Nat) :
    (nodes.moveChildren source target).IsNamed :=
  moveChildren_induction nodes source target h fun _ i _ h => h.append target i

theorem IsNamed.appendText (h : nodes.IsNamed) (parent : Nat) (s : List Char) :
    (nodes.appendText parent s).IsNamed := by
  rw [Scaffold.appendText]
  split
  · exact h.of_element?_eq fun j => nodes.element?_extendText _ j s
  · exact (h.add _ (by simp [CellKind.asElement?])).append _ _

theorem IsNamed.insertTextBefore (h : nodes.IsNamed) (sibling : Nat) (s : List Char) :
    (nodes.insertTextBefore sibling s).IsNamed := by
  rw [Scaffold.insertTextBefore]
  dsimp only
  split
  · exact h.of_element?_eq fun j => nodes.element?_extendText _ j s
  · exact (h.add _ (by simp [CellKind.asElement?])).insertBefore _ _

theorem IsNamed.addAttributes (h : nodes.IsNamed) (i : Nat) (more : List (String × String))
    (hmore : ∀ a ∈ more, isAttributeName a.1.toList = true) :
    (nodes.addAttributes i more).IsNamed := by
  intro j cell hcell
  rw [element?_addAttributes] at hcell
  split at hcell
  · rcases Option.map_eq_some_iff.mp hcell with ⟨old, hold, rfl⟩
    refine ⟨fun hspace a ha => ?_, (h j old hold).body⟩
    rw [ElementCell.withMore, List.mem_append, List.mem_map] at ha
    rcases ha with ha | ⟨b, hb, rfl⟩
    · exact (h j old hold).readable hspace a ha
    · exact ⟨rfl, hmore b (List.mem_of_mem_filter hb)⟩
  · exact h j cell hcell

end Scaffold

namespace Builder

/-- A state in which all elements are named, and all tags that wait. -/
def IsNamed (b : Builder) : Prop :=
  NamedParts b.nodes b.formatting b.waitingText

variable {b : Builder}

theorem IsNamed.withNodes (h : b.IsNamed) {nodes : Scaffold} (hnodes : nodes.IsNamed) :
    IsNamed { b with nodes } :=
  ⟨hnodes, h.formatting, h.waiting⟩

theorem IsNamed.withFormatting (h : b.IsNamed) {formatting : List Formatting}
    (hsub : ∀ entry ∈ formatting, entry ∈ b.formatting) : IsNamed { b with formatting } :=
  ⟨h.nodes, fun id tag hentry => h.formatting id tag (hsub _ hentry), h.waiting⟩

/-! Operations on the open elements and on the flags add no attributes. -/

@[simp] theorem isNamed_mk (nodes : Scaffold) (mode returnMode : Mode) (textMode : TextMode)
    (opened : List Nat) (formatting : List Formatting) (templateModes : List Mode)
    (head form : Option Nat) (framesetAllowed oldLayout fostering dropNewline readsAnew : Bool)
    (waiting : List Token) :
    IsNamed ⟨nodes, mode, returnMode, textMode, opened, formatting, templateModes, head, form,
      framesetAllowed, oldLayout, fostering, dropNewline, readsAnew, waiting⟩ ↔
      NamedParts nodes formatting waiting :=
  Iff.rfl

@[simp] theorem namedParts_iff (b : Builder) :
    NamedParts b.nodes b.formatting b.waitingText ↔ b.IsNamed :=
  Iff.rfl

@[simp] theorem isNamed_ite (p : Prop) [Decidable p] (b c : Builder) :
    (if p then b else c).IsNamed ↔ if p then b.IsNamed else c.IsNamed := by
  split <;> rfl

@[simp] theorem isNamed_pop : b.pop.IsNamed ↔ b.IsNamed := Iff.rfl

@[simp] theorem isNamed_closeUntil (names : List String) :
    (b.closeUntil names).IsNamed ↔ b.IsNamed := Iff.rfl

@[simp] theorem isNamed_closeToContext (names : List String) :
    (b.closeToContext names).IsNamed ↔ b.IsNamed := Iff.rfl

@[simp] theorem isNamed_closeImplied (names : List String) :
    (b.closeImplied names).IsNamed ↔ b.IsNamed := Iff.rfl

@[simp] theorem isNamed_closeImpliedExcept (name : String) :
    (b.closeImpliedExcept name).IsNamed ↔ b.IsNamed := Iff.rfl

@[simp] theorem isNamed_closeParagraph : b.closeParagraph.IsNamed ↔ b.IsNamed := Iff.rfl

@[simp] theorem isNamed_removeOpen (id : Nat) : (b.removeOpen id).IsNamed ↔ b.IsNamed := Iff.rfl

@[simp] theorem isNamed_forbidFrameset : b.forbidFrameset.IsNamed ↔ b.IsNamed := Iff.rfl

@[simp] theorem isNamed_resetMode : b.resetMode.IsNamed ↔ b.IsNamed := Iff.rfl

@[simp] theorem isNamed_closeParagraphInScope : b.closeParagraphInScope.IsNamed ↔ b.IsNamed := by
  simp [closeParagraphInScope]

/-! Placing nodes. -/

theorem IsNamed.putAt (h : b.IsNamed) (place : Place) (id : Nat) : (b.putAt place id).IsNamed := by
  cases place with
  | last parent => exact h.withNodes (h.nodes.append parent id)
  | before sibling => exact h.withNodes (h.nodes.insertBefore sibling id)

theorem IsNamed.insertText (h : b.IsNamed) (s : List Char) : (b.insertText s).IsNamed := by
  rw [Builder.insertText]
  split
  · exact h.withNodes (h.nodes.appendText _ s)
  · exact h.withNodes (h.nodes.insertTextBefore _ s)

theorem IsNamed.create (h : b.IsNamed) (kind : CellKind)
    (hkind : ∀ cell, kind.asElement? = some cell → cell.IsNamed) : (b.create kind).1.IsNamed :=
  h.withNodes (h.nodes.add kind hkind)

theorem IsNamed.createElement (h : b.IsNamed) (tag : Tag) (attributes : List Attribute)
    (hcell : ∀ contents, ElementCell.IsNamed ⟨tag, attributes, contents⟩) :
    (b.createElement tag attributes).1.IsNamed := by
  have hkind (contents : Option Nat) (cell : ElementCell)
      (hcell' : (CellKind.element tag attributes contents).asElement? = some cell) :
      cell.IsNamed := by
    rw [← Option.some.inj hcell']
    exact hcell contents
  rw [Builder.createElement]
  split
  · exact (h.create .root (by simp [CellKind.asElement?])).create _ (hkind _)
  · exact h.create _ (hkind _)

theorem IsNamed.addElement (h : b.IsNamed) (tag : Tag) (attributes : List Attribute)
    (hcell : ∀ contents, ElementCell.IsNamed ⟨tag, attributes, contents⟩) :
    (b.addElement tag attributes).1.IsNamed :=
  (h.createElement tag attributes hcell).putAt _ _

theorem IsNamed.openElement (h : b.IsNamed) (tag : Tag) (attributes : List Attribute)
    (hcell : ∀ contents, ElementCell.IsNamed ⟨tag, attributes, contents⟩) :
    (b.openElement tag attributes).1.IsNamed :=
  h.addElement tag attributes hcell

/-- An element of HTML with the attributes of a tag that was read. -/
theorem isNamed_of_startTag (name : String) (tag : StartTag) (htag : tag.IsNamed)
    (contents : Option Nat) : ElementCell.IsNamed ⟨.html name, plainAttributes tag, contents⟩ := by
  refine ⟨fun _ a ha => ?_, fun _ => rfl⟩
  rcases List.mem_map.mp ha with ⟨b, hb, rfl⟩
  exact ⟨rfl, htag b hb⟩

theorem IsNamed.openTag (h : b.IsNamed) {tag : StartTag} (htag : tag.IsNamed) :
    (b.openElement (.html tag.name) (plainAttributes tag)).1.IsNamed :=
  h.openElement _ _ (isNamed_of_startTag tag.name tag htag)

theorem IsNamed.insert (h : b.IsNamed) {tag : StartTag} (htag : tag.IsNamed) :
    (b.insert tag).IsNamed :=
  h.openTag htag

theorem IsNamed.insertVoid (h : b.IsNamed) {tag : StartTag} (htag : tag.IsNamed) :
    (b.insertVoid tag).IsNamed :=
  h.addElement _ _ (isNamed_of_startTag tag.name tag htag)

theorem isNamed_bare (name : String) : StartTag.IsNamed { name } :=
  fun _ ha => absurd ha List.not_mem_nil

theorem IsNamed.insertImplied (h : b.IsNamed) (name : String) : (b.insertImplied name).IsNamed :=
  h.insert (isNamed_bare name)

theorem IsNamed.commentIn (h : b.IsNamed) (parent : Nat) (s : List Char) :
    (b.commentIn parent s).IsNamed :=
  (h.create (.comment s) (by simp [CellKind.asElement?])).putAt _ _

theorem IsNamed.insertComment (h : b.IsNamed) (s : List Char) : (b.insertComment s).IsNamed :=
  (h.create (.comment s) (by simp [CellKind.asElement?])).putAt _ _

theorem IsNamed.insertWithText (h : b.IsNamed) {tag : StartTag} (htag : tag.IsNamed)
    (textMode : TextMode) : (b.insertWithText tag textMode).IsNamed :=
  h.insert htag

theorem IsNamed.mergeHtml (h : b.IsNamed) {tag : StartTag} (htag : tag.IsNamed) :
    (b.mergeHtml tag).IsNamed := by
  rw [Builder.mergeHtml]
  split
  · exact h
  · exact h.withNodes (h.nodes.addAttributes _ _ htag)

/-! Formatting elements. -/

theorem IsNamed.clearToMarker (h : b.IsNamed) : b.clearToMarker.IsNamed :=
  h.withFormatting fun _ hentry =>
    (List.dropWhile_sublist _).subset ((List.drop_sublist _ _).subset hentry)

theorem IsNamed.pushMarker (h : b.IsNamed) : b.pushMarker.IsNamed :=
  ⟨h.nodes, fun id tag hentry =>
    h.formatting id tag ((List.mem_cons.mp hentry).resolve_left (by simp)), h.waiting⟩

theorem IsNamed.removeFormatting (h : b.IsNamed) (id : Nat) : (b.removeFormatting id).IsNamed :=
  h.withFormatting fun _ hentry => List.mem_of_mem_filter hentry

/-- Entries whose tags were read. -/
def EntriesNamed (entries : List Formatting) : Prop :=
  ∀ id tag, .element id tag ∈ entries → tag.IsNamed

theorem IsNamed.reopenAll (entries : List Formatting) :
    ∀ {b : Builder}, b.IsNamed → EntriesNamed entries →
      (b.reopenAll entries).1.IsNamed ∧ EntriesNamed (b.reopenAll entries).2 := by
  induction entries with
  | nil => exact fun h _ => ⟨h, fun _ _ hentry => absurd hentry List.not_mem_nil⟩
  | cons entry entries ih =>
      intro b h hentries
      have hrest : EntriesNamed entries := fun id tag hentry =>
        hentries id tag (List.mem_cons_of_mem _ hentry)
      cases entry with
      | marker => exact ih h hrest
      | element id tag =>
          have htag := hentries id tag List.mem_cons_self
          have hmore := ih (h.openTag htag) hrest
          refine ⟨hmore.1, fun id' tag' hentry => ?_⟩
          rcases List.mem_append.mp hentry with hentry | hentry
          · exact hmore.2 id' tag' hentry
          · rw [List.mem_singleton, Formatting.element.injEq] at hentry
            rw [hentry.2]
            exact htag

theorem IsNamed.reopen (h : b.IsNamed) : b.reopen.IsNamed := by
  rw [Builder.reopen]
  dsimp only
  split
  · exact h
  · have hsub (entry : Formatting) (p : Formatting → Bool) (hentry :
        entry ∈ (b.formatting.takeWhile p).reverse ∨ entry ∈ b.formatting.dropWhile p) :
        entry ∈ b.formatting := by
      rcases hentry with hentry | hentry
      · exact (List.takeWhile_sublist _).subset (List.mem_reverse.mp hentry)
      · exact (List.dropWhile_sublist _).subset hentry
    have hall := IsNamed.reopenAll _ h fun id tag hentry =>
      h.formatting id tag (hsub _ (fun entry => !b.isSettled entry) (Or.inl hentry))
    refine ⟨hall.1.nodes, fun id tag hentry => ?_, hall.1.waiting⟩
    rcases List.mem_append.mp hentry with hentry | hentry
    · exact hall.2 id tag hentry
    · exact h.formatting id tag (hsub _ _ (Or.inr hentry))

/-- Opening a formatting element adds one entry, and may forget another. -/
theorem mem_openFormatting (b : Builder) (tag : StartTag) (entry : Formatting)
    (h : entry ∈ (b.openFormatting tag).formatting) :
    entry = .element (b.openElement (.html tag.name) (plainAttributes tag)).2 tag ∨
      entry ∈ b.formatting := by
  rw [Builder.openFormatting] at h
  rcases List.mem_cons.mp h with rfl | hkept
  · exact Or.inl rfl
  · right
    split at hkept
    · split at hkept
      · exact List.mem_of_mem_erase hkept
      · exact hkept
    · exact hkept

theorem IsNamed.openFormatting (h : b.IsNamed) {tag : StartTag} (htag : tag.IsNamed) :
    (b.openFormatting tag).IsNamed := by
  have hopen := h.openTag htag
  refine NamedParts.mk hopen.nodes (fun id other hentry => ?_) hopen.waiting
  rcases b.mem_openFormatting tag _ hentry with heq | hold
  · rw [(Formatting.element.inj heq).2]
    exact htag
  · exact h.formatting id other hold

theorem IsNamed.closeAny (h : b.IsNamed) (name : String) : (b.closeAny name).IsNamed := by
  simp [Builder.closeAny, h]

/-! What is found on the list of formatting elements is on it. -/

theorem mem_of_formattingTag? (id : Nat) (tag : StartTag) (h : b.formattingTag? id = some tag) :
    .element id tag ∈ b.formatting := by
  rcases List.exists_of_findSome?_eq_some h with ⟨entry, hentry, hfound⟩
  cases entry with
  | marker => simp at hfound
  | element other tag' =>
      simp only [Option.ite_none_right_eq_some, Option.some.injEq] at hfound
      rwa [← hfound.1, ← hfound.2]

theorem mem_of_findFormatting (name : String) (id : Nat) (tag : StartTag)
    (h : b.findFormatting name = some (id, tag)) : .element id tag ∈ b.formatting := by
  rcases List.exists_of_findSome?_eq_some h with ⟨entry, hentry, hfound⟩
  cases entry with
  | marker => simp at hfound
  | element other tag' =>
      simp only [Option.ite_none_right_eq_some, Option.some.injEq, Prod.mk.injEq] at hfound
      rw [← hfound.2.1, ← hfound.2.2]
      exact (List.takeWhile_sublist _).subset hentry

theorem mem_placeEntry (old : Nat) (new entry : Formatting) (bookmark : Bookmark)
    (list : List Formatting) (h : entry ∈ placeEntry old new bookmark list) :
    entry = new ∨ entry ∈ list := by
  cases bookmark with
  | replace =>
      rcases List.mem_map.mp h with ⟨other, hother, rfl⟩
      split
      · exact Or.inl rfl
      · exact Or.inr hother
  | rightAfter id =>
      rcases List.mem_flatMap.mp (List.mem_of_mem_filter h) with ⟨other, hother, hmem⟩
      split at hmem
      · simp only [List.mem_cons, List.not_mem_nil, or_false] at hmem
        rcases hmem with rfl | rfl
        · exact Or.inl rfl
        · exact Or.inr hother
      · rw [List.mem_singleton.mp hmem]
        exact Or.inr hother

/-- An entry that takes the place of another. -/
theorem IsNamed.placeEntry (h : b.IsNamed) (old new : Nat) {tag : StartTag} (htag : tag.IsNamed)
    (bookmark : Bookmark) :
    EntriesNamed (Builder.placeEntry old (.element new tag) bookmark b.formatting) := by
  intro id other hentry
  rcases mem_placeEntry _ _ _ _ _ hentry with heq | hold
  · rw [(Formatting.element.inj heq).2]
    exact htag
  · exact h.formatting id other hold

theorem IsNamed.splitBetween (block : Nat) (between : List Nat) :
    ∀ (count : Nat) (s : Split), s.b.IsNamed → (splitBetween block count between s).b.IsNamed := by
  induction between with
  | nil => exact fun _ _ h => h
  | cons id between ih =>
      intro count s h
      rw [Builder.splitBetween]
      split
      · exact ih _ _ h
      · next tag htag =>
          have hnamed := h.formatting id tag (mem_of_formattingTag? id tag htag)
          split
          · exact ih _ _ (h.removeFormatting id)
          · have hcreate := h.createElement _ _ (isNamed_of_startTag tag.name tag hnamed)
            -- The entry of the split element gets the number of the new one.
            exact ih (count + 1) _ (NamedParts.mk (hcreate.nodes.append _ _)
              (hcreate.placeEntry id _ hnamed .replace) hcreate.waiting)

/-- A split in its three parts: the elements between are split, the block
    leaves, and what was in it is wrapped. -/
theorem splitAround_eq (b : Builder) (id : Nat) (tag : StartTag) (inner : List Nat) (block : Nat)
    (between outer : List Nat) :
    ∃ s moved r,
      s = Builder.splitBetween block 0 between
        { b, between := [], lastMoved := block, bookmark := .replace } ∧
      moved = s.b.putAt (s.b.placeIn (outer.head?.getD 0)) s.lastMoved ∧
      r = moved.createElement (.html tag.name) (plainAttributes tag) ∧
      b.splitAround id tag inner block between outer =
        { r.1 with
          nodes := (r.1.nodes.moveChildren block r.2).append block r.2
          formatting := placeEntry id (.element r.2 tag) s.bookmark r.1.formatting
          opened := inner ++ [r.2, block] ++ s.between ++ outer } :=
  ⟨_, _, _, rfl, rfl, rfl, rfl⟩

theorem IsNamed.splitAround (h : b.IsNamed) (id : Nat) {tag : StartTag} (htag : tag.IsNamed)
    (inner : List Nat) (block : Nat) (between outer : List Nat) :
    (b.splitAround id tag inner block between outer).IsNamed := by
  rcases b.splitAround_eq id tag inner block between outer with
    ⟨s, moved, r, hs, hmoved, hr, heq⟩
  have hsplit : s.b.IsNamed := hs ▸ IsNamed.splitBetween block between 0 _ h
  have hwrapped : r.1.IsNamed := by
    rw [hr, hmoved]
    exact (hsplit.putAt _ _).createElement _ _ (isNamed_of_startTag tag.name tag htag)
  have hnodes := (hwrapped.nodes.moveChildren block r.2).append block r.2
  rw [heq]
  exact NamedParts.mk hnodes (hwrapped.placeEntry id r.2 htag s.bookmark) hwrapped.waiting

theorem IsNamed.closeFormattingWith (name : String) (times : Nat) :
    ∀ {b : Builder}, b.IsNamed → (closeFormattingWith name times b).IsNamed := by
  induction times with
  | zero => exact id
  | succ times ih =>
      intro b h
      rw [Builder.closeFormattingWith]
      split
      · exact h.closeAny name
      · next id tag hfound =>
          split
          · exact h.removeFormatting id
          · split
            · exact h
            · dsimp only
              split
              · exact h.removeFormatting id
              · exact ih (h.splitAround id (h.formatting id tag (mem_of_findFormatting name id tag hfound))
                  _ _ _ _)

theorem IsNamed.closeFormatting (h : b.IsNamed) (name : String) :
    (b.closeFormatting name).IsNamed := by
  rw [Builder.closeFormatting]
  split
  · exact h
  · exact IsNamed.closeFormattingWith name 8 h

end Builder

end Html

end CiteRender
