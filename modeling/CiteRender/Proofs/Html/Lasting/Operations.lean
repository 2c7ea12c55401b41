import Mathlib.Data.List.TakeWhile
import CiteRender.Proofs.Html.Lasting.Stack
import CiteRender.Proofs.Html.Lasting.Tree

/-!
# A Marked Body under the Operations

What a state has to be for the body to stay where it is with its mark, and that
the operations on open elements keep it. The body and the `html` element below it
are the last two open ones, and what is open before them is neither of these.
Operations only ever close elements from the front, so it is enough that each
stops before the body, and it does where what it looks for is found first.

An operation is compared with the state it begins in, as a rule uses several in
a row and each must know the elements that were there before.

## Main definitions

* `Html.Builder.Stays`: A state in which the body is open with its mark.
* `Html.Builder.Keeps`: A state that goes on from another, with the parts of
  tables and templates that are open left alone.
* `Html.Builder.Reached`: Closing elements up to some names ends before the body.

## Theorems

* `Builder.Stays.closeUntil`, `Builder.Stays.closeImplied`: Closing elements.
* `Builder.Stays.reached_of_inScope`: What is in scope is found before the body.
* `Builder.Stays.insert`, `Builder.Stays.insertVoid`, `Builder.Stays.insertText`,
  ...: Adding nodes.
-/

namespace CiteRender

namespace Html

/-- Whether a tag may stand open inside the body. -/
def isInner (tag : Tag) : Bool :=
  !tag.isOneOf ["html", "body", "head", "frameset"]

/-- The names of formatting elements. -/
def entryNames : List String :=
  "a" :: "nobr" :: formattingNames

/-- The element of an entry of the list of formatting elements. -/
structure IsEntry (tree : Scaffold) (id : Nat) (start : StartTag) : Prop where
  present : (tree.element? id).isSome
  tag : tree.tag id = .html start.name
  named : start.name ∈ entryNames

theorem IsEntry.mono {tree tree' : Scaffold} {id : Nat} {start : StartTag}
    (h : IsEntry tree id start) (hext : tree.Extends tree') : IsEntry tree' id start := by
  have hnew := hext.tag_eq id h.present
  exact ⟨hnew.2, hnew.1.trans h.tag, h.named⟩

/-- The modes that the contents of a template are read in. -/
def heldModes : List Mode :=
  [.inTemplate, .inTable, .inColumnGroup, .inTableBody, .inRow, .inBody]

/-- The parts of a state that the body depends on. -/
structure StayingParts (html body : Nat) (mark : String) (tree : Scaffold) (stack : List Nat)
    (entries : List Formatting) (openForm : Option Nat) (mayReplace : Bool) (held : List Mode)
    (pieces : List Token) : Prop where
  nodes : tree.Holds html body mark
  opened : ∃ inner, stack = inner ++ [body, html] ∧ ∀ x ∈ inner, isInner (tree.tag x) = true
  present : ∀ x ∈ stack, (tree.element? x).isSome
  nested : Nested (stack.map tree.tag)
  formatting : ∀ id start, .element id start ∈ entries → IsEntry tree id start
  form : ∀ id ∈ openForm, (tree.element? id).isSome ∧ tree.tag id = .html "form"
  frameset : mayReplace = false
  templates : ∀ m ∈ held, m ∈ heldModes
  waiting : ∀ t ∈ pieces, isCharacters t = true

namespace Builder

/-- A state in which the marked body is open, right inside the document. -/
def Stays (html body : Nat) (mark : String) (b : Builder) : Prop :=
  StayingParts html body mark b.nodes b.opened b.formatting b.form b.framesetAllowed
    b.templateModes b.waitingText

/-- The innermost open part of a table or template. -/
def innermost (b : Builder) : Option Tag :=
  (b.opened.map b.tag).find? isPart

/-- A state that goes on from another with the body open and in the same part. -/
structure Keeps (html body : Nat) (mark : String) (b b' : Builder) : Prop where
  stays : b'.Stays html body mark
  extended : b.nodes.Extends b'.nodes
  innermost : b'.innermost = b.innermost
  mode : b'.mode = b.mode
  returnMode : b'.returnMode = b.returnMode

variable {html body : Nat} {mark : String} {b b' b'' : Builder}

theorem Keeps.refl (h : b.Stays html body mark) : Keeps html body mark b b :=
  ⟨h, Scaffold.extends_of_eq fun _ => rfl, rfl, rfl, rfl⟩

theorem Keeps.trans (h : Keeps html body mark b b') (h' : Keeps html body mark b' b'') :
    Keeps html body mark b b'' :=
  ⟨h'.stays, h.extended.trans h'.extended, h'.innermost.trans h.innermost, h'.mode.trans h.mode,
    h'.returnMode.trans h.returnMode⟩

theorem Keeps.ite {p : Prop} [Decidable p] {x y : Builder}
    (hx : p → Keeps html body mark b x) (hy : ¬ p → Keeps html body mark b y) :
    Keeps html body mark b (if p then x else y) := by
  split
  · next hp => exact hx hp
  · next hp => exact hy hp

/-! Fewer open elements. -/

theorem isInner_iff (tag : Tag) :
    isInner tag = true ↔ tag.isOneOf ["html", "body", "head", "frameset"] = false := by
  rw [isInner, Bool.not_eq_true']

/-- Whether a tag is neither that of the document nor that of the body. -/
def isInside (tag : Tag) : Bool :=
  !tag.isOneOf ["html", "body"]

theorem isInside_of_isLoose (tag : Tag) (h : isLoose tag = true) : isInside tag = true := by
  rw [isLoose, Bool.not_eq_true'] at h
  rw [isInside, Bool.not_eq_true', ← Bool.not_eq_true]
  intro hone
  rw [isOneOf_mono tag (by simp) hone] at h
  exact absurd h (by simp)

theorem isInside_of_isInner (tag : Tag) (h : isInner tag = true) : isInside tag = true := by
  rw [isInner, Bool.not_eq_true'] at h
  rw [isInside, Bool.not_eq_true', ← Bool.not_eq_true]
  intro hone
  rw [isOneOf_mono tag (by simp) hone] at h
  exact absurd h (by simp)

theorem isLoose_or_isPart (tag : Tag) (h : isInside tag = true) :
    isLoose tag = true ∨ isPart tag = true := by
  rw [isInside, Bool.not_eq_true', ← Bool.not_eq_true, isOneOf_iff] at h
  rw [isLoose, Bool.not_eq_true', ← Bool.not_eq_true, isPart, isOneOf_iff, isOneOf_iff]
  by_cases hpart : tag.space = .html ∧ tag.name ∈ partNames
  · exact Or.inr hpart
  · refine Or.inl fun hfixed => ?_
    simp only [List.mem_cons] at hfixed
    simp only [List.mem_cons, List.not_mem_nil, or_false] at h
    grind

/-- What stands before a stretch of open elements is inside the body, so the
    stretch still ends with the body. -/
theorem Stays.split (h : b.Stays html body mark) (before after : List Nat)
    (hsplit : b.opened = before ++ after) (hbefore : ∀ x ∈ before, isInside (b.tag x) = true) :
    ∃ inner, after = inner ++ [body, html] ∧ ∀ x ∈ inner, isInner (b.tag x) = true := by
  rcases h.opened with ⟨inner, hopened, hinner⟩
  rcases List.append_eq_append_iff.mp (hopened.symm.trans hsplit) with
    ⟨more, rfl, hends⟩ | ⟨rest, rfl, hrest⟩
  · cases more with
    | nil => exact ⟨[], hends.symm, by simp⟩
    | cons x more =>
        have hx : body = x := (List.cons.inj hends).1
        have hbody := hbefore x (List.mem_append_right _ List.mem_cons_self)
        rw [← hx, Builder.tag, h.nodes.tag_body] at hbody
        exact absurd hbody (by decide)
  · exact ⟨rest, hrest, fun x hx => hinner x (List.mem_append_right _ hx)⟩

/-- Closing elements inside the body. -/
theorem Stays.drop (h : b.Stays html body mark) (before after : List Nat)
    (hsplit : b.opened = before ++ after) (hbefore : ∀ x ∈ before, isInside (b.tag x) = true) :
    Stays html body mark { b with opened := after } where
  nodes := h.nodes
  opened := h.split before after hsplit hbefore
  present x hx := h.present x (hsplit ▸ List.mem_append_right _ hx)
  nested := by
    have hnested := h.nested
    rw [hsplit, List.map_append] at hnested
    exact nested_of_append _ _ hnested
  formatting := h.formatting
  form := h.form
  frameset := h.frameset
  templates := h.templates
  waiting := h.waiting

/-- Closing elements with loose tags. -/
theorem Stays.trim (h : b.Stays html body mark) (before after : List Nat)
    (hsplit : b.opened = before ++ after) (hbefore : ∀ x ∈ before, isLoose (b.tag x) = true) :
    Keeps html body mark b { b with opened := after } := by
  refine ⟨h.drop before after hsplit fun x hx => isInside_of_isLoose _ (hbefore x hx),
    Scaffold.extends_of_eq fun _ => rfl, ?_, rfl, rfl⟩
  rw [innermost, innermost, hsplit, List.map_append]
  refine (find?_append_loose _ _ fun t ht => ?_).symm
  rcases List.mem_map.mp ht with ⟨x, hx, rfl⟩
  exact hbefore x hx

/-- Names that no rule for tables looks for. -/
def LooseNames (names : List String) : Prop :=
  ∀ n ∈ names, n ∉ "html" :: "body" :: partNames

theorem Stays.closeImplied (h : b.Stays html body mark) (names : List String)
    (hnames : LooseNames names) : Keeps html body mark b (b.closeImplied names) := by
  refine h.trim (b.opened.takeWhile fun id => (b.tag id).isOneOf names) _
    List.takeWhile_append_dropWhile.symm fun x hx => ?_
  exact isLoose_of_isOneOf _ names hnames (List.all_eq_true.mp List.all_takeWhile x hx)

/-- An element with one of some names is open, and all inside it are loose. -/
def Reached (b : Builder) (names : List String) : Prop :=
  ∃ before x after, b.opened = before ++ x :: after ∧
    (∀ y ∈ before, isLoose (b.tag y) = true) ∧ (b.tag x).isOneOf names = true

theorem takeWhile_subset {α : Type} (q : α → Bool) (before after : List α) (x : α)
    (hx : q x = false) : ∀ y ∈ (before ++ x :: after).takeWhile q, y ∈ before := by
  induction before with
  | nil => simp [hx]
  | cons z before ih =>
      intro y hy
      rw [List.cons_append, List.takeWhile_cons] at hy
      split at hy
      · rcases List.mem_cons.mp hy with rfl | hy
        · exact List.mem_cons_self
        · exact List.mem_cons_of_mem _ (ih y hy)
      · exact absurd hy List.not_mem_nil

/-- A list up to the first of its elements that fails a test. -/
theorem takeWhile_split (q : Nat → Bool) (xs : List Nat) (h : ∃ x ∈ xs, q x = false) :
    ∃ x after, xs = xs.takeWhile q ++ x :: after ∧ q x = false ∧ xs.dropWhile q = x :: after := by
  rcases hdrop : xs.dropWhile q with _ | ⟨x, after⟩
  · rcases h with ⟨x, hx, hfails⟩
    rw [List.dropWhile_eq_nil_iff.mp hdrop x hx] at hfails
    exact absurd hfails (by simp)
  · have hhead := List.head?_dropWhile_not q xs
    rw [hdrop] at hhead
    refine ⟨x, after, ?_, by simpa using hhead, rfl⟩
    rw [← hdrop, List.takeWhile_append_dropWhile]

/-- Closing elements up to the first with one of some names. -/
theorem closeUntil_split (names : List String)
    (hopen : ∃ x ∈ b.opened, (b.tag x).isOneOf names = true) :
    ∃ x after, b.opened = b.opened.takeWhile (fun id => !(b.tag id).isOneOf names) ++ x :: after ∧
      (b.tag x).isOneOf names = true ∧ b.closeUntil names = { b with opened := after } := by
  rcases takeWhile_split (fun id => !(b.tag id).isOneOf names) b.opened
    (by simpa using hopen) with ⟨x, after, hsplit, hx, hdrop⟩
  refine ⟨x, after, hsplit, by simpa using hx, ?_⟩
  rw [Builder.closeUntil, hdrop, List.drop_one, List.tail_cons]

theorem Stays.closeUntil (h : b.Stays html body mark) (names : List String)
    (hnames : LooseNames names) (hreached : b.Reached names) :
    Keeps html body mark b (b.closeUntil names) := by
  rcases hreached with ⟨before, x, after, hopened, hbefore, hx⟩
  rcases b.closeUntil_split names ⟨x, by simp [hopened], hx⟩ with ⟨y, rest, hsplit, hy, heq⟩
  rw [heq]
  refine h.trim (b.opened.takeWhile (fun id => !(b.tag id).isOneOf names) ++ [y]) rest
    (by rwa [List.append_assoc, List.singleton_append]) fun z hz => ?_
  rcases List.mem_append.mp hz with hz | hz
  · rw [hopened] at hz
    exact hbefore z (takeWhile_subset _ before after x (by simp [hx]) z hz)
  · rw [List.mem_singleton.mp hz]
    exact isLoose_of_isOneOf _ names hnames hy

/-- Closing implied elements does not lose an element of other names. -/
theorem Reached.closeImplied {names : List String} (h : b.Reached names) (implied : List String)
    (hdisjoint : ∀ n ∈ names, n ∉ implied) : (b.closeImplied implied).Reached names := by
  rcases h with ⟨before, x, after, hsplit, hbefore, hx⟩
  have hkept : (b.tag x).isOneOf implied = false := by
    rw [← Bool.not_eq_true, isOneOf_iff, not_and]
    exact fun _ => hdisjoint _ ((isOneOf_iff _ _).mp hx).2
  refine ⟨before.dropWhile fun id => (b.tag id).isOneOf implied, x, after, ?_,
    fun y hy => hbefore y ((List.dropWhile_sublist _).subset hy), hx⟩
  rw [Builder.closeImplied]
  dsimp only
  rw [hsplit]
  clear hsplit hbefore
  induction before with
  | nil => rw [List.nil_append, List.dropWhile_cons_of_neg (by simp [hkept])]; rfl
  | cons y before ih =>
      rw [List.cons_append, List.dropWhile_cons, List.dropWhile_cons]
      split
      · exact ih
      · rfl

/-- What is found in reach has only loose elements inside it. -/
theorem Stays.reached_of_inScope (h : b.Stays html body mark) {bounds : Tag → Bool}
    (hbounds : Bounds bounds) (names : List String) (hnames : LooseNames names)
    (hscope : b.inScope bounds names = true) : b.Reached names := by
  rcases h.opened with ⟨inner, hopened, hinner⟩
  have hnested := h.nested
  rw [inScope, hopened] at hscope
  rw [hopened] at hnested
  rcases reaches_split hbounds _ (fun x hx => isLoose_of_isOneOf _ names hnames hx) body html
    h.nodes.tag_body h.nodes.tag_html inner
    (fun x hx => isLoose_or_isPart _ (isInside_of_isInner _ (hinner x hx))) hnested hscope with
    ⟨before, x, after, rfl, hbefore, hx⟩
  exact ⟨before, x, after ++ [body, html], by simp [hopened], hbefore, hx⟩

/-- Closing what is open, after what it implies. -/
theorem Stays.closeReached (h : b.Stays html body mark) (implied names : List String)
    (himplied : LooseNames implied) (hnames : LooseNames names)
    (hdisjoint : ∀ n ∈ names, n ∉ implied) (hreached : b.Reached names) :
    Keeps html body mark b ((b.closeImplied implied).closeUntil names) := by
  have hclosed := h.closeImplied implied himplied
  exact hclosed.trans
    (hclosed.stays.closeUntil names hnames (hreached.closeImplied implied hdisjoint))

theorem looseNames_implied : LooseNames impliedNames := by
  unfold LooseNames
  decide

theorem looseNames_filter (names : List String) (p : String → Bool) (h : LooseNames names) :
    LooseNames (names.filter p) :=
  fun n hn => h n (List.mem_of_mem_filter hn)

theorem looseNames_singleton (name : String) (h : name ∉ "html" :: "body" :: partNames) :
    LooseNames [name] :=
  fun _ hn => List.mem_singleton.mp hn ▸ h

/-! More nodes. -/

theorem Stays.grow (h : b.Stays html body mark) {tree : Scaffold}
    (hgrow : Scaffold.Grows html body mark b.nodes tree) :
    Keeps html body mark b { b with nodes := tree } := by
  have hnew (x : Nat) (hx : x ∈ b.opened) := hgrow.extended.tag_eq x (h.present x hx)
  have htags : b.opened.map tree.tag = b.opened.map b.nodes.tag :=
    List.map_congr_left fun x hx => (hnew x hx).1
  refine ⟨⟨hgrow.holds, ?_, fun x hx => (hnew x hx).2, htags ▸ h.nested,
    fun id start hentry => (h.formatting id start hentry).mono hgrow.extended, fun id hid => ?_,
    h.frameset, h.templates, h.waiting⟩, hgrow.extended,
    congrArg (List.find? isPart) htags, rfl, rfl⟩
  · rcases h.opened with ⟨inner, hopened, hinner⟩
    refine ⟨inner, hopened, fun x hx => ?_⟩
    rw [(hnew x (hopened ▸ List.mem_append_left _ hx)).1]
    exact hinner x hx
  · have hform := h.form id hid
    have hnew := hgrow.extended.tag_eq id hform.1
    exact ⟨hnew.2, hnew.1.trans hform.2⟩

theorem Stays.putAt (h : b.Stays html body mark) (place : Place) (id : Nat)
    (hid : id ≠ html ∧ id ≠ body) : Keeps html body mark b (b.putAt place id) := by
  cases place with
  | last parent => exact h.grow (h.nodes.append parent id hid)
  | before sibling => exact h.grow (h.nodes.insertBefore sibling id hid)

theorem Stays.create (h : b.Stays html body mark) (kind : CellKind)
    (hkind : ∀ cell, kind.asElement? = some cell → cell.tag.name ≠ "body") :
    Keeps html body mark b (b.create kind).1 ∧
      ((b.create kind).2 ≠ html ∧ (b.create kind).2 ≠ body) :=
  ⟨h.grow (h.nodes.add kind hkind), Ne.symm h.nodes.ne_size.1, Ne.symm h.nodes.ne_size.2⟩

theorem Stays.insertText (h : b.Stays html body mark) (s : List Char) :
    Keeps html body mark b (b.insertText s) := by
  rw [Builder.insertText]
  split
  · exact h.grow (h.nodes.appendText _ s)
  · exact h.grow (h.nodes.insertTextBefore _ s)

theorem Stays.commentIn (h : b.Stays html body mark) (parent : Nat) (s : List Char) :
    Keeps html body mark b (b.commentIn parent s) := by
  have hcreate := h.create (.comment s) (by simp [CellKind.asElement?])
  exact hcreate.1.trans (hcreate.1.stays.putAt (.last parent) _ hcreate.2)

theorem Stays.insertComment (h : b.Stays html body mark) (s : List Char) :
    Keeps html body mark b (b.insertComment s) := by
  have hcreate := h.create (.comment s) (by simp [CellKind.asElement?])
  exact hcreate.1.trans (hcreate.1.stays.putAt b.place _ hcreate.2)

theorem Stays.mergeHtml (h : b.Stays html body mark) (tag : StartTag) :
    Keeps html body mark b (b.mergeHtml tag) :=
  Keeps.ite (fun _ => Keeps.refl h) fun _ => h.grow (h.nodes.addAttributes _ _)

theorem createElement_opened (b : Builder) (tag : Tag) (attributes : List Attribute) :
    (b.createElement tag attributes).1.opened = b.opened := by
  rw [Builder.createElement]
  split <;> rfl

theorem putAt_opened (b : Builder) (place : Place) (id : Nat) :
    (b.putAt place id).opened = b.opened := by
  cases place <;> rfl

/-- A new element that is neither the document's nor the body. -/
structure IsNew (html body : Nat) (tag : Tag) (r : Builder × Nat) : Prop where
  other : r.2 ≠ html ∧ r.2 ≠ body
  present : (r.1.nodes.element? r.2).isSome
  tag_eq : r.1.tag r.2 = tag

theorem IsNew.keeps {tag : Tag} {id : Nat} (h : IsNew html body tag (b, id))
    (hkeeps : Keeps html body mark b b') : IsNew html body tag (b', id) := by
  have hnew := hkeeps.extended.tag_eq id h.present
  exact ⟨h.other, hnew.2, hnew.1.trans h.tag_eq⟩

theorem Stays.create_element (h : b.Stays html body mark) (tag : Tag) (attributes : List Attribute)
    (contents : Option Nat) (hname : tag.name ≠ "body") :
    Keeps html body mark b (b.create (.element tag attributes contents)).1 ∧
      IsNew html body tag (b.create (.element tag attributes contents)) := by
  have hcreate := h.create (.element tag attributes contents) fun cell hcell => by
    rw [← Option.some.inj hcell]
    exact hname
  have hcell : (b.create (.element tag attributes contents)).1.nodes.element?
      (b.create (.element tag attributes contents)).2 = some ⟨tag, attributes, contents⟩ := by
    rw [Builder.create, Scaffold.element?_add]
    exact if_pos rfl
  refine ⟨hcreate.1, hcreate.2, by rw [hcell]; rfl, ?_⟩
  rw [Builder.tag, Scaffold.tag_eq, hcell]
  rfl

theorem Stays.createElement (h : b.Stays html body mark) (tag : Tag) (attributes : List Attribute)
    (hname : tag.name ≠ "body") :
    Keeps html body mark b (b.createElement tag attributes).1 ∧
      IsNew html body tag (b.createElement tag attributes) := by
  rw [Builder.createElement]
  split
  · have hroot := (h.create .root (by simp [CellKind.asElement?])).1
    have hcreate := hroot.stays.create_element tag attributes (some (b.create .root).2) hname
    exact ⟨hroot.trans hcreate.1, hcreate.2⟩
  · exact h.create_element tag attributes none hname

theorem Stays.addElement (h : b.Stays html body mark) (tag : Tag) (attributes : List Attribute)
    (hname : tag.name ≠ "body") :
    Keeps html body mark b (b.addElement tag attributes).1 ∧
      IsNew html body tag (b.addElement tag attributes) := by
  have hcreate := h.createElement tag attributes hname
  have hput := hcreate.1.stays.putAt b.place _ hcreate.2.other
  exact ⟨hcreate.1.trans hput, hcreate.2.keeps hput⟩

/-! More open elements. -/

theorem Stays.push (h : b.Stays html body mark) (id : Nat) (hid : (b.nodes.element? id).isSome)
    (hinner : isInner (b.tag id) = true)
    (hstands : StandsIn (b.tag id) (b.opened.map b.tag).head?) :
    Stays html body mark { b with opened := id :: b.opened } where
  nodes := h.nodes
  opened := by
    rcases h.opened with ⟨inner, hopened, hall⟩
    exact ⟨id :: inner, by rw [hopened, List.cons_append],
      List.forall_mem_cons.mpr ⟨hinner, hall⟩⟩
  present := List.forall_mem_cons.mpr ⟨hid, h.present⟩
  nested := ⟨hstands, h.nested⟩
  formatting := h.formatting
  form := h.form
  frameset := h.frameset
  templates := h.templates
  waiting := h.waiting

/-- Whether an element with a tag may be opened anywhere in the body. -/
structure Openable (tag : Tag) : Prop where
  name : tag.name ≠ "body"
  inner : isInner tag = true
  loose : isLoose tag = true

/-- The names that are not opened anywhere in the body. -/
def fixedNames : List String :=
  ["html", "body", "head", "frameset"] ++ partNames

theorem openable_html (name : String) (h : name ∉ fixedNames) : Openable (.html name) := by
  simp only [fixedNames, List.mem_append, List.mem_cons, List.not_mem_nil, or_false, not_or] at h
  refine ⟨h.1.2.1, ?_, ?_⟩
  · simp [isInner, Tag.isOneOf, Tag.html, h.1]
  · simp [isLoose, Tag.isOneOf, Tag.html, h.1, h.2]

theorem openable_of_space (tag : Tag) (hspace : tag.space ≠ .html) (hname : tag.name ≠ "body") :
    Openable tag := by
  refine ⟨hname, ?_, isLoose_of_space tag hspace⟩
  rw [isInner_iff, ← Bool.not_eq_true, isOneOf_iff]
  exact fun h => hspace h.1

theorem Stays.push_loose (h : b.Stays html body mark) (id : Nat)
    (hid : (b.nodes.element? id).isSome) (hinner : isInner (b.tag id) = true)
    (hloose : isLoose (b.tag id) = true) :
    Keeps html body mark b { b with opened := id :: b.opened } := by
  refine ⟨h.push id hid hinner (standsIn_of_isLoose _ _ hloose),
    Scaffold.extends_of_eq fun _ => rfl, ?_, rfl, rfl⟩
  exact find?_append_loose [b.tag id] _ fun t ht => List.mem_singleton.mp ht ▸ hloose

theorem Stays.openElement (h : b.Stays html body mark) (tag : Tag) (attributes : List Attribute)
    (htag : Openable tag) :
    Keeps html body mark b (b.openElement tag attributes).1 ∧
      IsNew html body tag (b.openElement tag attributes) := by
  have hadd := h.addElement tag attributes htag.name
  unfold Builder.openElement
  generalize b.addElement tag attributes = r at hadd
  have hpush := hadd.1.stays.push_loose r.2 hadd.2.present (hadd.2.tag_eq ▸ htag.inner)
    (hadd.2.tag_eq ▸ htag.loose)
  exact ⟨hadd.1.trans hpush, hadd.2.keeps hpush⟩

theorem Stays.insert (h : b.Stays html body mark) (tag : StartTag)
    (htag : tag.name ∉ fixedNames) : Keeps html body mark b (b.insert tag) :=
  (h.openElement _ _ (openable_html _ htag)).1

theorem Stays.insertVoid (h : b.Stays html body mark) (tag : StartTag) (htag : tag.name ≠ "body") :
    Keeps html body mark b (b.insertVoid tag) :=
  (h.addElement _ _ htag).1

end Builder

end Html

end CiteRender
