import CiteRender.Proofs.Html.Endings
import CiteRender.Proofs.Html.Lasting.Opening

/-!
# In Front of the Body

The states that the reading of a document goes through before its body opens:
first without any element, then with the `html` element and perhaps the head and
an element in it. In all of them nothing waits for a later place, so a token has
one effect, which can be told from the mode.

A token is looked at in the states in which it is expected there: blanks,
comments and doctypes everywhere, a start tag of the root in front of all
elements, that of the head behind it, and the elements of the head in the head.

## Main definitions

* `Html.Scaffold.withChild`: A tree with a new last child of a node.
* `Html.Builder.IsUnrooted`: A state without any element.
* `Html.Builder.IsAhead`: A state with the `html` element and no body.
* `Html.Builder.IsInText`: A state in the raw text of an element of the head.
* `Html.Builder.PassesBy`: What blanks, comments and doctypes do not change.

## Theorems

* `passesBy_isUnrooted`, `IsAhead.passesBy`: These states are such.
* `IsUnrooted.processRoot`, `IsAhead.processHead`, `IsAhead.processHeadEnd`: The
  tags around the head.
* `IsAhead.processVoid`: An element of the head without content.
* `IsAhead.processText`, `IsInText.process`, `IsInText.close`: An element of the
  head with raw text.
-/

namespace CiteRender

namespace Html

namespace Scaffold

/-! Trees. -/

/-- A tree with a new last child of a node. -/
def withChild (nodes : Scaffold) (kind : CellKind) (p : Nat) : Scaffold :=
  (nodes.add kind).1.append p nodes.size

variable {nodes : Scaffold} {html : Nat}

theorem size_withChild (kind : CellKind) (p : Nat) :
    Array.size (nodes.withChild kind p) = Array.size nodes + 1 := by
  rw [withChild, size_append, size_add]

theorem element?_withChild (kind : CellKind) (p i : Nat) :
    (nodes.withChild kind p).element? i =
      if i = nodes.size then kind.asElement? else nodes.element? i := by
  rw [withChild, element?_append, element?_add]

theorem mem_children_withChild (kind : CellKind) (p i x : Nat) (hx : x ≠ nodes.size) :
    x ∈ (nodes.withChild kind p).children i ↔ x ∈ nodes.children i := by
  rw [withChild, mem_children_append _ _ _ _ _ hx, children_add]

/-- All children are among the nodes. -/
theorem below_withChild (h : ∀ i, ∀ x ∈ nodes.children i, x < nodes.size) (kind : CellKind)
    (p i x : Nat) (hx : x ∈ (nodes.withChild kind p).children i) :
    x < (nodes.withChild kind p).size := by
  rw [size_withChild]
  by_cases hnew : x = nodes.size
  · exact hnew ▸ Nat.lt_succ_self _
  · exact Nat.lt_succ_of_lt (h i x ((mem_children_withChild kind p i x hnew).mp hx))

/-- A tree without elements. -/
structure IsBare (nodes : Scaffold) : Prop where
  nonempty : 0 < nodes.size
  elementless : ∀ i, nodes.element? i = none
  below : ∀ i, ∀ x ∈ nodes.children i, x < nodes.size

theorem isBare_start : start.IsBare := by
  refine ⟨by decide, fun i => ?_, fun i x hx => ?_⟩
  · rcases i with _ | i <;> rfl
  · rcases i with _ | i <;> exact absurd hx List.not_mem_nil

theorem IsBare.withChild (h : nodes.IsBare) (kind : CellKind) (hkind : kind.asElement? = none)
    (p : Nat) : (nodes.withChild kind p).IsBare := by
  refine ⟨size_withChild kind p ▸ Nat.succ_pos _, fun i => ?_, below_withChild h.below kind p⟩
  rw [element?_withChild, hkind, h.elementless, ite_self]

/-- The `html` element goes into the document. -/
theorem IsBare.root (h : nodes.IsBare) (attributes : List Attribute) :
    (nodes.withChild (.element (.html "html") attributes none) 0).IsRooted nodes.size := by
  have hfresh (k : Nat) :
      nodes.size ∉ (nodes.add (.element (.html "html") attributes none)).1.children k := by
    rw [children_add]
    exact fun hmem => Nat.lt_irrefl _ (h.below k _ hmem)
  refine ⟨?_, ?_, ⟨⟨.html "html", attributes, none⟩, ?_, rfl, rfl⟩, fun i hi => ?_, fun i cell hcell => ?_,
    below_withChild h.below _ _⟩
  · rw [element?_withChild, if_neg (Nat.ne_of_lt h.nonempty), h.elementless]
  · refine mem_children_append_self _ _ _ ?_
    rw [size_add]
    exact Nat.succ_pos _
  · rw [element?_withChild, if_pos rfl]
    rfl
  · exact eq_of_mem_children_append _ _ _ _ hfresh hi
  · rw [element?_withChild, h.elementless] at hcell
    split at hcell
    · rw [← Option.some.inj hcell]
      exact (by decide : "html" ≠ "body")
    · exact absurd hcell (by simp)

theorem IsRooted.withChild (h : nodes.IsRooted html) (kind : CellKind)
    (hkind : ∀ cell, kind.asElement? = some cell → cell.tag.name ≠ "body") (p : Nat) :
    (nodes.withChild kind p).IsRooted html := by
  rcases h.root with ⟨root, hroot, htag⟩
  have hne : html ≠ nodes.size := Nat.ne_of_lt (lt_of_element? nodes html root hroot)
  have hnonempty : 0 ≠ nodes.size := fun hzero =>
    Nat.not_lt_zero _ (hzero ▸ lt_of_element? nodes html root hroot)
  refine ⟨?_, (mem_children_withChild kind p 0 html hne).mpr h.outer, ⟨root, ?_, htag⟩,
    fun i hi => h.onlyOuter i ((mem_children_withChild kind p i html hne).mp hi),
    fun i cell hcell => ?_, below_withChild h.below kind p⟩
  · rw [element?_withChild, if_neg hnonempty, h.document]
  · rw [element?_withChild, if_neg hne, hroot]
  · rw [element?_withChild] at hcell
    split at hcell
    · exact hkind cell hcell
    · exact h.bodiless i cell hcell

theorem IsRooted.extendText (h : nodes.IsRooted html) (i : Nat) (s : List Char) :
    (nodes.extendText i s).IsRooted html := by
  rcases h.root with ⟨root, hroot, htag⟩
  refine ⟨?_, ?_, ⟨root, ?_, htag⟩, fun j hj => h.onlyOuter j ?_, fun j cell hcell => ?_,
    fun j x hx => ?_⟩
  · rw [element?_extendText, h.document]
  · rw [children_extendText]
    exact h.outer
  · rw [element?_extendText, hroot]
  · rwa [children_extendText] at hj
  · rw [element?_extendText] at hcell
    exact h.bodiless j cell hcell
  · rw [children_extendText] at hx
    rw [size_extendText]
    exact h.below j x hx

/-- A text may join one that is there. -/
theorem appendText_cases (nodes : Scaffold) (p : Nat) (s : List Char) :
    (∃ i, nodes.appendText p s = nodes.extendText i s) ∨
      nodes.appendText p s = nodes.withChild (.text [s]) p := by
  rw [appendText]
  split
  · next i _ => exact Or.inl ⟨i, rfl⟩
  · exact Or.inr rfl

end Scaffold

/-- The elements of the head that hold raw text. -/
def headTextNames : List String :=
  ["title", "noframes", "style", "noscript", "script"]

/-- How the inside of such an element is read. -/
def textModeOf (name : String) : TextMode :=
  if name = "title" then .withReferences name
  else if name = "script" then .script
  else .raw name

namespace Builder

variable {html : Nat} {phase : Mode} {stack : List Nat} {b : Builder}

/-! States. -/

theorem IsCalm.withTree (h : b.IsCalm) (nodes : Scaffold) (opened : List Nat) :
    { b with nodes, opened }.IsCalm :=
  ⟨h.textMode, h.formatting, h.form, h.templates, h.waiting, h.fostering, h.newline⟩

theorem IsCalm.withMode (h : b.IsCalm) (mode : Mode) : { b with mode }.IsCalm :=
  ⟨h.textMode, h.formatting, h.form, h.templates, h.waiting, h.fostering, h.newline⟩

theorem IsCalm.withAnew (h : b.IsCalm) (readsAnew : Bool) : { b with readsAnew }.IsCalm :=
  ⟨h.textMode, h.formatting, h.form, h.templates, h.waiting, h.fostering, h.newline⟩

/-- A state without any element. -/
structure IsUnrooted (b : Builder) : Prop extends b.IsCalm where
  nodes : b.nodes.IsBare
  opened : b.opened = []
  mode : b.mode = .initial ∨ b.mode = .beforeHtml

/-- A state with the `html` element and no body. The open elements are none of
    those whose content is elsewhere or of another vocabulary. -/
structure IsAhead (html : Nat) (phase : Mode) (stack : List Nat) (b : Builder) : Prop
    extends b.IsCalm where
  nodes : b.nodes.IsRooted html
  mode : b.mode = phase
  opened : b.opened = stack
  plain : ∀ x ∈ stack, ∃ cell, b.nodes.element? x = some cell ∧ cell.tag.space = .html ∧
    cell.contents = none

theorem isUnrooted_start : ({} : Builder).IsUnrooted :=
  ⟨⟨rfl, rfl, rfl, rfl, rfl, rfl, rfl⟩, Scaffold.isBare_start, rfl, Or.inl rfl⟩

theorem IsAhead.isBetween (h : b.IsAhead html .afterHead [html]) : b.IsBetween html :=
  ⟨h.toIsCalm, h.nodes, h.mode, h.opened⟩

theorem IsAhead.withAnew (h : b.IsAhead html phase stack) (readsAnew : Bool) :
    { b with readsAnew }.IsAhead html phase stack :=
  ⟨h.toIsCalm.withAnew readsAnew, h.nodes, h.mode, h.opened, h.plain⟩

theorem IsAhead.withMode (h : b.IsAhead html phase stack) (mode : Mode) :
    { b with mode }.IsAhead html mode stack :=
  ⟨h.toIsCalm.withMode mode, h.nodes, rfl, h.opened, h.plain⟩

/-! What a token does. -/

/-- A doctype behind the first place for it does nothing. -/
theorem IsCalm.processIdle (h : b.IsCalm) (token : Token) (hidle : b.isIdle token = true) :
    b.process token = b := by
  have hsame : { b with dropNewline := false } = b := by rw [← h.newline]
  rw [Builder.process, hidle, if_pos rfl, hsame]

theorem apply_again (token : Token) (fuel : Nat) (b' : Builder)
    (hforeign : b.isForeign token = false) (hrules : b.rules token = .again b') :
    apply token (fuel + 1) b = apply token fuel b' := by
  rw [apply, hforeign, if_neg (by simp), hrules]

theorem isForeign_of_opened (h : b.opened = []) (token : Token) : b.isForeign token = false := by
  simp [isForeign, h]

theorem IsAhead.isForeign (h : b.IsAhead html phase stack) (token : Token) :
    b.isForeign token = false := by
  rcases stack with _ | ⟨x, stack⟩
  · exact isForeign_of_opened h.opened token
  · rcases h.plain x List.mem_cons_self with ⟨cell, hcell, hspace, -⟩
    have htag : b.currentTag.space = .html := by
      rw [currentTag, current, h.opened, List.head?_cons, Option.getD_some, tag, Scaffold.tag_eq, hcell]
      exact hspace
    simp [Builder.isForeign, htag]

/-- A token that the rules of the mode are done with. -/
theorem IsAhead.process (h : b.IsAhead html phase stack) (token : Token) (b' : Builder)
    (hidle : b.isIdle token = false) (hrules : b.rules token = .done b') :
    b.process token = b' := by
  rw [h.toIsCalm.process token hidle]
  exact apply_done token _ b' (h.isForeign token) hrules

theorem IsUnrooted.process (h : b.IsUnrooted) (token : Token) (b' : Builder)
    (hidle : b.isIdle token = false) (hrules : b.rules token = .done b') :
    b.process token = b' := by
  rw [h.toIsCalm.process token hidle]
  exact apply_done token _ b' (isForeign_of_opened h.opened token) hrules

/-- What blanks, comments and doctypes do not change. -/
structure PassesBy (P : Builder → Prop) : Prop where
  calm : ∀ b, P b → b.IsCalm
  anew : ∀ b, P b → P { b with readsAnew := false }
  blanks : ∀ b s, P b → P (b.process (.blanks s))
  comment : ∀ b s, P b → P (b.process (.comment s))
  doctype : ∀ b d, P b → P (b.process (.doctype d))

theorem IsUnrooted.withChild (h : b.IsUnrooted) (kind : CellKind) (hkind : kind.asElement? = none) :
    { b with nodes := b.nodes.withChild kind 0 }.IsUnrooted :=
  ⟨h.toIsCalm.withTree _ _, h.nodes.withChild kind hkind 0, h.opened, h.mode⟩

theorem passesBy_isUnrooted : PassesBy IsUnrooted where
  calm _ h := h.toIsCalm
  anew _ h := ⟨h.toIsCalm.withAnew false, h.nodes, h.opened, h.mode⟩
  blanks b s h := by
    have hrules : b.rules (.blanks s) = .done b := by
      rcases h.mode with hmode | hmode <;> rw [rules, hmode] <;> rfl
    rw [h.process _ b rfl hrules]
    exact h
  comment b s h := by
    have hrules : b.rules (.comment s) = .done (b.commentIn 0 s) := by
      rcases h.mode with hmode | hmode <;> rw [rules, hmode] <;> rfl
    rw [h.process _ _ rfl hrules]
    exact h.withChild (.comment s) rfl
  doctype b d h := by
    -- Only the first doctype is placed, and any other is an error without effect.
    rcases h.mode with hmode | hmode
    · have hrules : b.rules (.doctype d) = b.inInitial (.doctype d) := by rw [rules, hmode]
      rw [h.process _ _ (by simp [isIdle, hmode]) hrules]
      have hplaced := h.withChild (.doctype (d.name.getD [])) rfl
      exact ⟨⟨h.textMode, h.formatting, h.form, h.templates, h.waiting, h.fostering, h.newline⟩,
        hplaced.nodes, h.opened, Or.inr rfl⟩
    · rw [h.toIsCalm.processIdle _ (by simp [isIdle, hmode])]
      exact h

/-! Placing. -/

/-- The next node goes into the innermost element. -/
theorem IsAhead.place {x : Nat} (h : b.IsAhead html phase (x :: stack)) : b.place = .last x := by
  rcases h.plain x List.mem_cons_self with ⟨cell, hcell, -, hcontents⟩
  rw [Builder.place, placeIn, h.fostering, Bool.false_and, if_neg (by simp), current, h.opened,
    List.head?_cons, Option.getD_some, Scaffold.contentsOrSelf_eq, hcell]
  simp [hcontents]

/-- A tree that grows keeps what is open. -/
theorem IsAhead.withNodes (h : b.IsAhead html phase stack) (nodes : Scaffold)
    (hnodes : nodes.IsRooted html)
    (hgrows : ∀ i cell, b.nodes.element? i = some cell → nodes.element? i = some cell) :
    { b with nodes }.IsAhead html phase stack := by
  refine ⟨h.toIsCalm.withTree _ _, hnodes, h.mode, h.opened, fun x hx => ?_⟩
  rcases h.plain x hx with ⟨cell, hcell, hplain⟩
  exact ⟨cell, hgrows x cell hcell, hplain⟩

theorem IsAhead.withChild (h : b.IsAhead html phase stack) (kind : CellKind)
    (hkind : ∀ cell, kind.asElement? = some cell → cell.tag.name ≠ "body") (p : Nat) :
    { b with nodes := b.nodes.withChild kind p }.IsAhead html phase stack := by
  refine h.withNodes _ (h.nodes.withChild kind hkind p) fun i cell hcell => ?_
  rw [Scaffold.element?_withChild, if_neg (Nat.ne_of_lt (Scaffold.lt_of_element? _ _ _ hcell)), hcell]

theorem IsAhead.insertText {x : Nat} (h : b.IsAhead html phase (x :: stack)) (s : List Char) :
    (b.insertText s).IsAhead html phase (x :: stack) := by
  rw [Builder.insertText, h.place]
  dsimp only
  rcases Scaffold.appendText_cases b.nodes x s with ⟨i, htext⟩ | htext
  · rw [htext]
    refine h.withNodes _ (h.nodes.extendText i s) fun j cell hcell => ?_
    rw [Scaffold.element?_extendText, hcell]
  · rw [htext]
    exact h.withChild (.text [s]) (fun _ hcell => absurd hcell (by simp [CellKind.asElement?])) x

theorem IsAhead.insertComment {x : Nat} (h : b.IsAhead html phase (x :: stack)) (s : List Char) :
    (b.insertComment s).IsAhead html phase (x :: stack) := by
  have hinsert : b.insertComment s = { b with nodes := b.nodes.withChild (.comment s) x } := by
    rw [Builder.insertComment, h.place]
    rfl
  rw [hinsert]
  exact h.withChild (.comment s) (fun _ hcell => absurd hcell (by simp [CellKind.asElement?])) x

theorem IsAhead.passesBy {x : Nat}
    (hphase : phase = .beforeHead ∨ phase = .inHead ∨ phase = .afterHead) :
    PassesBy (IsAhead html phase (x :: stack)) where
  calm _ h := h.toIsCalm
  anew _ h := h.withAnew false
  blanks b s h := by
    have hrules : b.rules (.blanks s) = .done b ∨ b.rules (.blanks s) = .done (b.insertText s) := by
      rw [rules, h.mode]
      rcases hphase with rfl | rfl | rfl
      · exact Or.inl rfl
      · exact Or.inr rfl
      · exact Or.inr rfl
    -- Blanks in front of the head are dropped, and in or behind it they are kept.
    rcases hrules with hrules | hrules
    · rw [h.process _ _ rfl hrules]
      exact h
    · rw [h.process _ _ rfl hrules]
      exact h.insertText s
  comment b s h := by
    have hrules : b.rules (.comment s) = .done (b.insertComment s) := by
      rw [rules, h.mode]
      rcases hphase with rfl | rfl | rfl <;> rfl
    rw [h.process _ _ rfl hrules]
    exact h.insertComment s
  doctype b d h := by
    have hidle : b.isIdle (.doctype d) = true := by
      rw [isIdle, h.mode]
      rcases hphase with rfl | rfl | rfl <;> rfl
    rw [h.toIsCalm.processIdle _ hidle]
    exact h

/-! Elements. -/

/-- A new element in the innermost one. -/
theorem IsAhead.addElement {x : Nat} (h : b.IsAhead html phase (x :: stack)) (name : String)
    (attributes : List Attribute) (hname : name ≠ "template") :
    b.addElement (.html name) attributes =
      ({ b with nodes := b.nodes.withChild (.element (.html name) attributes none) x },
        b.nodes.size) := by
  have htemplate : (Tag.html name).isNamed "template" = false := by simp [Tag.isNamed, Tag.html, hname]
  rw [Builder.addElement, h.place, createElement, htemplate, if_neg (by simp)]
  rfl

theorem IsAhead.insertVoid {x : Nat} (h : b.IsAhead html phase (x :: stack)) (tag : StartTag)
    (htemplate : tag.name ≠ "template") (hbody : tag.name ≠ "body") :
    (b.insertVoid tag).IsAhead html phase (x :: stack) := by
  rw [Builder.insertVoid, h.addElement _ _ htemplate]
  exact h.withChild (.element (.html tag.name) (plainAttributes tag) none)
    (fun cell hcell => Option.some.inj hcell ▸ hbody) x

theorem IsAhead.insert_eq {x : Nat} (h : b.IsAhead html phase (x :: stack)) (tag : StartTag)
    (htemplate : tag.name ≠ "template") :
    b.insert tag = { b with
      nodes := b.nodes.withChild (.element (.html tag.name) (plainAttributes tag) none) x
      opened := b.nodes.size :: x :: stack } := by
  rw [Builder.insert, openElement, h.addElement _ _ htemplate, ← h.opened]

theorem IsAhead.insert {x : Nat} (h : b.IsAhead html phase (x :: stack)) (tag : StartTag)
    (htemplate : tag.name ≠ "template") (hbody : tag.name ≠ "body") :
    (b.insert tag).IsAhead html phase (b.nodes.size :: x :: stack) := by
  have hadded := h.withChild (.element (.html tag.name) (plainAttributes tag) none)
    (fun cell hcell => Option.some.inj hcell ▸ hbody) x
  rw [h.insert_eq tag htemplate]
  refine ⟨h.toIsCalm.withTree _ _, hadded.nodes, h.mode, rfl, List.forall_mem_cons.mpr ⟨?_, hadded.plain⟩⟩
  exact ⟨_, by rw [Scaffold.element?_withChild, if_pos rfl]; rfl, rfl, rfl⟩

/-- The start tag of the root opens it. -/
theorem IsUnrooted.openRoot (h : b.IsUnrooted) (tag : StartTag) :
    (b.openRoot tag).IsAhead b.nodes.size .beforeHead [b.nodes.size] := by
  have hopen : b.openRoot tag = { b with
      nodes := b.nodes.withChild (.element (.html "html") (plainAttributes tag) none) 0
      opened := [b.nodes.size]
      mode := .beforeHead } := rfl
  rw [hopen]
  refine ⟨(h.toIsCalm.withTree _ _).withMode _, h.nodes.root _, rfl, rfl, ?_⟩
  rw [List.forall_mem_singleton]
  exact ⟨_, by rw [Scaffold.element?_withChild, if_pos rfl]; rfl, rfl, rfl⟩

theorem IsUnrooted.processRoot (h : b.IsUnrooted) (tag : StartTag) (htag : tag.name = "html") :
    (b.process (.start tag)).IsAhead b.nodes.size .beforeHead [b.nodes.size] := by
  have hforeign := isForeign_of_opened h.opened (.start tag)
  have hbefore (b' : Builder) (hmode : b'.mode = .beforeHtml) :
      b'.rules (.start tag) = .done (b'.openRoot tag) := by
    rw [rules, hmode, beforeHtml]
    dsimp only
    rw [if_pos htag]
  rw [h.toIsCalm.process _ rfl]
  -- Without a doctype the tag is looked at twice, in two modes.
  rcases h.mode with hmode | hmode
  · have hnext : ({ b with mode := .beforeHtml, oldLayout := true } : Builder).IsUnrooted :=
      ⟨⟨h.textMode, h.formatting, h.form, h.templates, h.waiting, h.fostering, h.newline⟩,
        h.nodes, h.opened, Or.inr rfl⟩
    have hagain : b.rules (.start tag) =
        .again { b with mode := .beforeHtml, oldLayout := true } := by
      rw [rules, hmode]
      rfl
    rw [apply_again _ _ _ hforeign hagain,
      apply_done _ _ _ (isForeign_of_opened hnext.opened _) (hbefore _ rfl)]
    exact hnext.openRoot tag
  · rw [apply_done _ _ _ hforeign (hbefore b hmode)]
    exact h.openRoot tag

/-- The start tag of the head opens it. -/
theorem IsAhead.processHead (h : b.IsAhead html .beforeHead [html]) (tag : StartTag)
    (htag : tag.name = "head") :
    (b.process (.start tag)).IsAhead html .inHead [b.nodes.size, html] := by
  have hrules : b.rules (.start tag) = .done (b.openHead tag) := by
    rw [rules, h.mode, beforeHead]
    dsimp only
    rw [htag, if_neg (by decide), if_pos rfl]
  have hinsert := h.insert tag (htag ▸ by decide) (htag ▸ by decide)
  have hopen : b.openHead tag = { b.insert tag with
      head := some (b.openElement (.html "head") (plainAttributes tag)).2, mode := .inHead } := by
    rw [Builder.openHead, Builder.insert, htag]
  rw [h.process _ _ rfl hrules, hopen]
  exact ⟨⟨hinsert.textMode, hinsert.formatting, hinsert.form, hinsert.templates, hinsert.waiting,
    hinsert.fostering, hinsert.newline⟩, hinsert.nodes, rfl, hinsert.opened, hinsert.plain⟩

/-- The innermost element closes. -/
theorem IsAhead.pop {x : Nat} (h : b.IsAhead html phase (x :: stack)) :
    b.pop.IsAhead html phase stack := by
  refine ⟨h.toIsCalm.withTree _ _, h.nodes, h.mode, ?_, fun y hy =>
    h.plain y (List.mem_cons_of_mem _ hy)⟩
  show b.opened.drop 1 = stack
  rw [h.opened]
  rfl

/-- The end tag of the head closes it. -/
theorem IsAhead.processHeadEnd {x : Nat} (h : b.IsAhead html .inHead (x :: stack)) :
    (b.process (.close "head")).IsAhead html .afterHead stack := by
  have hrules : b.rules (.close "head") = .done { b.pop with mode := .afterHead } := by
    rw [rules, h.mode]
    rfl
  rw [h.process _ _ rfl hrules]
  exact h.pop.withMode .afterHead

/-- An element of the head without content is added. -/
theorem IsAhead.processVoid {x : Nat} (h : b.IsAhead html .inHead (x :: stack)) (tag : StartTag)
    (htag : tag.name ∈ headVoidNames) :
    (b.process (.start tag)).IsAhead html .inHead (x :: stack) := by
  have hnames : tag.name ≠ "html" ∧ tag.name ≠ "template" ∧ tag.name ≠ "body" :=
    (by decide : ∀ name ∈ headVoidNames, name ≠ "html" ∧ name ≠ "template" ∧ name ≠ "body") _ htag
  have hrules : b.rules (.start tag) =
      .done { b.insertVoid tag with readsAnew := tag.declaresEncoding } := by
    rw [rules, h.mode, inHead]
    dsimp only
    rw [if_neg hnames.1, if_pos (List.contains_iff_mem.mpr htag)]
  rw [h.process _ _ rfl hrules]
  exact (h.insertVoid tag hnames.2.1 hnames.2.2).withAnew _

/-! Raw text. -/

/-- A state in the raw text of an element of the head. -/
structure IsInText (html x : Nat) (stack : List Nat) (b : Builder) : Prop
    extends b.IsAhead html .inText (x :: stack) where
  returnMode : b.returnMode = .inHead
  anew : b.readsAnew = false

/-- The start tag of an element with raw text opens it. -/
theorem IsAhead.processText {x : Nat} (h : b.IsAhead html .inHead (x :: stack)) (tag : StartTag)
    (htag : tag.name ∈ headTextNames) (hanew : b.readsAnew = false) :
    (b.process (.start tag)).textMode = textModeOf tag.name ∧
      { b.process (.start tag) with textMode := .markup }.IsInText html b.nodes.size (x :: stack) := by
  have hnames : tag.name ≠ "template" ∧ tag.name ≠ "body" :=
    (by decide : ∀ name ∈ headTextNames, name ≠ "template" ∧ name ≠ "body") _ htag
  have hrules : b.rules (.start tag) = .done (b.insertWithText tag (textModeOf tag.name)) := by
    simp only [headTextNames, List.mem_cons, List.not_mem_nil, or_false] at htag
    rw [rules, h.mode, inHead]
    dsimp only
    rcases htag with hname | hname | hname | hname | hname <;>
    · rw [hname]
      rfl
  rw [h.process _ _ rfl hrules]
  have hinsert := h.insert tag hnames.1 hnames.2
  refine ⟨rfl, ⟨⟨⟨rfl, hinsert.formatting, hinsert.form, hinsert.templates, hinsert.waiting,
    hinsert.fostering, hinsert.newline⟩, hinsert.nodes, rfl, hinsert.opened, hinsert.plain⟩, h.mode, ?_⟩⟩
  rw [insertWithText, h.insert_eq tag hnames.1]
  exact hanew

/-- Reading the inside of an element with raw text gives characters, up to where
    it ends. -/
theorem step_text (name : String) (hmode : b.textMode = textModeOf name) (s : List Char) :
    ∃ tokens : List Token, (∀ t ∈ tokens, isCharacters t = true ∨ t = .slip) ∧
      b.step s = some (b.processText tokens, behindText name s) := by
  rw [textModeOf] at hmode
  rw [step, behindText]
  split at hmode
  · next htitle =>
      rw [hmode, if_neg (by rw [htitle]; decide)]
      exact ⟨_, isCharacters_of_mem_referencedRuns _, rfl⟩
  · split at hmode
    · next hscript =>
        rw [hmode, if_pos hscript]
        exact ⟨_, fun t ht => Or.inl (isCharacters_of_mem_runs _ t ht), rfl⟩
    · next hscript =>
        rw [hmode, if_neg hscript]
        exact ⟨_, fun t ht => Or.inl (isCharacters_of_mem_runs _ t ht), rfl⟩

/-- Characters do not end a raw text. -/
theorem IsInText.process {x : Nat} (h : b.IsInText html x stack) (token : Token)
    (htoken : isCharacters token = true ∨ token = .slip) : (b.process token).IsInText html x stack := by
  have hinsert (s : List Char) : (b.insertText s).IsInText html x stack := by
    refine ⟨h.toIsAhead.insertText s, ?_, ?_⟩
    · rw [Builder.insertText, h.toIsAhead.place]
      exact h.returnMode
    · rw [Builder.insertText, h.toIsAhead.place]
      exact h.anew
  have hrules (t : Token) : b.rules t = b.inText t := by rw [rules, h.mode]
  rcases htoken with htoken | rfl
  · cases token with
    | blanks s =>
        rw [h.toIsAhead.process _ _ rfl (hrules _)]
        exact hinsert s
    | text s =>
        rw [h.toIsAhead.process _ _ rfl (hrules _)]
        exact hinsert s
    | nul =>
        rw [h.toIsAhead.process _ _ rfl (hrules _)]
        exact h
    | _ => exact absurd htoken (by simp [isCharacters])
  · rw [h.toIsCalm.processIdle _ rfl]
    exact h

theorem IsInText.foldl {x : Nat} (tokens : List Token)
    (htokens : ∀ t ∈ tokens, isCharacters t = true ∨ t = .slip) (h : b.IsInText html x stack) :
    (tokens.foldl Builder.process b).IsInText html x stack :=
  List.foldlRecOn _ _ h fun _ hb token htoken => hb.process token (htokens token htoken)

/-- The end tag of an element with raw text closes it. -/
theorem IsInText.close {x : Nat} (h : b.IsInText html x stack) (name : String) :
    (b.process (.close name)).IsAhead html .inHead stack := by
  have hrules : b.rules (.close name) = .done
      { b.pop with mode := b.returnMode, readsAnew := name = "script" } := by
    rw [rules, h.mode]
    rfl
  rw [h.toIsAhead.process _ _ rfl hrules, h.returnMode]
  exact (h.toIsAhead.pop.withMode .inHead).withAnew _

end Builder

end Html

end CiteRender
