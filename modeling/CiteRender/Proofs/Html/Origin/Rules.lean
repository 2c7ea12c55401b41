import CiteRender.Html.Parse
import CiteRender.Proofs.Html.Origin.Operations

/-!
# Where Attributes Come From, Step by Step

Every rule is a choice among the operations, so what all of them keep is kept by
a step in any mode, and by induction while a whole text is read. A rule may also
pass a token on to another mode, or find that it has nothing to say about a tag
and leave it to the next group of rules; both are outcomes of which it is said
here what it means that they are named.

## Main definitions

* `Html.Outcome.IsNamed`: An outcome whose state is named.
* `Html.SomeNamed`: The same of a rule that may have nothing to say.

## Theorems

* `Builder.IsNamed.rules`, `Builder.IsNamed.inForeign`: What a step keeps.
* `Builder.IsNamed.process`, `Builder.IsNamed.run`: What a token and a text keep.
* `isNamed_of_mem_parse`: The elements of a document are named.
-/

namespace CiteRender

namespace Html

/-- An outcome whose state is named. -/
def Outcome.IsNamed : Outcome → Prop
  | .done b => b.IsNamed
  | .again b => b.IsNamed

@[simp] theorem outcome_done (b : Builder) : (Outcome.done b).IsNamed ↔ b.IsNamed := Iff.rfl

@[simp] theorem outcome_again (b : Builder) : (Outcome.again b).IsNamed ↔ b.IsNamed := Iff.rfl

@[simp] theorem outcome_ite (p : Prop) [Decidable p] (x y : Outcome) :
    (if p then x else y).IsNamed ↔ if p then x.IsNamed else y.IsNamed := by
  split <;> rfl

/-- A state that there may be, and that is named if there is one. -/
def SomeNamed (found : Option Builder) : Prop :=
  ∀ b ∈ found, b.IsNamed

@[simp] theorem someNamed_none : SomeNamed none := fun _ hb => absurd hb (by simp)

@[simp] theorem someNamed_some (b : Builder) : SomeNamed (some b) ↔ b.IsNamed := by
  simp [SomeNamed]

@[simp] theorem someNamed_ite (p : Prop) [Decidable p] (x y : Option Builder) :
    SomeNamed (if p then x else y) ↔ if p then SomeNamed x else SomeNamed y := by
  split <;> rfl

theorem SomeNamed.getD {x : Option Builder} {b : Builder} (hx : SomeNamed x) (hb : b.IsNamed) :
    (x.getD b).IsNamed := by
  cases x with
  | none => exact hb
  | some b => simpa using hx

namespace Builder

variable {b : Builder} {tag : StartTag} {token : Token}

/-! The head. -/

theorem IsNamed.openTemplate (h : b.IsNamed) (htag : tag.IsNamed) : (b.openTemplate tag).IsNamed := by
  simpa [Builder.openTemplate] using (h.insert htag).pushMarker

theorem IsNamed.leaveTemplate (h : b.IsNamed) : b.leaveTemplate.IsNamed := by
  simpa [Builder.leaveTemplate] using h.clearToMarker

theorem IsNamed.closeTemplate (h : b.IsNamed) : b.closeTemplate.IsNamed := by
  rw [Builder.closeTemplate]
  split
  · exact IsNamed.leaveTemplate (by simpa using h)
  · exact h

theorem IsNamed.inHead (h : b.IsNamed) (htoken : token.IsNamed) : (b.inHead token).IsNamed := by
  cases token with
  | blanks s => exact h.insertText s
  | comment s => exact h.insertComment s
  | start tag =>
      have htag : tag.IsNamed := htoken
      have hvoid := h.insertVoid htag
      have htext := h.insertWithText htag
      simp [Builder.inHead, leaveHead, h, h.mergeHtml htoken, hvoid, htext, h.openTemplate htoken]
  | close name => simp [Builder.inHead, leaveHead, h, h.closeTemplate]
  | _ => simpa [Builder.inHead, leaveHead] using h

theorem IsNamed.endInTemplate (h : b.IsNamed) : b.endInTemplate.IsNamed := by
  rw [Builder.endInTemplate]
  split
  · exact IsNamed.leaveTemplate (by simpa using h)
  · exact h

/-! The body. -/

theorem IsNamed.openItem (h : b.IsNamed) (names : List String) (htag : tag.IsNamed) :
    (b.openItem names tag).IsNamed := by
  rw [Builder.openItem]
  refine IsNamed.insert ?_ htag
  rw [isNamed_closeParagraphInScope]
  split <;> simpa using h

theorem IsNamed.openForm (h : b.IsNamed) (htag : tag.IsNamed) : (b.openForm tag).IsNamed := by
  have hopen := IsNamed.openTag (b := b.closeParagraphInScope) (by simpa using h) htag
  simp [Builder.openForm, h, hopen]

theorem IsNamed.openLink (h : b.IsNamed) (htag : tag.IsNamed) : (b.openLink tag).IsNamed := by
  rw [Builder.openLink]
  refine IsNamed.openFormatting (IsNamed.reopen ?_) htag
  split
  · simpa using (h.closeFormatting "a").removeFormatting _
  · exact h

theorem IsNamed.replaceBody (h : b.IsNamed) (htag : tag.IsNamed) : (b.replaceBody tag).IsNamed := by
  rw [Builder.replaceBody]
  split
  · next body _ _ =>
      have hnodes := h.nodes.of_element?_eq fun i => b.nodes.element?_detach body i
      have hinsert := IsNamed.insert (b := { b with
        nodes := b.nodes.detach body, opened := [b.outermost] }) (h.withNodes hnodes) htag
      simpa using hinsert
  · exact h

theorem IsNamed.mergeBody (h : b.IsNamed) (htag : tag.IsNamed) : (b.mergeBody tag).IsNamed := by
  rw [Builder.mergeBody]
  split
  · split
    · exact h
    · exact h.withNodes (h.nodes.addAttributes _ _ htag)
  · exact h

theorem IsNamed.closeOption (h : b.IsNamed) : b.closeOption.IsNamed := by
  simpa [Builder.closeOption] using h

theorem IsNamed.openSelect (h : b.IsNamed) (htag : tag.IsNamed) : (b.openSelect tag).IsNamed := by
  simp [Builder.openSelect, h, h.reopen.insert htag]

theorem IsNamed.openOption (h : b.IsNamed) (htag : tag.IsNamed) : (b.openOption tag).IsNamed :=
  IsNamed.insert (IsNamed.reopen (by simp [h, h.closeOption])) htag

theorem IsNamed.openGroup (h : b.IsNamed) (htag : tag.IsNamed) : (b.openGroup tag).IsNamed :=
  IsNamed.insert (IsNamed.reopen (by simp [h, h.closeOption])) htag

theorem IsNamed.addRule (h : b.IsNamed) (htag : tag.IsNamed) : (b.addRule tag).IsNamed := by
  rw [Builder.addRule, isNamed_forbidFrameset]
  exact IsNamed.insertVoid (by simpa using h) htag

theorem IsNamed.addInput (h : b.IsNamed) (htag : tag.IsNamed) : (b.addInput tag).IsNamed := by
  have hinput := IsNamed.insertVoid (IsNamed.reopen (b := if b.selects then
    b.closeUntil ["select"] else b) (by simpa using h)) htag
  simpa [Builder.addInput] using hinput

theorem IsNamed.blockStart (h : b.IsNamed) (htag : tag.IsNamed) : SomeNamed (b.blockStart tag) := by
  have hclosed : b.closeParagraphInScope.IsNamed := by simpa using h
  have hheading := IsNamed.insert (b := if b.closeParagraphInScope.currentTag.isOneOf headingNames
    then b.closeParagraphInScope.pop else b.closeParagraphInScope) (by simpa using h) htag
  have htable := IsNamed.insert (b := if b.oldLayout then b else b.closeParagraphInScope)
    (by simpa using h) htag
  have hxmp := IsNamed.insertWithText (b := b.closeParagraphInScope.reopen.forbidFrameset)
    (by simpa using hclosed.reopen) htag
  simp [Builder.blockStart, hclosed.insert htag, hheading, htable, hxmp, h.openForm htag,
    h.openItem _ htag, h.addRule htag]

theorem IsNamed.openForeign (h : b.IsNamed) (space : Space) (name : String) (hspace : space ≠ .html)
    (hname : name ≠ "body") : (b.openForeign space name tag).IsNamed := by
  have hcell (contents : Option Nat) : ElementCell.IsNamed
      ⟨⟨space, name⟩, tag.attributes.map (foreignAttribute space), contents⟩ :=
    ⟨fun hhtml => absurd hhtml hspace, fun hbody => absurd hbody hname⟩
  simp [Builder.openForeign, h.addElement _ _ hcell, h.openElement _ _ hcell]

theorem IsNamed.inlineStart (h : b.IsNamed) (htag : tag.IsNamed) : SomeNamed (b.inlineStart tag) := by
  have hnobr := IsNamed.openFormatting (b := if b.reopen.inScope defaultBounds ["nobr"]
    then (b.reopen.closeFormatting "nobr").reopen else b.reopen)
    (by simp [h.reopen, (h.reopen.closeFormatting "nobr").reopen]) htag
  have hbutton := IsNamed.insert (b := Builder.reopen (if b.inScope defaultBounds ["button"]
    then (b.closeImplied impliedNames).closeUntil ["button"] else b))
    (IsNamed.reopen (by simpa using h)) htag
  have htext := IsNamed.insertWithText (b := b.forbidFrameset) (by simpa using h) htag
  have hrb := IsNamed.insert (b := if b.inScope defaultBounds ["ruby"]
    then b.closeImplied impliedNames else b) (by simpa using h) htag
  have hrp := IsNamed.insert (b := if b.inScope defaultBounds ["ruby"]
    then b.closeImpliedExcept "rtc" else b) (by simpa using h) htag
  have hmath : (b.reopen.openForeign .mathml "math" tag).IsNamed :=
    h.reopen.openForeign .mathml "math" (by simp) (by simp)
  have hsvg : (b.reopen.openForeign .svg "svg" tag).IsNamed :=
    h.reopen.openForeign .svg "svg" (by simp) (by simp)
  simp [Builder.inlineStart, h.openLink htag, h.reopen.openFormatting htag, hnobr, hbutton,
    (h.reopen.insert htag).pushMarker, h.reopen.insertVoid htag, h.addInput htag,
    h.insertVoid htag, htext, h.insertWithText htag, h.openSelect htag, h.openOption htag,
    h.openGroup htag, hrb, hrp, hmath, hsvg]

theorem IsNamed.bodyStart (h : b.IsNamed) (htag : tag.IsNamed) : (b.bodyStart tag).IsNamed := by
  unfold Builder.bodyStart
  have hrenamed : StartTag.IsNamed (if tag.name = "image" then { tag with name := "img" } else tag) := by
    split <;> exact htag
  generalize (if tag.name = "image" then { tag with name := "img" } else tag) = tag at hrenamed ⊢
  have hother := (h.blockStart hrenamed).getD
    ((h.inlineStart hrenamed).getD (h.reopen.insert hrenamed))
  have htoken : (Token.start tag).IsNamed := hrenamed
  simp [h, h.mergeHtml hrenamed, h.inHead htoken, h.mergeBody hrenamed, h.replaceBody hrenamed,
    hother]

theorem IsNamed.closeForm (h : b.IsNamed) : b.closeForm.IsNamed := by
  rw [Builder.closeForm]
  split
  · simpa using h
  · split
    · exact h
    · simpa using h

theorem IsNamed.elementClose (h : b.IsNamed) (name : String) : (b.elementClose name).IsNamed := by
  have hparagraph := h.insertImplied "p"
  have hbreak := h.reopen.insertVoid (isNamed_bare "br")
  have hmarker := IsNamed.clearToMarker
    (b := (b.closeImplied impliedNames).closeUntil [name]) (by simpa using h)
  simp [Builder.elementClose, closeInScope, h, h.closeTemplate, h.closeForm, hparagraph,
    h.closeFormatting, hmarker, hbreak, h.closeAny]

theorem IsNamed.inBody (h : b.IsNamed) (htoken : token.IsNamed) : (b.inBody token).IsNamed := by
  cases token with
  | text s => simpa [Builder.inBody] using h.reopen.insertText s
  | blanks s => exact h.reopen.insertText s
  | comment s => exact h.insertComment s
  | start tag => exact h.bodyStart htoken
  | close name => simp [Builder.inBody, bodyClose, h, h.elementClose name]
  | stop => simp [Builder.inBody, h, h.endInTemplate]
  | _ => exact h

/-! Tables. -/

theorem IsNamed.fosterInBody (h : b.IsNamed) (htoken : token.IsNamed) :
    (b.fosterInBody token).IsNamed := by
  have hbody := IsNamed.inBody (b := { b with fostering := true }) h htoken
  rw [Builder.fosterInBody]
  split <;> simp_all

theorem IsNamed.textInTable (h : b.IsNamed) (htoken : token.IsNamed) :
    (b.textInTable token).IsNamed := by
  rw [Builder.textInTable]
  split
  · exact ⟨h.nodes, h.formatting, fun t ht => absurd ht List.not_mem_nil⟩
  · exact h.fosterInBody htoken

theorem IsNamed.tableStart (h : b.IsNamed) (htag : tag.IsNamed) : (b.tableStart tag).IsNamed := by
  have hcaption := IsNamed.insert (IsNamed.pushMarker (b := b.toTable) h) htag
  have hopen := IsNamed.insert (b := b.toTable) h htag
  have himplied := IsNamed.insertImplied (b := b.toTable) h
  have hform := h.addElement _ _ (isNamed_of_startTag tag.name tag htag)
  have htoken : (Token.start tag).IsNamed := htag
  simp [Builder.tableStart, goOn, h, hcaption, hopen, himplied, h.insertVoid htag, hform,
    h.inHead htoken, h.fosterInBody htoken]

theorem IsNamed.inTable (h : b.IsNamed) (htoken : token.IsNamed) : (b.inTable token).IsNamed := by
  cases token with
  | start tag => exact h.tableStart htoken
  | close name => simp [Builder.inTable, h, h.closeTemplate, h.fosterInBody htoken]
  | comment s => exact h.insertComment s
  | stop => exact h.inBody htoken
  | _ => exact h.textInTable htoken

theorem IsNamed.placeWaiting (h : b.IsNamed) (foster : Bool) (htoken : token.IsNamed) :
    (placeWaiting foster b token).IsNamed := by
  have hfoster := h.fosterInBody htoken
  unfold Builder.placeWaiting
  split
  · split <;> simp_all
  · split
    · exact h.insertText _
    · exact h.insertText _
    · exact h

theorem IsNamed.inTableText (h : b.IsNamed) (htoken : token.IsNamed) :
    (b.inTableText token).IsNamed := by
  have hwait (htoken : token.IsNamed) :
      IsNamed { b with waitingText := token :: b.waitingText } :=
    ⟨h.nodes, h.formatting, List.forall_mem_cons.mpr ⟨htoken, h.waiting⟩⟩
  have hplaced (foster : Bool) : IsNamed (b.waitingText.reverse.foldl
      (Builder.placeWaiting foster) { b with waitingText := [] }) := by
    refine List.foldlRecOn _ _ ?_ fun b' hb' t ht => hb'.placeWaiting foster ?_
    · exact ⟨h.nodes, h.formatting, fun t ht => absurd ht List.not_mem_nil⟩
    · exact h.waiting t (List.mem_reverse.mp ht)
  cases token with
  | nul => exact h
  | blanks s => exact hwait htoken
  | text s => exact hwait htoken
  | _ => exact hplaced _

theorem IsNamed.closeCaption (h : b.IsNamed) : b.closeCaption.IsNamed := by
  have hclosed := IsNamed.clearToMarker
    (b := (b.closeImplied impliedNames).closeUntil ["caption"]) (by simpa using h)
  simpa [Builder.closeCaption] using hclosed

theorem IsNamed.inCaption (h : b.IsNamed) (htoken : token.IsNamed) :
    (b.inCaption token).IsNamed := by
  have hbody := h.inBody htoken
  cases token with
  | start tag => simp [Builder.inCaption, h, h.closeCaption, hbody]
  | close name => simp [Builder.inCaption, h, h.closeCaption, hbody]
  | _ => exact hbody

theorem IsNamed.inColumnGroup (h : b.IsNamed) (htoken : token.IsNamed) :
    (b.inColumnGroup token).IsNamed := by
  have hleave : b.leaveColumnGroup.IsNamed := by simp [leaveColumnGroup, goOn, h]
  cases token with
  | blanks s => exact h.insertText s
  | comment s => exact h.insertComment s
  | start tag =>
      simp [Builder.inColumnGroup, hleave, h.inBody htoken, h.inHead htoken, h.insertVoid htoken]
  | close name => simp [Builder.inColumnGroup, h, hleave, h.closeTemplate]
  | stop => exact h.inBody htoken
  | _ => exact hleave

theorem IsNamed.inTableBody (h : b.IsNamed) (htoken : token.IsNamed) :
    (b.inTableBody token).IsNamed := by
  have htable := h.inTable htoken
  have hleave : b.leaveSection.IsNamed := by simp [leaveSection, goOn, toSection, h]
  cases token with
  | start tag =>
      have hopen := IsNamed.insert (b := b.toSection) h htoken
      have himplied := IsNamed.insertImplied (b := b.toSection) h
      simp [Builder.inTableBody, goOn, hopen, himplied, hleave, htable]
  | close name => simp [Builder.inTableBody, toSection, h, hleave, htable]
  | _ => exact htable

theorem IsNamed.inRow (h : b.IsNamed) (htoken : token.IsNamed) : (b.inRow token).IsNamed := by
  have htable := h.inTable htoken
  have hclosed : b.closeRow.IsNamed := by simpa [closeRow] using h
  have hleave : b.leaveRow.IsNamed := by simp [leaveRow, h, hclosed]
  cases token with
  | start tag =>
      have hopen := IsNamed.pushMarker (IsNamed.insert
        (b := b.closeToContext ["tr", "template", "html"]) h htoken)
      simp [Builder.inRow, hopen, hleave, htable]
  | close name => simp [Builder.inRow, h, hclosed, hleave, htable]
  | _ => exact htable

theorem IsNamed.inCell (h : b.IsNamed) (htoken : token.IsNamed) : (b.inCell token).IsNamed := by
  have hbody := h.inBody htoken
  have hclear (names : List String) := IsNamed.clearToMarker
    (b := (b.closeImplied impliedNames).closeUntil names) (by simpa using h)
  have hclosed : b.closeCell.IsNamed := by simpa [closeCell] using hclear ["td", "th"]
  cases token with
  | start tag => simp [Builder.inCell, h, hclosed, hbody]
  | close name => simp [Builder.inCell, h, hclear, hclosed, hbody]
  | _ => exact hbody

/-! The other modes. -/

theorem IsNamed.openRoot (h : b.IsNamed) (htag : tag.IsNamed) : (b.openRoot tag).IsNamed := by
  have hcreate := h.createElement _ _ (isNamed_of_startTag "html" tag htag)
  simpa [Builder.openRoot] using hcreate.putAt (.last 0) _

theorem IsNamed.openHead (h : b.IsNamed) (htag : tag.IsNamed) : (b.openHead tag).IsNamed := by
  have hopen := h.openElement _ _ (isNamed_of_startTag "head" tag htag)
  simpa [Builder.openHead] using hopen

theorem IsNamed.inInitial (h : b.IsNamed) (token : Token) : (b.inInitial token).IsNamed := by
  cases token with
  | comment s => exact h.commentIn 0 s
  | doctype d =>
      have hcreate := h.create (.doctype (d.name.getD [])) (by simp [CellKind.asElement?])
      simpa [Builder.inInitial] using hcreate.putAt (.last 0) _
  | _ => simpa [Builder.inInitial] using h

theorem IsNamed.beforeHtml (h : b.IsNamed) (htoken : token.IsNamed) :
    (b.beforeHtml token).IsNamed := by
  have himplied := h.openRoot (isNamed_bare "html")
  cases token with
  | blanks s => exact h
  | comment s => exact h.commentIn 0 s
  | start tag =>
      have htag : tag.IsNamed := htoken
      simp [Builder.beforeHtml, himplied, h.openRoot htag]
  | close name => simp [Builder.beforeHtml, h, himplied]
  | _ => exact himplied

theorem IsNamed.beforeHead (h : b.IsNamed) (htoken : token.IsNamed) :
    (b.beforeHead token).IsNamed := by
  have himplied := h.openHead (isNamed_bare "head")
  cases token with
  | blanks s => exact h
  | comment s => exact h.insertComment s
  | start tag =>
      have htag : tag.IsNamed := htoken
      simp [Builder.beforeHead, himplied, h.inBody htoken, h.openHead htag]
  | close name => simp [Builder.beforeHead, h, himplied]
  | _ => exact himplied

theorem IsNamed.backInHead (h : b.IsNamed) (htoken : token.IsNamed) :
    (b.backInHead token).IsNamed := by
  rw [Builder.backInHead]
  split
  · exact h
  · next head _ =>
      have hhead := IsNamed.inHead (b := { b with opened := head :: b.opened }) h htoken
      split <;> simp_all

theorem IsNamed.afterHead (h : b.IsNamed) (htoken : token.IsNamed) :
    (b.afterHead token).IsNamed := by
  have himplied := h.insertImplied "body"
  cases token with
  | blanks s => exact h.insertText s
  | comment s => exact h.insertComment s
  | start tag =>
      have htag : tag.IsNamed := htoken
      simp [Builder.afterHead, goOn, h, himplied, h.inBody htoken, h.insert htag,
        h.backInHead htoken]
  | close name => simp [Builder.afterHead, goOn, h, himplied, h.closeTemplate]
  | _ => simpa [Builder.afterHead, goOn] using himplied

theorem IsNamed.inText (h : b.IsNamed) (token : Token) : (b.inText token).IsNamed := by
  cases token with
  | blanks s => exact h.insertText s
  | text s => exact h.insertText s
  | _ => simpa [Builder.inText, goOn] using h

theorem IsNamed.inTemplate (h : b.IsNamed) (htoken : token.IsNamed) :
    (b.inTemplate token).IsNamed := by
  cases token with
  | start tag => simp [Builder.inTemplate, templateTurns, h, h.inHead htoken]
  | close name => simp [Builder.inTemplate, h, h.closeTemplate]
  | stop => exact h.endInTemplate
  | _ => exact h.inBody htoken

theorem IsNamed.afterBody (h : b.IsNamed) (htoken : token.IsNamed) :
    (b.afterBody token).IsNamed := by
  cases token with
  | blanks s => exact h.inBody htoken
  | comment s => exact h.commentIn _ s
  | start tag => simp [Builder.afterBody, goOn, h, h.inBody htoken]
  | close name => simp [Builder.afterBody, goOn, h]
  | _ => simpa [Builder.afterBody, goOn] using h

theorem IsNamed.inFrameset (h : b.IsNamed) (htoken : token.IsNamed) :
    (b.inFrameset token).IsNamed := by
  cases token with
  | blanks s => exact h.insertText s
  | comment s => exact h.insertComment s
  | start tag =>
      have htag : tag.IsNamed := htoken
      simp [Builder.inFrameset, h, h.inBody htoken, h.insert htag, h.insertVoid htag,
        h.inHead htoken]
  | close name => simp [Builder.inFrameset, h]
  | _ => exact h

theorem IsNamed.afterFrameset (h : b.IsNamed) (htoken : token.IsNamed) :
    (b.afterFrameset token).IsNamed := by
  cases token with
  | blanks s => exact h.insertText s
  | comment s => exact h.insertComment s
  | start tag => simp [Builder.afterFrameset, h, h.inBody htoken, h.inHead htoken]
  | close name => simp [Builder.afterFrameset, h]
  | _ => exact h

theorem IsNamed.afterAfterBody (h : b.IsNamed) (htoken : token.IsNamed) :
    (b.afterAfterBody token).IsNamed := by
  cases token with
  | blanks s => exact h.inBody htoken
  | comment s => exact h.commentIn 0 s
  | start tag => simp [Builder.afterAfterBody, goOn, h, h.inBody htoken]
  | _ => simpa [Builder.afterAfterBody, goOn] using h

theorem IsNamed.afterAfterFrameset (h : b.IsNamed) (htoken : token.IsNamed) :
    (b.afterAfterFrameset token).IsNamed := by
  cases token with
  | blanks s => exact h.inBody htoken
  | comment s => exact h.commentIn 0 s
  | start tag => simp [Builder.afterAfterFrameset, h, h.inBody htoken, h.inHead htoken]
  | _ => exact h

/-- What one step by the rules of a mode keeps. -/
theorem IsNamed.rules (h : b.IsNamed) (htoken : token.IsNamed) : (b.rules token).IsNamed := by
  unfold Builder.rules
  split
  · exact h.inInitial token
  · exact h.beforeHtml htoken
  · exact h.beforeHead htoken
  · exact h.inHead htoken
  · exact h.afterHead htoken
  · exact h.inBody htoken
  · exact h.inText token
  · exact h.inTable htoken
  · exact h.inTableText htoken
  · exact h.inCaption htoken
  · exact h.inColumnGroup htoken
  · exact h.inTableBody htoken
  · exact h.inRow htoken
  · exact h.inCell htoken
  · exact h.inTemplate htoken
  · exact h.afterBody htoken
  · exact h.inFrameset htoken
  · exact h.afterFrameset htoken
  · exact h.afterAfterBody htoken
  · exact h.afterAfterFrameset htoken

/-! Other vocabularies. -/

theorem restoreName_ne_body (names : List String) (hnames : "body" ∉ names) (name : String)
    (hname : name ≠ "body") : restoreName names name ≠ "body" := by
  rw [restoreName]
  generalize hfound : List.find? _ names = found
  cases found with
  | none => exact hname
  | some known => exact fun hbody => hnames (hbody ▸ List.mem_of_find?_eq_some hfound)

/-- The tag of a body ends another vocabulary, so it is never the name of an
    element there. -/
theorem foreignName_ne_body (space : Space) (hends : ¬ endsForeign tag = true) :
    (if space = .svg then svgTagName tag.name else tag.name) ≠ "body" := by
  have hname : tag.name ≠ "body" := by
    intro hname
    exact hends (by simp [endsForeign, hname, htmlOnlyNames])
  split
  · exact restoreName_ne_body _ (by decide) _ hname
  · exact hname

theorem IsNamed.foreignClose (h : b.IsNamed) (name : String) (opened : List Nat) :
    ∀ first, (b.foreignClose Builder.rules name first opened).IsNamed := by
  induction opened with
  | nil => exact fun _ => h
  | cons id rest ih =>
      intro first
      cases rest with
      | nil => exact h
      | cons other rest =>
          have hrules : (b.rules (.close name)).IsNamed := h.rules trivial
          simp [Builder.foreignClose, h, hrules, ih]

theorem isForeign_space (token : Token) (hforeign : b.isForeign token = true) :
    b.currentTag.space ≠ .html := by
  intro hspace
  simp [isForeign, hspace] at hforeign

theorem IsNamed.inForeign (h : b.IsNamed) (htoken : token.IsNamed)
    (hforeign : b.isForeign token = true) : (inForeign Builder.rules b token).IsNamed := by
  cases token with
  | nul => exact h.insertText _
  | blanks s => exact h.insertText s
  | text s => simpa [Builder.inForeign] using h.insertText s
  | comment s => exact h.insertComment s
  | start tag =>
      rw [Builder.inForeign]
      split
      · exact IsNamed.rules (b := b.leaveForeign) h htoken
      · next hends =>
          exact h.openForeign _ _ (isForeign_space _ hforeign) (foreignName_ne_body _ hends)
  | close name =>
      rw [Builder.inForeign]
      split
      · exact IsNamed.rules (b := b.leaveForeign) h htoken
      · exact h.foreignClose name _ _
  | _ => exact h

/-! Whole texts. -/

theorem IsNamed.apply (htoken : token.IsNamed) (fuel : Nat) :
    ∀ {b : Builder}, b.IsNamed → (apply token fuel b).IsNamed := by
  induction fuel with
  | zero => exact id
  | succ fuel ih =>
      intro b h
      have hstep : (if b.isForeign token then Builder.inForeign Builder.rules b token
          else b.rules token).IsNamed := by
        split
        · next hforeign => exact h.inForeign htoken hforeign
        · exact h.rules htoken
      rw [Builder.apply]
      split
      · next heq => rwa [heq] at hstep
      · next heq =>
          rw [heq] at hstep
          exact ih hstep

theorem isNamed_withoutNewline (htoken : token.IsNamed) :
    ∀ t ∈ withoutNewline token, t.IsNamed := by
  intro t ht
  unfold withoutNewline at ht
  split at ht
  · simp at ht
  · rw [← Option.some.inj ht]
    trivial
  · rw [← Option.some.inj ht]
    exact htoken

theorem IsNamed.process (h : b.IsNamed) (htoken : token.IsNamed) : (b.process token).IsNamed := by
  rw [Builder.process]
  split
  · exact h
  · split
    · exact h
    · next t heq =>
        refine IsNamed.apply ?_ _ h
        split at heq
        · exact isNamed_withoutNewline htoken t heq
        · rwa [← Option.some.inj heq]

theorem IsNamed.processAll {tokens : List Token} (h : b.IsNamed) (htokens : ∀ t ∈ tokens, t.IsNamed) :
    (tokens.foldl Builder.process b).IsNamed :=
  List.foldlRecOn _ _ h fun _ h t ht => h.process (htokens t ht)

/-- What reading a text keeps. -/
theorem IsNamed.run (fuel : Nat) :
    ∀ {b : Builder} (s : List Char), b.IsNamed → (run fuel b s).IsNamed := by
  induction fuel with
  | zero => exact fun _ h => h
  | succ fuel ih =>
      intro b s h
      have htext (tokens : List Token) (htokens : ∀ t ∈ tokens, t.IsNamed) :
          (b.processText tokens).IsNamed := IsNamed.processAll (b := { b with textMode := .markup })
            h htokens
      rw [Builder.run]
      split
      · split
        · exact h
        · next tokens rest hread =>
            exact ih _ (h.processAll (isNamed_of_readTokens _ s rest tokens hread))
      · exact ih _ (htext _ (isNamed_of_mem_referencedRuns _))
      · exact ih _ (htext _ (isNamed_of_mem_runs _))
      · exact ih _ (htext _ (isNamed_of_mem_runs _))
      · exact h.processAll (isNamed_of_mem_runs _)

theorem isNamed_start : IsNamed {} := by
  refine ⟨fun i cell hcell => ?_, fun _ _ h => absurd h List.not_mem_nil,
    fun _ h => absurd h List.not_mem_nil⟩
  rcases i with _ | i
  · exact absurd hcell (by simp [Scaffold.element?, Scaffold.start, CellKind.asElement?])
  · exact absurd hcell (by simp [Scaffold.element?, Scaffold.start])

end Builder

/-- The elements of a document have only attributes with names that can be
    read, if they are of HTML, as any body is. -/
theorem isNamed_of_mem_parse (s : List Char) (e : Element Unit)
    (he : e ∈ Node.elementsIn (parse s)) :
    (e.tag.space = .html → ∀ a ∈ e.attributes, IsReadable a) ∧
      (e.tag.name = "body" → e.tag.space = .html) := by
  rcases Scaffold.element?_of_mem_trees _ e he with ⟨i, contents, hcell⟩
  have hstart := Builder.IsNamed.run (2 * (unifyLines (dropMark s)).length + 2)
    (unifyLines (dropMark s)) Builder.isNamed_start
  have hstop : Token.IsNamed .stop := trivial
  have hcell := (hstart.process hstop).nodes i _ hcell
  exact ⟨hcell.readable, hcell.body⟩

end Html

end CiteRender
