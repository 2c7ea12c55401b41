import CiteRender.Proofs.Html.Lasting.Table
import CiteRender.Proofs.Html.Origin.Rules

/-!
# A Marked Body to the End of a Text

Once the body is open with its mark, every token leaves a state in which it is:
in the modes that are left, under the rules of other vocabularies, and by
induction over whatever text follows. So the document that comes of the text
has the marked body, and no other.

## Theorems

* `Builder.Lasts.rules`: What one step by the rules of a mode keeps.
* `Builder.Lasts.inForeign`: What one step by those of other vocabularies keeps.
* `Builder.Lasts.process`, `Builder.Lasts.run`: What a token and a text keep.
-/

namespace CiteRender

namespace Html

namespace Builder

variable {html body : Nat} {mark : String} {b b' : Builder}

/-- A state where neither a text is read nor one waits. -/
theorem Fits.settled_of (h : b.Fits) (htext : b.mode ≠ .inText) (htable : b.mode ≠ .inTableText) :
    FitsIn b.mode b.innermost := by
  rcases h with h | ⟨hmode, -⟩ | ⟨hmode, -⟩
  · exact h
  · exact absurd hmode htext
  · exact absurd hmode htable

theorem Lasts.keeps (h : b.Lasts html body mark) (hkeeps : Keeps html body mark b b')
    (htext : b.mode ≠ .inText) : b'.Lasts html body mark := by
  rcases h.fits with hfits | ⟨hmode, -⟩ | ⟨hmode, hfits⟩
  · exact hkeeps.lasts hfits
  · exact absurd hmode htext
  · exact ⟨hkeeps.stays, .inTableText (hkeeps.mode.trans hmode)
      (by rwa [hkeeps.returnMode, hkeeps.innermost])⟩

/-! The other modes. -/

theorem insertText_opened (b : Builder) (s : List Char) : (b.insertText s).opened = b.opened := by
  rw [Builder.insertText]
  split <;> rfl

theorem Stays.current_mem (h : b.Stays html body mark) : b.current ∈ b.opened := by
  rcases h.opened with ⟨inner, hopened, -⟩
  rw [current, hopened]
  cases inner <;> simp

theorem Lasts.inText (h : b.Lasts html body mark) (hmode : b.mode = .inText) (token : Token) :
    (b.inText token).Lasts html body mark := by
  rcases h.fits with hfits | ⟨-, hfits, hspace, hloose⟩ | ⟨htable, -⟩
  · rw [hmode] at hfits
    exact hfits.elim
  · -- The element whose text was read is loose, so closing it leaves the same part innermost.
    have hpop := h.stays.pop hloose
    have hreturn : { b.pop with mode := b.returnMode }.Lasts html body mark :=
      ⟨hpop.stays, .settled (by rw [← hpop.innermost] at hfits; exact hfits)⟩
    have htext (s : List Char) : (b.insertText s).Lasts html body mark := by
      have hkeeps := h.stays.insertText s
      refine ⟨hkeeps.stays, h.fits.congr hkeeps.mode hkeeps.returnMode hkeeps.innermost ?_⟩
      rw [currentTag, current, insertText_opened]
      exact (hkeeps.extended.tag_eq _ (h.stays.present _ h.stays.current_mem)).1
    cases token with
    | blanks s => exact htext s
    | text s => exact htext s
    | close name => exact ⟨hreturn.stays, hreturn.fits.congr rfl rfl rfl rfl⟩
    | stop => exact hreturn
    | _ => exact h
  · rw [hmode] at htable
    exact absurd htable (by simp)

theorem Stays.templateTurns (h : b.Stays html body mark) (mode : Mode) (hmode : mode ∈ heldModes)
    (hfits : FitsIn .inTemplate b.innermost) :
    (b.templateTurns mode).Lasts html body mark := by
  rcases hfits with ⟨t, ht, hone⟩
  -- The innermost part is the template, which every mode it may turn to fits.
  have hfits := fitsIn_template mode hmode t hone
  rw [← Option.mem_def.mp ht] at hfits
  refine ⟨⟨h.nodes, h.opened, h.present, h.nested, h.formatting, h.form, h.frameset, ?_,
    h.waiting⟩, .settled hfits⟩
  exact List.forall_mem_cons.mpr
    ⟨hmode, fun m hm => h.templates m ((List.drop_sublist _ _).subset hm)⟩

theorem Stays.inTemplate (h : b.Stays html body mark) (hmode : b.mode = .inTemplate)
    (hfits : FitsIn .inTemplate b.innermost) (token : Token) :
    (b.inTemplate token).Lasts html body mark := by
  have hsettled : FitsIn b.mode b.innermost := hmode ▸ hfits
  have hrefl := (Keeps.refl h).lasts hsettled
  have hbody := h.inBody hsettled token
  have hturns (mode : Mode) (hheld : mode ∈ heldModes) := h.templateTurns mode hheld hfits
  cases token with
  | start tag =>
      refine .ite (fun hname => h.inHead_start hsettled (List.contains_iff_mem.mp hname)) fun _ => ?_
      refine .ite (fun _ => hturns _ (by decide)) fun _ => ?_
      refine .ite (fun _ => hturns _ (by decide)) fun _ => ?_
      refine .ite (fun _ => hturns _ (by decide)) fun _ => ?_
      exact .ite (fun _ => hturns _ (by decide)) fun _ => hturns _ (by decide)
  | close name => exact Lasts.ite (fun _ => hrefl.closeTemplate) fun _ => hrefl
  | stop => exact hrefl.endInTemplate
  | _ => exact hbody (by simp)

/-- Going on in a mode that fits any parts. -/
theorem Stays.goOn (h : b.Stays html body mark) (mode : Mode) (hmode : ∀ part, FitsIn mode part) :
    { b with mode }.Lasts html body mark :=
  ⟨h, .settled (hmode _)⟩

theorem Stays.afterBody (h : b.Stays html body mark) (hmode : b.mode = .afterBody) (token : Token) :
    (b.afterBody token).Lasts html body mark := by
  have hfree (part : Option Tag) : FitsIn b.mode part := hmode ▸ trivial
  have hbody := h.inBody (hfree _) token fun _ _ _ _ => hfree
  have hback := h.goOn .inBody fun _ => trivial
  cases token with
  | blanks s => exact hbody
  | comment s => exact (h.commentIn _ s).lasts (hfree _)
  | start tag => exact .ite (fun _ => hbody) fun _ => hback
  | close name => exact .ite (fun _ => h.goOn .afterAfterBody fun _ => trivial) fun _ => hback
  | stop => exact h.lasts hfree
  | _ => exact hback

theorem Stays.afterAfterBody (h : b.Stays html body mark) (hmode : b.mode = .afterAfterBody)
    (token : Token) : (b.afterAfterBody token).Lasts html body mark := by
  have hfree (part : Option Tag) : FitsIn b.mode part := hmode ▸ trivial
  have hbody := h.inBody (hfree _) token fun _ _ _ _ => hfree
  have hback := h.goOn .inBody fun _ => trivial
  cases token with
  | blanks s => exact hbody
  | comment s => exact (h.commentIn 0 s).lasts (hfree _)
  | start tag => exact .ite (fun _ => hbody) fun _ => hback
  | stop => exact h.lasts hfree
  | _ => exact hback

/-- What one step by the rules of a mode keeps. -/
theorem Lasts.rules (h : b.Lasts html body mark) (token : Token) :
    (b.rules token).Lasts html body mark := by
  have hfits (mode : Mode) (hmode : b.mode = mode) (htext : mode ≠ .inText)
      (htable : mode ≠ .inTableText) : FitsIn mode b.innermost :=
    hmode ▸ h.fits.settled_of (hmode ▸ htext) (hmode ▸ htable)
  -- No parts fit the modes before the body and those of framesets, so these do not occur.
  unfold Builder.rules
  split
  · next hmode => exact (hfits _ hmode (by simp) (by simp)).elim
  · next hmode => exact (hfits _ hmode (by simp) (by simp)).elim
  · next hmode => exact (hfits _ hmode (by simp) (by simp)).elim
  · next hmode => exact (hfits _ hmode (by simp) (by simp)).elim
  · next hmode => exact (hfits _ hmode (by simp) (by simp)).elim
  · next hmode => exact h.stays.inBody (hmode ▸ trivial) token fun _ _ _ _ _ => hmode ▸ trivial
  · next hmode => exact h.inText hmode token
  · next hmode =>
      -- A mode for tables says that a table is open, which is what its rules ask for.
      have hin := hfits _ hmode (by simp) (by simp)
      exact h.stays.inTable (hmode ▸ hin) token fun _ _ _ => hin
  · next hmode =>
      rcases h.fits with hin | ⟨htext, -⟩ | ⟨-, hin⟩
      · rw [hmode] at hin
        exact hin.elim
      · rw [hmode] at htext
        exact absurd htext (by simp)
      · exact h.stays.inTableText hmode hin token
  · next hmode => exact h.stays.inCaption hmode token
  · next hmode => exact h.stays.inColumnGroup hmode token
  · next hmode => exact h.stays.inTableBody hmode (hfits _ hmode (by simp) (by simp)) token
  · next hmode => exact h.stays.inRow hmode (hfits _ hmode (by simp) (by simp)) token
  · next hmode => exact h.stays.inCell hmode (hfits _ hmode (by simp) (by simp)) token
  · next hmode => exact h.stays.inTemplate hmode (hfits _ hmode (by simp) (by simp)) token
  · next hmode => exact h.stays.afterBody hmode token
  · next hmode => exact (hfits _ hmode (by simp) (by simp)).elim
  · next hmode => exact (hfits _ hmode (by simp) (by simp)).elim
  · next hmode => exact h.stays.afterAfterBody hmode token
  · next hmode => exact (hfits _ hmode (by simp) (by simp)).elim

/-! Other vocabularies. -/

theorem Lasts.not_inText (h : b.Lasts html body mark) (hspace : b.currentTag.space ≠ .html) :
    b.mode ≠ .inText := by
  intro hmode
  rcases h.fits with hfits | ⟨-, -, hhtml, -⟩ | ⟨htable, -⟩
  · rw [hmode] at hfits
    exact hfits
  · exact hspace hhtml
  · rw [hmode] at htable
    exact absurd htable (by simp)

theorem Stays.leaveForeign (h : b.Stays html body mark) :
    Keeps html body mark b b.leaveForeign := by
  refine h.trim _ _ List.takeWhile_append_dropWhile.symm fun x hx => ?_
  have hforeign := List.all_eq_true.mp List.all_takeWhile x hx
  refine isLoose_of_space _ fun hspace => ?_
  simp [hspace] at hforeign

/-- An end tag closes elements of other vocabularies only. -/
theorem Lasts.foreignClose (h : b.Lasts html body mark) (htext : b.mode ≠ .inText) (name : String)
    (opened : List Nat) : ∀ (first : Bool) (before : List Nat), b.opened = before ++ opened →
      (∀ x ∈ before, (b.tag x).space ≠ .html) →
      (first = true → ∀ x ∈ opened.head?, (b.tag x).space ≠ .html) →
      (b.foreignClose Builder.rules name first opened).Lasts html body mark := by
  induction opened with
  | nil => exact fun _ _ _ _ _ => h
  | cons x rest ih =>
      intro first before hopened hbefore hfirst
      cases rest with
      | nil => exact h
      | cons y rest =>
          rw [Builder.foreignClose]
          swap
          · simp
          -- The induction is on what was not looked at; all before it is foreign and may close.
          refine .ite (fun _ => h.rules (.close name)) fun hhtml => ?_
          have hx : (b.tag x).space ≠ .html := by
            cases first with
            | true => exact hfirst rfl x rfl
            | false => simpa using hhtml
          have hmore : ∀ z ∈ before ++ [x], (b.tag z).space ≠ .html := by
            intro z hz
            rcases List.mem_append.mp hz with hz | hz
            · exact hbefore z hz
            · exact List.mem_singleton.mp hz ▸ hx
          have hsplit : b.opened = (before ++ [x]) ++ y :: rest := by
            rw [List.append_assoc, List.singleton_append, hopened]
          refine .ite (fun _ => ?_) fun _ => ih false (before ++ [x]) hsplit hmore (by simp)
          exact h.keeps (h.stays.trim _ _ hsplit fun z hz => isLoose_of_space _ (hmore z hz)) htext

/-- What one step by the rules of other vocabularies keeps. -/
theorem Lasts.inForeign (h : b.Lasts html body mark) (token : Token)
    (hforeign : b.isForeign token = true) :
    (inForeign Builder.rules b token).Lasts html body mark := by
  have hspace := isForeign_space token hforeign
  have htext := h.not_inText hspace
  have hleave := h.keeps h.stays.leaveForeign htext
  cases token with
  | nul => exact h.keeps (h.stays.insertText _) htext
  | blanks s => exact h.keeps (h.stays.insertText s) htext
  | text s => exact h.keeps (h.stays.insertText s).forbidFrameset htext
  | comment s => exact h.keeps (h.stays.insertComment s) htext
  | start tag =>
      refine .ite (fun _ => hleave.rules _) fun hends => ?_
      exact h.keeps (h.stays.openForeign _ _ hspace (foreignName_ne_body _ hends)) htext
  | close name =>
      refine .ite (fun _ => hleave.rules _) fun _ => ?_
      refine h.foreignClose htext name b.opened true [] rfl (by simp) fun _ x hx => ?_
      rwa [currentTag, current, Option.mem_def.mp hx] at hspace
  | _ => exact h

/-! Whole texts. -/

theorem Lasts.apply (token : Token) (fuel : Nat) :
    ∀ {b : Builder}, b.Lasts html body mark → (apply token fuel b).Lasts html body mark := by
  induction fuel with
  | zero => exact id
  | succ fuel ih =>
      intro b h
      have hstep : (if b.isForeign token then Builder.inForeign Builder.rules b token
          else b.rules token).Lasts html body mark :=
        .ite (h.inForeign token) fun _ => h.rules token
      rw [Builder.apply]
      generalize (if b.isForeign token then Builder.inForeign Builder.rules b token
        else b.rules token) = outcome at hstep ⊢
      cases outcome with
      | done b => exact hstep
      | again b => exact ih hstep

/-- What one token keeps. -/
theorem Lasts.process (h : b.Lasts html body mark) (token : Token) :
    (b.process token).Lasts html body mark := by
  have hplain := h.withNewline false
  rw [Builder.process]
  split
  · exact hplain
  · split
    · exact hplain
    · exact Lasts.apply _ _ hplain

theorem Lasts.processAll (h : b.Lasts html body mark) (tokens : List Token) :
    (tokens.foldl Builder.process b).Lasts html body mark :=
  List.foldlRecOn _ _ h fun _ h token _ => h.process token

/-- What reading a text keeps. -/
theorem Lasts.run (fuel : Nat) :
    ∀ {b : Builder} (s : List Char), b.Lasts html body mark → (run fuel b s).Lasts html body mark := by
  induction fuel with
  | zero => exact fun _ h => h
  | succ fuel ih =>
      intro b s h
      -- The text of an element goes through the rules as a list of tokens.
      have htext (tokens : List Token) : (b.processText tokens).Lasts html body mark :=
        Lasts.processAll (b := { b with textMode := .markup })
          ⟨h.stays, h.fits.congr rfl rfl rfl rfl⟩ tokens
      rw [Builder.run]
      split
      · split
        · exact h
        · next tokens rest _ =>
            have hall := h.processAll tokens
            exact ih _ ⟨hall.stays, hall.fits.congr rfl rfl rfl rfl⟩
      · exact ih _ (htext _)
      · exact ih _ (htext _)
      · exact ih _ (htext _)
      · exact h.processAll _

end Builder

end Html

end CiteRender
