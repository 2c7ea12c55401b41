import CiteRender.Proofs.Bibtex.WellFormed
import CiteRender.Proofs.Text.Seams

/-!
# Abbreviations Spelled Out

An abbreviation stands for what its definition says, so one would think that the
definition may be written in its place. A value has the grammar for it: pieces
are joined by `#`, and what is joined can be joined again.

What stands between the two is when a value is brought into its plain form. The
pieces of a value are joined as they are and the blanks around words go last,
but an abbreviation is kept in its plain form already, so the blanks at its ends
are gone before it is joined to anything. `FitsIn` says that they are not
missed, and `plainText_between_iff` that this is all that can differ.

A name that begins with a digit is another matter. It can be defined, but where
it is used its digits are read as a number, so no piece refers to it.

## Main definitions

* `unbraced`: A text less its braces.
* `Parts`, `FitsIn`: A value with gaps, and what fits in them.
* `IsReference`, `Mentions`: A name used for an abbreviation.
* `SpellsOutValue`, `SpellsOutFields`, `SpellsOutRecord`: Texts with some
  references spelled out.

## Theorems

* `plainText_between_iff`: The plain form with plain text in the gaps.
* `fitsIn_of_trimmed`: What has no outer blanks fits everywhere.
* `IsValue.update_of_not_mentions`: Only names that are mentioned matter.
* `SpellsOutValue.isValue`, `SpellsOutRecord.isBlock`: What both texts say.
-/

namespace CiteRender

namespace Bibtex

/-- A text less its braces. -/
def unbraced (v : List Char) : List Char :=
  v.filter fun c => c != '{' && c != '}'

theorem plainText_eq_joinWords (v : List Char) : plainText v = Text.joinWords (unbraced v) := rfl

theorem unbraced_plainText (v : List Char) : unbraced (plainText v) = plainText v := by
  have hkept := isKept_plainText v
  refine List.filter_eq_self.mpr fun c hc => ?_
  have hopen : c ≠ '{' := fun heq => hkept.opening (heq ▸ hc)
  have hclose : c ≠ '}' := fun heq => hkept.closing (heq ▸ hc)
  simp [hopen, hclose]

/-- The values of the pieces of a value, in order, with gaps for the references to
    one abbreviation. -/
abbrev Parts := List (Option (List Char))

theorem unbraced_between (v : List Char) (parts : Parts) :
    unbraced (Text.between v parts) =
      Text.between (unbraced v) (parts.map (Option.map unbraced)) := by
  induction parts with
  | nil => rfl
  | cons part parts ih =>
      rw [List.map_cons, Text.between_cons, Text.between_cons, ← ih, unbraced, List.filter_append]
      cases part <;> rfl

/-- Less its braces, a text has no outer blanks that part words in the gaps of a value. -/
def FitsIn (v : List Char) (parts : Parts) : Prop :=
  Text.Fits (unbraced v) [] (parts.map (Option.map unbraced))

/-- Putting the plain form of a text in the gaps of a value, in place of the text. -/
theorem plainText_between_iff (v : List Char) (parts : Parts) :
    plainText (Text.between (plainText v) parts) = plainText (Text.between v parts) ↔
      FitsIn v parts := by
  rw [plainText_eq_joinWords (Text.between (plainText v) parts),
    plainText_eq_joinWords (Text.between v parts), Text.joinWords_eq_iff, unbraced_between,
    unbraced_between, unbraced_plainText, plainText_eq_joinWords]
  exact (Text.words_between_iff (unbraced v) _ []).2

/-- A text that has no outer blanks, less its braces, fits everywhere. -/
theorem fitsIn_of_trimmed (v : List Char) (parts : Parts)
    (hstart : ∀ c ∈ (unbraced v).head?, Text.isBlank c = false)
    (hend : ∀ c ∈ (unbraced v).getLast?, Text.isBlank c = false) : FitsIn v parts :=
  Text.fits_of_trimmed (unbraced v) hstart hend _ []

theorem isDigit_toLower (c : Char) : c.toLower.isDigit = c.isDigit := by
  by_cases halpha : c.isAlpha = true
  · rw [Text.isDigit_of_isAlpha c halpha,
      Text.isDigit_of_isAlpha c.toLower (c.isAlpha_toLower_eq_isAlpha.trans halpha)]
  · have hupper : ¬ c.isUpper = true := fun h => halpha (by rw [Char.isAlpha, h, Bool.true_or])
    rw [Char.toLower_eq_of_not_isUpper hupper]

/-- A name that refers to an abbreviation, in any letter case. A number is read where
    a name begins with a digit, so such a name refers to nothing. -/
structure IsReference (word p : List Char) : Prop where
  isRun : IsRun isNameChar p
  head : ∀ c ∈ p.head?, c.isDigit = false
  lower : Text.lower p = word

/-- One of the pieces of a value refers to an abbreviation. -/
inductive Mentions (word : List Char) : List Char → Prop
  | last (a p b : List Char) (ha : IsGap a) (hp : IsReference word p) (hb : IsGap b) :
      Mentions word (a ++ p ++ b)
  | first (a p b e : List Char) (ha : IsGap a) (hp : IsReference word p) (hb : IsGap b) :
      Mentions word (a ++ p ++ b ++ '#' :: e)
  | later (a p b v e : List Char) (ha : IsGap a) (hp : IsPiece (fun _ => none) p v)
      (hb : IsGap b) (he : Mentions word e) : Mentions word (a ++ p ++ b ++ '#' :: e)

/-- A single text in quotes or braces mentions nothing. -/
theorem not_mentions_of_head (word : List Char) (c : Char) (s : List Char)
    (hgap : isGap c = false) (hname : isNameChar c = false) (hmark : '#' ∉ c :: s) :
    ¬ Mentions word (c :: s) := by
  -- A reference behind blanks begins with another character.
  have hstart (a p t : List Char) (ha : IsGap a) (hp : IsReference word p) :
      a ++ (p ++ t) ≠ c :: s := by
    intro heq
    rcases a with _ | ⟨d, a⟩
    · rcases p with _ | ⟨d, p⟩
      · exact hp.isRun.1 rfl
      · have hd := hp.isRun.2 d List.mem_cons_self
        rw [(List.cons.inj heq).1, hname] at hd
        exact Bool.noConfusion hd
    · have hd := ha d List.mem_cons_self
      rw [(List.cons.inj heq).1, hgap] at hd
      exact Bool.noConfusion hd
  intro h
  generalize htext : c :: s = text at h hmark
  cases h with
  | last a p b ha hp hb => exact hstart a p b ha hp (by rw [htext, List.append_assoc])
  | first a p b e ha hp hb => exact hmark (by simp)
  | later a p b v e ha hp hb he => exact hmark (by simp)

theorem IsReference.isPiece {word p : List Char} (h : IsReference word p) {m : Meanings}
    {v : List Char} (hm : m word = some v) : IsPiece m p v := by
  rcases p with _ | ⟨c, p⟩
  · exact absurd rfl h.isRun.1
  · have hpiece := IsPiece.name (m := m) c p h.isRun (h.head c rfl)
    rwa [h.lower, hm, Option.getD_some] at hpiece

/-- What a piece is does not depend on what abbreviations stand for, but its value may. -/
theorem IsPiece.exists_of {m : Meanings} {p v : List Char} (h : IsPiece m p v) (m' : Meanings) :
    ∃ v', IsPiece m' p v' := by
  cases h with
  | group _ hi => exact ⟨v, IsPiece.group v hi⟩
  | quoted _ hi => exact ⟨v, IsPiece.quoted v hi⟩
  | number _ hp => exact ⟨p, IsPiece.number p hp⟩
  | name c s hp hc => exact ⟨_, IsPiece.name c s hp hc⟩

theorem IsValue.exists_of {m : Meanings} {e v : List Char} (h : IsValue m e v) (m' : Meanings) :
    ∃ v', IsValue m' e v' := by
  induction h with
  | last a p b v ha hp hb =>
      rcases hp.exists_of m' with ⟨v', hp'⟩
      exact ⟨v', IsValue.last a p b v' ha hp' hb⟩
  | joined a p b v e w ha hp hb _ ih =>
      rcases hp.exists_of m' with ⟨v', hp'⟩
      rcases ih with ⟨w', he'⟩
      exact ⟨v' ++ w', IsValue.joined a p b v' e w' ha hp' hb he'⟩

/-- The value of a piece depends on one name at most, and only if the piece is that
    name and does not begin with a digit. -/
theorem IsPiece.update_of_not_reference {m : Meanings} {p v : List Char} (h : IsPiece m p v)
    (word : List Char) (u : Option (List Char)) (hp : ¬ IsReference word p) :
    IsPiece (Function.update m word u) p v := by
  cases h with
  | group _ hi => exact IsPiece.group v hi
  | quoted _ hi => exact IsPiece.quoted v hi
  | number _ hrun => exact IsPiece.number p hrun
  | name c s hrun hc =>
      -- The piece is a name, and it would refer to the word if it were the word.
      have hother : Text.lower (c :: s) ≠ word := fun heq =>
        hp ⟨hrun, fun d hd => Option.mem_some.mp hd ▸ hc, heq⟩
      have hpiece := IsPiece.name (m := Function.update m word u) c s hrun hc
      rwa [Function.update_of_ne hother] at hpiece

/-- Only the names that a value mentions matter to it. -/
theorem IsValue.update_of_not_mentions {m : Meanings} {e v : List Char} (h : IsValue m e v)
    (word : List Char) (u : Option (List Char)) (he : ¬ Mentions word e) :
    IsValue (Function.update m word u) e v := by
  induction h with
  | last a p b v ha hp hb =>
      exact IsValue.last a p b v ha
        (hp.update_of_not_reference word u fun href => he (.last a p b ha href hb)) hb
  | joined a p b v e w ha hp hb _ ih =>
      rcases hp.exists_of fun _ => none with ⟨v', hp'⟩
      exact IsValue.joined a p b v e w ha
        (hp.update_of_not_reference word u fun href => he (.first a p b e ha href hb)) hb
        (ih fun hmention => he (.later a p b v' e ha hp' hb hmention))

theorem IsValue.gap_append {m : Meanings} {e v : List Char} (h : IsValue m e v) (g : List Char)
    (hg : IsGap g) : IsValue m (g ++ e) v := by
  cases h with
  | last a p b v ha hp hb =>
      have hv := IsValue.last (g ++ a) p b v (isGap_append g a hg ha) hp hb
      simpa only [List.append_assoc] using hv
  | joined a p b v e w ha hp hb he =>
      have hv := IsValue.joined (g ++ a) p b v e w (isGap_append g a hg ha) hp hb he
      simpa only [List.append_assoc] using hv

theorem IsValue.append_gap {m : Meanings} {e v : List Char} (h : IsValue m e v) (g : List Char)
    (hg : IsGap g) : IsValue m (e ++ g) v := by
  induction h with
  | last a p b v ha hp hb =>
      have hv := IsValue.last a p (b ++ g) v ha hp (isGap_append b g hb hg)
      simpa only [List.append_assoc] using hv
  | joined a p b v e w ha hp hb _ ih =>
      have hv := IsValue.joined a p b v (e ++ g) w ha hp hb ih
      simpa only [List.append_assoc, List.cons_append] using hv

/-- What is joined can be joined again. -/
theorem IsValue.append_joined {m : Meanings} {e v e' w : List Char} (h : IsValue m e v)
    (h' : IsValue m e' w) : IsValue m (e ++ '#' :: e') (v ++ w) := by
  induction h with
  | last a p b v ha hp hb => exact IsValue.joined a p b v e' w ha hp hb h'
  | joined a p b v e u ha hp hb _ ih =>
      have hv := IsValue.joined a p b v (e ++ '#' :: e') (u ++ w) ha hp hb ih
      simpa only [List.append_assoc, List.cons_append] using hv

section

variable (m : Meanings) (word expression : List Char)

/-- A piece of a value and the text to stand in its place: itself, or for a reference
    the expression that defines it. -/
inductive SpellsOutPiece : List Char → List Char → Option (List Char) → Prop
  | kept (p v : List Char) (hp : IsPiece m p v) : SpellsOutPiece p p (some v)
  | reference (p : List Char) (hp : IsReference word p) : SpellsOutPiece p expression none

/-- A value, and the same value with some references spelled out. -/
inductive SpellsOutValue : List Char → List Char → Parts → Prop
  | last (a p q b : List Char) (part : Option (List Char)) (ha : IsGap a)
      (hp : SpellsOutPiece m word expression p q part) (hb : IsGap b) :
      SpellsOutValue (a ++ p ++ b) (a ++ q ++ b) [part]
  | joined (a p q b e e' : List Char) (part : Option (List Char)) (parts : Parts) (ha : IsGap a)
      (hp : SpellsOutPiece m word expression p q part) (hb : IsGap b)
      (he : SpellsOutValue e e' parts) :
      SpellsOutValue (a ++ p ++ b ++ '#' :: e) (a ++ q ++ b ++ '#' :: e') (part :: parts)

/-- The fields of a record, and the same fields with some references spelled out. -/
inductive SpellsOutFields : List Char → List Char → List (List Char × Parts) → Prop
  | none (a : List Char) (ha : IsGap a) : SpellsOutFields a a []
  | comma (a b : List Char) (ha : IsGap a) (hb : IsGap b) :
      SpellsOutFields (a ++ ',' :: b) (a ++ ',' :: b) []
  | cons (a b name c e e' s s' : List Char) (parts : Parts) (shapes : List (List Char × Parts))
      (ha : IsGap a) (hb : IsGap b) (hname : IsRun isNameChar name) (hc : IsGap c)
      (he : SpellsOutValue m word expression e e' parts) (hs : SpellsOutFields s s' shapes) :
      SpellsOutFields (a ++ ',' :: (b ++ name ++ c ++ '=' :: e) ++ s)
        (a ++ ',' :: (b ++ name ++ c ++ '=' :: e') ++ s') ((Text.lower name, parts) :: shapes)

/-- A record of some type and key, and the same record with some references in the
    values of its fields spelled out. -/
inductive SpellsOutRecord :
    List Char → List Char → List Char → List Char → List (List Char × Parts) → Prop
  | mk (a kind b c key s s' : List Char) (shapes : List (List Char × Parts)) (ha : IsGap a)
      (hw : IsRun Char.isAlphanum kind) (hpass : ¬ IsPassedOver (Text.lower kind))
      (hkind : Text.lower kind ≠ "string".toList) (hb : IsGap b) (hc : IsGap c)
      (hkey : IsRun isNameChar key) (hs : SpellsOutFields m word expression s s' shapes) :
      SpellsOutRecord ('@' :: a ++ kind ++ b ++ '{' :: c ++ key ++ s ++ ['}'])
        ('@' :: a ++ kind ++ b ++ '{' :: c ++ key ++ s' ++ ['}']) (Text.lower kind) key shapes

end

/-- The fields of a record with a text in the gaps of their values. -/
def fieldsWith (v : List Char) (shapes : List (List Char × Parts)) :
    List (List Char × List Char) :=
  shapes.map fun shape => (shape.1, plainText (Text.between v shape.2))

/-- A record with a text in the gaps of its values. -/
def recordWith (v kind key : List Char) (shapes : List (List Char × Parts)) : Record :=
  ⟨String.ofList kind, String.ofList key, (fieldsWith v shapes).map pairOfChars⟩

theorem recordWith_eq_iff (u v kind key : List Char) (shapes : List (List Char × Parts)) :
    recordWith u kind key shapes = recordWith v kind key shapes ↔
      ∀ shape ∈ shapes, plainText (Text.between u shape.2) = plainText (Text.between v shape.2) := by
  have hpair : Function.Injective pairOfChars := by
    rintro ⟨a, b⟩ ⟨a', b'⟩ h
    simpa [pairOfChars, String.ofList_inj] using h
  rw [recordWith, recordWith, Record.mk.injEq, (List.map_injective_iff.mpr hpair).eq_iff, fieldsWith,
    fieldsWith, List.map_inj_left]
  simp

section

variable {m : Meanings} {word expression u v : List Char}

/-- What a value says and what it says spelled out: the meaning of the abbreviation
    is in the gaps of the one and the value of its definition in those of the other. -/
theorem SpellsOutValue.isValue (hm : m word = some u) (hv : IsValue m expression v)
    {e e' : List Char} {parts : Parts} (h : SpellsOutValue m word expression e e' parts) :
    IsValue m e (Text.between u parts) ∧ IsValue m e' (Text.between v parts) := by
  -- What is put for a reference is a whole value, so a piece is seen as one here.
  have hpiece {p q : List Char} {part : Option (List Char)}
      (hp : SpellsOutPiece m word expression p q part) :
      IsPiece m p (part.getD u) ∧ IsValue m q (part.getD v) := by
    cases hp with
    | kept w hp =>
        have hw := IsValue.last [] p [] _ (by simp [IsGap]) hp (by simp [IsGap])
        rw [List.nil_append, List.append_nil] at hw
        exact ⟨hp, hw⟩
    | reference hp => exact ⟨hp.isPiece hm, hv⟩
  induction h with
  | last a p q b part ha hp hb =>
      rcases hpiece hp with ⟨hpart, hspelled⟩
      rw [Text.between_cons, Text.between_cons, Text.between_nil, Text.between_nil, List.append_nil,
        List.append_nil]
      exact ⟨IsValue.last a p b _ ha hpart hb, (hspelled.gap_append a ha).append_gap b hb⟩
  | joined a p q b e e' part parts ha hp hb _ ih =>
      rcases hpiece hp with ⟨hpart, hspelled⟩
      rw [Text.between_cons, Text.between_cons]
      exact ⟨IsValue.joined a p b _ e _ ha hpart hb ih.1,
        ((hspelled.gap_append a ha).append_gap b hb).append_joined ih.2⟩

theorem SpellsOutFields.areFields (hm : m word = some u) (hv : IsValue m expression v)
    {s s' : List Char} {shapes : List (List Char × Parts)}
    (h : SpellsOutFields m word expression s s' shapes) :
    AreFields m s (fieldsWith u shapes) ∧ AreFields m s' (fieldsWith v shapes) := by
  induction h with
  | none a ha => exact ⟨AreFields.none a ha, AreFields.none a ha⟩
  | comma a b ha hb => exact ⟨AreFields.comma a b ha hb, AreFields.comma a b ha hb⟩
  | cons a b name c e e' s s' parts shapes ha hb hname hc he _ ih =>
      rcases he.isValue hm hv with ⟨hvalue, hspelled⟩
      exact ⟨AreFields.cons a _ s _ _ ha (IsField.mk b name c e _ hb hname hc hvalue) ih.1,
        AreFields.cons a _ s' _ _ ha (IsField.mk b name c e' _ hb hname hc hspelled) ih.2⟩

theorem SpellsOutRecord.isBlock (hm : m word = some u) (hv : IsValue m expression v)
    {t t' kind key : List Char} {shapes : List (List Char × Parts)}
    (h : SpellsOutRecord m word expression t t' kind key shapes) :
    IsBlock m t (.record (recordWith u kind key shapes)) ∧
      IsBlock m t' (.record (recordWith v kind key shapes)) := by
  cases h with
  | mk a kind b c key s s' shapes ha hw hpass hkind hb hc hkey hs =>
      rcases hs.areFields hm hv with ⟨hfields, hspelled⟩
      exact ⟨IsBlock.record a kind b c key s _ ha hw hpass hkind hb hc hkey hfields,
        IsBlock.record a kind b c key s' _ ha hw hpass hkind hb hc hkey hspelled⟩

end

end Bibtex

end CiteRender
