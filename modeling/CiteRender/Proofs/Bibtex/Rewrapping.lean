import CiteRender.Proofs.Bibtex.Abbreviations
import CiteRender.Proofs.Bibtex.Printing
import CiteRender.Citation.Inline
import CiteRender.Citation.Line

/-!
# Rewrapped Texts

A text of records may be laid out again: its lines are broken elsewhere, titles lose the
braces that protect their letters or get others, and values change quotes for braces. The
records stay the same, since all that is kept of a value is its words.

The words are those of the value less its braces, and the braces go first. So a brace may
join two runs of blanks to one, or stand at the end of a text and have blanks inside of
it, and neither makes a difference.

Two texts are compared by what they are made of and not by what is read from them, for
what a value is worth depends on the abbreviations in force. Those are defined by fields
as well, which may be laid out again too. So it takes the whole text up to a value to
know that it is worth the same in both, and `Rewraps.says` is by induction over the two
texts with the same abbreviations in force all along.

## Main definitions

* `SameWords`: Values that have the same words once their braces are gone.
* `IsEnclosed`: A piece in braces or quotes.
* `RewrapsValue`, `RewrapsField`, `RewrapsFields`, `RewrapsBlock`, `Rewraps`: Texts that
  are the same but for the layout.
* `citationForms`: What is shown for some keys.

## Theorems

* `plainText_eq_iff`: Values that are kept the same.
* `Rewraps.says`: Texts that are laid out again say the same.
* `accepted_iff_rewraps`: The texts that can be laid out are the ones that can be read.
* `normalise_words`: Values by their words, and texts that are laid out again.
-/

namespace CiteRender

namespace Bibtex

/-- Two values have the same words once their braces are deleted. -/
def SameWords (v w : List Char) : Prop :=
  Text.words (unbraced v) = Text.words (unbraced w)

instance (v w : List Char) : Decidable (SameWords v w) :=
  inferInstanceAs (Decidable (_ = _))

/-- A piece of a value in braces or quotes, and what they enclose. -/
inductive IsEnclosed : List Char → List Char → Prop
  | group (inner : List Char) (h : Balanced inner) : IsEnclosed ('{' :: inner ++ ['}']) inner
  | quoted (inner : List Char) (h : Quotable 0 inner) : IsEnclosed ('"' :: inner ++ ['"']) inner

/-- Values that are the same, or that are one enclosed piece each with the same words. -/
inductive RewrapsValue : List Char → List Char → Prop
  | same (m : Meanings) (e v : List Char) (h : IsValue m e v) : RewrapsValue e e
  | enclosed (a a' p p' v v' b b' : List Char) (ha : IsGap a) (ha' : IsGap a')
      (hp : IsEnclosed p v) (hp' : IsEnclosed p' v') (hsame : SameWords v v') (hb : IsGap b)
      (hb' : IsGap b') : RewrapsValue (a ++ p ++ b) (a' ++ p' ++ b')

/-- Fields of one name with values laid out again. -/
inductive RewrapsField : List Char → List Char → Prop
  | mk (a a' word b b' e e' : List Char) (ha : IsGap a) (ha' : IsGap a')
      (hw : IsRun isNameChar word) (hb : IsGap b) (hb' : IsGap b') (he : RewrapsValue e e') :
      RewrapsField (a ++ word ++ b ++ '=' :: e) (a' ++ word ++ b' ++ '=' :: e')

/-- The fields of a record, each laid out again. -/
inductive RewrapsFields : List Char → List Char → Prop
  | none (a a' : List Char) (ha : IsGap a) (ha' : IsGap a') : RewrapsFields a a'
  | comma (a a' b b' : List Char) (ha : IsGap a) (ha' : IsGap a') (hb : IsGap b)
      (hb' : IsGap b') : RewrapsFields (a ++ ',' :: b) (a' ++ ',' :: b')
  | cons (a a' f f' s s' : List Char) (ha : IsGap a) (ha' : IsGap a') (hf : RewrapsField f f')
      (hs : RewrapsFields s s') : RewrapsFields (a ++ ',' :: f ++ s) (a' ++ ',' :: f' ++ s')

/-- Blocks of one type with their fields laid out again. What is passed over may be
    anything. -/
inductive RewrapsBlock : List Char → List Char → Prop
  | skipped (m : Meanings) (t t' : List Char) (h : IsBlock m t .skipped)
      (h' : IsBlock m t' .skipped) : RewrapsBlock t t'
  | abbreviation (a a' word b b' f f' c c' : List Char) (ha : IsGap a) (ha' : IsGap a')
      (hw : IsRun Char.isAlphanum word) (hkind : Text.lower word = "string".toList)
      (hb : IsGap b) (hb' : IsGap b') (hf : RewrapsField f f') (hc : IsGap c) (hc' : IsGap c') :
      RewrapsBlock ('@' :: a ++ word ++ b ++ '{' :: f ++ c ++ ['}'])
        ('@' :: a' ++ word ++ b' ++ '{' :: f' ++ c' ++ ['}'])
  | record (a a' word b b' c c' key s s' : List Char) (ha : IsGap a) (ha' : IsGap a')
      (hw : IsRun Char.isAlphanum word) (hpass : ¬ IsPassedOver (Text.lower word))
      (hkind : Text.lower word ≠ "string".toList) (hb : IsGap b) (hb' : IsGap b')
      (hc : IsGap c) (hc' : IsGap c') (hkey : IsRun isNameChar key)
      (hs : RewrapsFields s s') :
      RewrapsBlock ('@' :: a ++ word ++ b ++ '{' :: c ++ key ++ s ++ ['}'])
        ('@' :: a' ++ word ++ b' ++ '{' :: c' ++ key ++ s' ++ ['}'])

/-- Texts with the same blocks but for the layout, and any text without an `@` between
    them. -/
inductive Rewraps : List Char → List Char → Prop
  | free (s s' : List Char) (hs : '@' ∉ s) (hs' : '@' ∉ s') : Rewraps s s'
  | block (free free' t t' rest rest' : List Char) (hf : '@' ∉ free) (hf' : '@' ∉ free')
      (ht : RewrapsBlock t t') (hr : Rewraps rest rest') :
      Rewraps (free ++ t ++ rest) (free' ++ t' ++ rest')

/-- Values are kept the same exactly if they have the same words. -/
theorem plainText_eq_iff (v w : List Char) : plainText v = plainText w ↔ SameWords v w := by
  rw [plainText_eq_joinWords, plainText_eq_joinWords]
  exact Text.joinWords_eq_iff _ _

theorem IsEnclosed.isPiece {p v : List Char} (h : IsEnclosed p v) (m : Meanings) :
    IsPiece m p v := by
  cases h with
  | group _ h => exact IsPiece.group v h
  | quoted _ h => exact IsPiece.quoted v h

section

variable {s s' : List Char} (m : Meanings)

/-- Whatever is in force, values that are laid out again are kept the same. -/
theorem RewrapsValue.isValue (h : RewrapsValue s s') :
    ∃ v v', IsValue m s v ∧ IsValue m s' v' ∧ SameWords v v' := by
  cases h with
  | same m' _ v h =>
      rcases h.exists_of m with ⟨v', hv'⟩
      exact ⟨v', v', hv', hv', rfl⟩
  | enclosed a a' p p' v v' b b' ha ha' hp hp' hsame hb hb' =>
      exact ⟨v, v', IsValue.last a p b v ha (hp.isPiece m) hb,
        IsValue.last a' p' b' v' ha' (hp'.isPiece m) hb', hsame⟩

theorem RewrapsField.isField (h : RewrapsField s s') :
    ∃ pair, IsField m s pair ∧ IsField m s' pair := by
  cases h with
  | mk a a' word b b' e e' ha ha' hw hb hb' he =>
      rcases he.isValue m with ⟨v, v', hv, hv', hsame⟩
      have hfield' := IsField.mk a' word b' e' v' ha' hw hb' hv'
      rw [← (plainText_eq_iff v v').2 hsame] at hfield'
      exact ⟨_, IsField.mk a word b e v ha hw hb hv, hfield'⟩

theorem RewrapsFields.areFields (h : RewrapsFields s s') :
    ∃ pairs, AreFields m s pairs ∧ AreFields m s' pairs := by
  induction h with
  | none a a' ha ha' => exact ⟨[], AreFields.none a ha, AreFields.none a' ha'⟩
  | comma a a' b b' ha ha' hb hb' =>
      exact ⟨[], AreFields.comma a b ha hb, AreFields.comma a' b' ha' hb'⟩
  | cons a a' f f' s s' ha ha' hf _ ih =>
      rcases hf.isField m with ⟨pair, hpair, hpair'⟩
      rcases ih with ⟨pairs, hpairs, hpairs'⟩
      exact ⟨pair :: pairs, AreFields.cons a f s pair pairs ha hpair hpairs,
        AreFields.cons a' f' s' pair pairs ha' hpair' hpairs'⟩

/-- A block that is passed over is so whatever is in force. -/
theorem IsBlock.skipped_of {m' : Meanings} (h : IsBlock m' s .skipped) :
    IsBlock m s .skipped := by
  cases h with
  | skipped a word b inner ha hw hkind hb hi =>
      exact IsBlock.skipped a word b inner ha hw hkind hb hi

theorem RewrapsBlock.isBlock (h : RewrapsBlock s s') :
    ∃ b, IsBlock m s b ∧ IsBlock m s' b := by
  cases h with
  | skipped m' _ _ h h' =>
      exact ⟨.skipped, h.skipped_of m, h'.skipped_of m⟩
  | abbreviation a a' word b b' f f' c c' ha ha' hw hkind hb hb' hf hc hc' =>
      rcases hf.isField m with ⟨pair, hpair, hpair'⟩
      exact ⟨_, IsBlock.abbreviation a word b f c pair ha hw hkind hb hpair hc,
        IsBlock.abbreviation a' word b' f' c' pair ha' hw hkind hb' hpair' hc'⟩
  | record a a' word b b' c c' key t t' ha ha' hw hpass hkind hb hb' hc hc' hkey hs =>
      rcases hs.areFields m with ⟨pairs, hpairs, hpairs'⟩
      exact ⟨_, IsBlock.record a word b c key t pairs ha hw hpass hkind hb hc hkey hpairs,
        IsBlock.record a' word b' c' key t' pairs ha' hw hpass hkind hb' hc' hkey hpairs'⟩

/-- A block in front of a text, whatever it says. -/
theorem says_block (free t rest : List Char) (b : Block) (records : List Record)
    (hf : '@' ∉ free) (hb : IsBlock m t b) (hr : Says (b.meanings m) rest records) :
    Says m (free ++ t ++ rest) (b.records ++ records) := by
  cases b with
  | record record => exact Says.record m free t rest record records hf hb hr
  | abbreviation word v => exact Says.abbreviation m free t rest word v records hf hb hr
  | skipped => exact Says.skipped m free t rest records hf hb hr

/-- Texts that are laid out again say the same, whatever is in force at their start. -/
theorem Rewraps.says (h : Rewraps s s') : ∃ records, Says m s records ∧ Says m s' records := by
  induction h generalizing m with
  | free s s' hs hs' => exact ⟨[], Says.free m s hs, Says.free m s' hs'⟩
  | block free free' t t' rest rest' hf hf' ht _ ih =>
      rcases ht.isBlock m with ⟨b, hb, hb'⟩
      rcases ih (b.meanings m) with ⟨records, hr, hr'⟩
      exact ⟨_, says_block m free t rest b records hf hb hr,
        says_block m free' t' rest' b records hf' hb' hr'⟩

end

section

variable {m : Meanings} {s : List Char}

theorem IsField.rewraps {pair : List Char × List Char} (h : IsField m s pair) :
    RewrapsField s s := by
  cases h with
  | mk a word b e v ha hw hb he =>
      exact RewrapsField.mk a a word b b e e ha ha hw hb hb (RewrapsValue.same m e v he)

theorem AreFields.rewraps {pairs : List (List Char × List Char)} (h : AreFields m s pairs) :
    RewrapsFields s s := by
  induction h with
  | none a ha => exact RewrapsFields.none a a ha ha
  | comma a b ha hb => exact RewrapsFields.comma a a b b ha ha hb hb
  | cons a f s pair pairs ha hf _ ih => exact RewrapsFields.cons a a f f s s ha ha hf.rewraps ih

theorem IsBlock.rewraps {b : Block} (h : IsBlock m s b) : RewrapsBlock s s := by
  cases h with
  | skipped a word b inner ha hw hkind hb hi =>
      have hblock := IsBlock.skipped (m := m) a word b inner ha hw hkind hb hi
      exact RewrapsBlock.skipped m _ _ hblock hblock
  | abbreviation a word b f c pair ha hw hkind hb hf hc =>
      exact RewrapsBlock.abbreviation a a word b b f f c c ha ha hw hkind hb hb hf.rewraps hc hc
  | record a word b c key t pairs ha hw hpass hkind hb hc hkey hs =>
      exact RewrapsBlock.record a a word b b c c key t t ha ha hw hpass hkind hb hb hc hc hkey
        hs.rewraps

theorem Says.rewraps {records : List Record} (h : Says m s records) : Rewraps s s := by
  induction h with
  | free m s hs => exact Rewraps.free s s hs hs
  | skipped m free t rest records hf hb _ ih =>
      exact Rewraps.block free free t t rest rest hf hf hb.rewraps ih
  | abbreviation m free t rest word v records hf hb _ ih =>
      exact Rewraps.block free free t t rest rest hf hf hb.rewraps ih
  | record m free t rest record records hf hb _ ih =>
      exact Rewraps.block free free t t rest rest hf hf hb.rewraps ih

end

/-- A text can be read exactly if it may stand for itself, laid out as it is. -/
theorem accepted_iff_rewraps (text : String) :
    (∃ records, readRecords text = .ok records) ↔ Rewraps text.toList text.toList := by
  constructor
  · rintro ⟨records, h⟩
    exact ((readRecords_eq_ok_iff text records).1 h).rewraps
  · intro h
    rcases h.says (fun _ => none) with ⟨records, hsays, -⟩
    exact ⟨records, readRecords_of_says text records hsays⟩

/-- What is shown for some keys: the marker in either style, and for each of the keys its
    line and the address to look it up. -/
structure CitationForms where
  numeric : String
  authorYear : String
  lines : List String
  addresses : List (Option String)

/-- The forms of some keys, with some keys cited before. -/
def citationForms (cited keys : List String) (bibliography : Bibliography) : CitationForms :=
  let ledger : Ledger := ⟨cited, bibliography⟩
  { numeric := numericText (ledger.numeric keys)
    authorYear := authorYearText (ledger.authorYear keys)
    lines := keys.map fun key => lineText (bibliographyLine (ledger.entry key))
    addresses := keys.map fun key => lookupAddress (ledger.entry key) }

/-- The plain form of a value is its words with one space between them, so it is in its
    plain form from then on. A text and the same laid out again are both read, and to the
    same records, so that nothing shown for a key differs. -/
theorem normalise_words :
    (∀ v, normalise v = [' '].intercalate (Text.words (unbraced v))) ∧
    (∀ v, normalise (normalise v) = normalise v) ∧
    ∀ text other : String, Rewraps text.toList other.toList →
      (∃ records, readRecords text = .ok records ∧ readRecords other = .ok records) ∧
      ∀ cited keys, ∃ forms,
        (readBibliography text).map (citationForms cited keys) = .ok forms ∧
          (readBibliography other).map (citationForms cited keys) = .ok forms := by
  refine ⟨fun v => normalise_eq_plainText v, fun v => ?_, fun text other h => ?_⟩
  · rw [normalise_eq_plainText, normalise_eq_plainText]
    exact plainText_of_isKept _ (isKept_plainText v)
  · -- Both texts say the same records, and the forms are made from those alone.
    rcases h.says (fun _ => none) with ⟨records, hsays, hsays'⟩
    have htext := readRecords_of_says text records hsays
    have hother := readRecords_of_says other records hsays'
    refine ⟨⟨records, htext, hother⟩, fun cited keys =>
      ⟨citationForms cited keys (bibliographyOf records), ?_, ?_⟩⟩
    · rw [readBibliography, htext]
      rfl
    · rw [readBibliography, hother]
      rfl

/-- A record and an abbreviation that change quotes for braces, the braces inside of them
    and their lines. -/
theorem normalise_words_quotes :
    let text :=
      "@string\x7bb=\"Big\n  \x7bJ\x7dournal\"\x7d\n@a\x7bk,t=\x7bA \x7bB\x7d\n c\x7d,j=b\x7d"
    let other := "@string\x7bb=\x7bBig Journal\x7d\x7d@a\x7bk,\n t=\"A B c\",j=b\x7d"
    Rewraps text.toList other.toList ∧
      (∃ records, readRecords text = .ok records ∧ readRecords other = .ok records) ∧
      readRecords other = .ok [⟨"a", "k", [("t", "A B c"), ("j", "Big Journal")]⟩] := by
  intro text other
  have hgap : IsGap [] := isGap_nil
  have hwrap : IsGap ['\n', ' '] := by simp [IsGap, isGap]
  have hgroup (inner : List Char) (h : groupTail 0 (inner ++ ['}']) = some (inner, [])) :
      IsEnclosed ('{' :: inner ++ ['}']) inner :=
    IsEnclosed.group inner ((groupTail_eq_some_iff _ inner []).1 h).2
  have hquoted (inner : List Char) (h : quotedTail 0 (inner ++ ['"']) = some (inner, [])) :
      IsEnclosed ('"' :: inner ++ ['"']) inner :=
    IsEnclosed.quoted inner ((quotedTail_eq_some_iff 0 _ inner []).1 h).2
  have hname (c : Char) (hc : isNameChar c = true) : IsRun isNameChar [c] := by
    simpa [IsRun] using hc
  have hjournal :
      RewrapsField "b=\"Big\n  \x7bJ\x7dournal\"".toList "b=\x7bBig Journal\x7d".toList :=
    RewrapsField.mk [] [] ['b'] [] [] _ _ hgap hgap (hname 'b' rfl) hgap hgap
      (RewrapsValue.enclosed [] [] _ _ "Big\n  \x7bJ\x7dournal".toList "Big Journal".toList [] []
        hgap hgap (hquoted _ (by decide +kernel)) (hgroup _ (by decide +kernel))
        (by decide +kernel) hgap hgap)
  have htitle : RewrapsField "t=\x7bA \x7bB\x7d\n c\x7d".toList "\n t=\"A B c\"".toList :=
    RewrapsField.mk [] ['\n', ' '] ['t'] [] [] _ _ hgap hwrap (hname 't' rfl) hgap hgap
      (RewrapsValue.enclosed [] [] _ _ "A \x7bB\x7d\n c".toList "A B c".toList [] []
        hgap hgap (hgroup _ (by decide +kernel)) (hquoted _ (by decide +kernel))
        (by decide +kernel) hgap hgap)
  have hreference : IsValue (fun _ => none) ['b'] ['b'] :=
    IsValue.last [] ['b'] [] ['b'] hgap (IsPiece.name 'b' [] (hname 'b' rfl) rfl) hgap
  have hsecond : RewrapsField "j=b".toList "j=b".toList :=
    RewrapsField.mk [] [] ['j'] [] [] _ _ hgap hgap (hname 'j' rfl) hgap hgap
      (RewrapsValue.same _ ['b'] ['b'] hreference)
  have hdefinition := RewrapsBlock.abbreviation [] [] "string".toList [] [] _ _ [] [] hgap hgap
    (by simp [IsRun]) (by decide +kernel) hgap hgap hjournal hgap hgap
  have hrecord := RewrapsBlock.record [] [] ['a'] [] [] [] [] ['k'] _ _ hgap hgap
    (by simp [IsRun]) (by decide +kernel) (by decide +kernel) hgap hgap hgap hgap (hname 'k' rfl)
    (RewrapsFields.cons [] [] _ _ _ _ hgap hgap htitle
      (RewrapsFields.cons [] [] _ _ [] [] hgap hgap hsecond (RewrapsFields.none [] [] hgap hgap)))
  have hblocks := Rewraps.block [] [] _ _ _ _ (by simp) (by simp) hdefinition
    (Rewraps.block ['\n'] [] _ _ [] [] (by decide) (by simp) hrecord
      (Rewraps.free [] [] (by simp) (by simp)))
  have hrewraps : Rewraps text.toList other.toList := by
    convert hblocks using 1 <;> decide +kernel
  exact ⟨hrewraps, (normalise_words.2.2 text other hrewraps).1, by decide +kernel⟩

end Bibtex

end CiteRender
