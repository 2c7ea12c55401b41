import CiteRender.Proofs.Bibtex.Records
import CiteRender.Proofs.Citation.Keys
import CiteRender.Proofs.Text.LetterCase

/-!
# Records as They Are Read

What every record that is read looks like, whatever the text was. The type and
the names of fields are lowered on the way, so they have no capitals; a key is
kept as it is written. A value may come from groups, quotes, numbers and
abbreviations in any mixture, but it is brought into its plain form as the last
thing that happens to it, so nothing has to be known of the pieces or of what
the abbreviations stand for.

A key is a single key to a citation marker too. The characters of names have
neither the comma that parts the keys of a marker nor a blank that would be
trimmed off.

## Main definitions

* `IsKept`: A value in its plain form.
* `Record.WellFormed`: A record as it is read.

## Theorems

* `isKept_plainText`, `plainText_of_isKept`: Plain forms.
* `AreFields.wellFormed`, `wellFormed_of_says`: What is said is well-formed.
* `splitKeys_of_isRun`: A name is a single key.
* `citable_of_readRecords`: Every record that is read is well-formed and can
  be cited.
-/

namespace CiteRender

namespace Bibtex

/-- The characters of the types of records. -/
def isKindChar (c : Char) : Bool :=
  c.isLower || c.isDigit

/-- A value in its plain form: no braces, and single spaces between words. -/
structure IsKept (v : List Char) : Prop where
  opening : '{' ∉ v
  closing : '}' ∉ v
  spaced : Text.SingleSpaced v

instance (p : Char → Bool) (s : List Char) : Decidable (IsRun p s) :=
  decidable_of_iff (s ≠ [] ∧ s.all p = true) (by rw [IsRun, List.all_eq_true])

instance (v : List Char) : Decidable (IsKept v) :=
  decidable_of_iff ('{' ∉ v ∧ '}' ∉ v ∧ Text.SingleSpaced v)
    ⟨fun h => ⟨h.1, h.2.1, h.2.2⟩, fun h => ⟨h.opening, h.closing, h.spaced⟩⟩

/-- A record as it is read. Its type is in lower case and is none of the types
    with another meaning. Its key and the names of its fields are names, the
    latter without capitals, and its values are in their plain form. -/
structure Record.WellFormed (record : Record) : Prop where
  kind : IsRun isKindChar record.kind.toList
  isRecord : record.kind ∉ ["comment", "preamble", "string"]
  key : IsRun isNameChar record.key.toList
  names : ∀ field ∈ record.fields, IsRun isNameChar field.1.toList
  lowered : ∀ field ∈ record.fields, ∀ c ∈ field.1.toList, c.isUpper = false
  values : ∀ field ∈ record.fields, IsKept field.2.toList

instance (record : Record) : Decidable record.WellFormed :=
  decidable_of_iff
    (IsRun isKindChar record.kind.toList ∧ record.kind ∉ ["comment", "preamble", "string"] ∧
      IsRun isNameChar record.key.toList ∧
      (∀ field ∈ record.fields, IsRun isNameChar field.1.toList) ∧
      (∀ field ∈ record.fields, field.1.toList.all (fun c => !c.isUpper) = true) ∧
      ∀ field ∈ record.fields, IsKept field.2.toList)
    ⟨fun h => ⟨h.1, h.2.1, h.2.2.1, h.2.2.2.1, by simpa using h.2.2.2.2.1, h.2.2.2.2.2⟩,
      fun h => ⟨h.kind, h.isRecord, h.key, h.names, by simpa using h.lowered, h.values⟩⟩

/-- Lowering takes a letter or digit to a small letter or a digit. -/
theorem isKindChar_toLower (c : Char) (hc : c.isAlphanum = true) :
    isKindChar c.toLower = true := by
  simp only [Char.isAlphanum, Char.isAlpha, Bool.or_eq_true] at hc
  by_cases hupper : c.isUpper = true
  · rw [isKindChar, c.isLower_toLower_eq_isAlpha, Char.isAlpha, hupper, Bool.true_or, Bool.true_or]
  · rw [Char.toLower_eq_of_not_isUpper hupper, isKindChar, Bool.or_eq_true]
    simpa [hupper] using hc

theorem isAlphanum_of_isKindChar (c : Char) (hc : isKindChar c = true) : c.isAlphanum = true := by
  simp only [isKindChar, Bool.or_eq_true] at hc
  simp only [Char.isAlphanum, Char.isAlpha, Bool.or_eq_true]
  rcases hc with hc | hc
  · exact Or.inl (Or.inr hc)
  · exact Or.inr hc

theorem isNameChar_toLower (c : Char) (hc : isNameChar c = true) : isNameChar c.toLower = true := by
  by_cases hupper : c.isUpper = true
  · have halpha : c.isAlphanum = true := by simp [Char.isAlphanum, Char.isAlpha, hupper]
    exact isNameChar_of_isAlphanum _ (isAlphanum_of_isKindChar _ (isKindChar_toLower c halpha))
  · rw [Char.toLower_eq_of_not_isUpper hupper]
    exact hc

/-- Lowering a run, where it takes one class to another. -/
theorem IsRun.lower {p q : Char → Bool} (hpq : ∀ c, p c = true → q c.toLower = true)
    {w : List Char} (hw : IsRun p w) : IsRun q (Text.lower w) := by
  refine ⟨by simpa [Text.lower] using hw.1, fun c hc => ?_⟩
  rcases List.mem_map.mp hc with ⟨d, hd, rfl⟩
  exact hpq d (hw.2 d hd)

/-- A plain form has the characters of the value less its braces, and spaces. -/
theorem isKept_plainText (v : List Char) : IsKept (plainText v) where
  opening h := by
    rcases Text.mem_joinWords _ _ h with hspace | hmem
    · exact absurd hspace (by decide)
    · simp at hmem
  closing h := by
    rcases Text.mem_joinWords _ _ h with hspace | hmem
    · exact absurd hspace (by decide)
    · simp at hmem
  spaced := Text.singleSpaced_joinWords _

/-- The plain form of a value that is in it already. -/
theorem plainText_of_isKept (v : List Char) (hv : IsKept v) : plainText v = v := by
  have hfilter : (v.filter fun c => c != '{' && c != '}') = v := by
    refine List.filter_eq_self.mpr fun c hc => ?_
    have hopen : c ≠ '{' := fun heq => hv.opening (heq ▸ hc)
    have hclose : c ≠ '}' := fun heq => hv.closing (heq ▸ hc)
    simp [hopen, hclose]
  rw [plainText, hfilter, Text.joinWords_of_singleSpaced v hv.spaced]

/-- What a field of a record looks like. -/
theorem IsField.wellFormed {m : Meanings} {s : List Char} {pair : List Char × List Char}
    (h : IsField m s pair) :
    IsRun isNameChar pair.1 ∧ (∀ c ∈ pair.1, c.isUpper = false) ∧ IsKept pair.2 := by
  cases h with
  | mk a word b e v _ hw _ _ =>
      exact ⟨hw.lower isNameChar_toLower, Text.isUpper_of_mem_lower word, isKept_plainText v⟩

theorem AreFields.wellFormed {m : Meanings} {s : List Char}
    {pairs : List (List Char × List Char)} (h : AreFields m s pairs) :
    ∀ pair ∈ pairs,
      IsRun isNameChar pair.1 ∧ (∀ c ∈ pair.1, c.isUpper = false) ∧ IsKept pair.2 := by
  induction h with
  | none => simp
  | comma => simp
  | cons a f s pair pairs _ hf _ ih =>
      rw [List.forall_mem_cons]
      exact ⟨hf.wellFormed, ih⟩

theorem IsBlock.wellFormed {m : Meanings} {s : List Char} {record : Record}
    (h : IsBlock m s (.record record)) : record.WellFormed := by
  cases h with
  | record a word b c key s pairs _ hw hpass hkind _ _ hkey hs =>
      have hfields (field : String × String) (hfield : field ∈ pairs.map pairOfChars) :
          IsRun isNameChar field.1.toList ∧ (∀ c ∈ field.1.toList, c.isUpper = false) ∧
            IsKept field.2.toList := by
        rcases List.mem_map.mp hfield with ⟨pair, hpair, rfl⟩
        simpa only [pairOfChars, String.toList_ofList] using hs.wellFormed pair hpair
      have hword (other : String) (hother : Text.lower word ≠ other.toList) :
          String.ofList (Text.lower word) ≠ other := by
        rintro rfl
        exact hother (String.toList_ofList).symm
      refine ⟨?_, ?_, ?_, fun field hfield => (hfields field hfield).1,
        fun field hfield => (hfields field hfield).2.1,
        fun field hfield => (hfields field hfield).2.2⟩
      · rw [String.toList_ofList]
        exact hw.lower isKindChar_toLower
      · -- A block passed over or with abbreviations is not this kind of block.
        rw [IsPassedOver, not_or] at hpass
        simp only [List.mem_cons, List.not_mem_nil, or_false, not_or]
        exact ⟨hword _ hpass.1, hword _ hpass.2, hword _ hkind⟩
      · rw [String.toList_ofList]
        exact hkey

/-- Every record that a text says is well-formed. -/
theorem wellFormed_of_says (m : Meanings) (s : List Char) (records : List Record)
    (h : Says m s records) : ∀ record ∈ records, record.WellFormed := by
  -- The records come from blocks one by one, and definitions add none.
  induction h with
  | free => simp
  | skipped _ _ _ _ _ _ _ _ ih => exact ih
  | abbreviation _ _ _ _ _ _ _ _ _ _ ih => exact ih
  | record m free block rest record records _ hb _ ih =>
      rw [List.forall_mem_cons]
      exact ⟨hb.wellFormed, ih⟩

theorem says_of_readRecords (text : String) (records : List Record)
    (h : readRecords text = .ok records) : Says (fun _ => none) text.toList records := by
  rw [readRecords] at h
  rcases hread : readBlocks [] 1 text.toList with fault | contents
  · rw [hread] at h
    exact absurd h (by simp [Except.map])
  · rw [hread] at h
    rw [← Except.ok.inj h]
    exact says_of_readBlocks [] 1 text.toList contents hread

/-- A character of a name is neither a comma nor a blank, of any kind. -/
theorem not_comma_of_isNameChar (c : Char) (hc : isNameChar c = true) :
    c ≠ ',' ∧ Text.isBlank c = false := by
  constructor
  · rintro rfl
    exact absurd hc (by decide)
  · by_contra hblank
    rw [Bool.not_eq_false] at hblank
    -- Both classes are sets of code points, and they do not meet.
    simp only [isNameChar, Char.isAlphanum, Char.isAlpha, Char.isUpper, Char.isLower, Char.isDigit,
      Bool.or_eq_true, Bool.and_eq_true, decide_eq_true_eq, beq_iff_eq, ge_iff_le,
      UInt32.le_iff_toNat_le, Char.ext_iff, ← UInt32.toNat_inj, Char.reduceVal,
      UInt32.reduceToNat] at hc
    simp only [Text.isBlank, Char.toNat, Bool.or_eq_true, Bool.and_eq_true, decide_eq_true_eq,
      beq_iff_eq] at hblank
    omega

/-- A name is the only key in it. -/
theorem splitKeys_of_isRun (key : String) (hkey : IsRun isNameChar key.toList) :
    splitKeys key = [key] := by
  have hchar (c : Char) (hc : c ∈ key.toList) := not_comma_of_isNameChar c (hkey.2 c hc)
  refine splitKeys_of_isKey key ⟨fun hempty => hkey.1 (by rw [hempty]; rfl),
    fun hcomma => (hchar ',' hcomma).1 rfl, fun c hc => ?_, fun c hc => ?_⟩
  · exact (hchar c (List.mem_of_head? hc)).2
  · exact (hchar c (List.mem_of_getLast? hc)).2

/-- Every record that is read is well-formed, its key is the one key that a
    marker finds in it, and the names of its fields have no commas and no
    blanks. -/
theorem citable_of_readRecords (text : String) (records : List Record)
    (h : readRecords text = .ok records) :
    ∀ record ∈ records, record.WellFormed ∧ splitKeys record.key = [record.key] ∧
      ∀ field ∈ record.fields, ∀ c ∈ field.1.toList, c ≠ ',' ∧ Text.isBlank c = false := by
  intro record hrecord
  have hformed := wellFormed_of_says _ _ records (says_of_readRecords text records h) record hrecord
  refine ⟨hformed, splitKeys_of_isRun record.key hformed.key, fun field hfield c hc => ?_⟩
  exact not_comma_of_isNameChar c ((hformed.names field hfield).2 c hc)

/-- A value from a group, an abbreviation and quotes, with blanks and braces in
    all of them. -/
theorem citable_of_readRecords_mixture :
    let text := "@string\x7bA=\x7bx \x7d\x7d@B\x7bK-1,T=a#\" \x7b\\\"\x7d\"\x7d"
    let record : Record := ⟨"b", "K-1", [("t", "x \\\"")]⟩
    readRecords text = .ok [record] ∧ record.WellFormed ∧ splitKeys record.key = [record.key] ∧
      ∀ field ∈ record.fields, ∀ c ∈ field.1.toList, c ≠ ',' ∧ Text.isBlank c = false := by
  intro text record
  have hread : readRecords text = .ok [record] := by decide +kernel
  exact ⟨hread, citable_of_readRecords text [record] hread record List.mem_cons_self⟩

end Bibtex

end CiteRender
