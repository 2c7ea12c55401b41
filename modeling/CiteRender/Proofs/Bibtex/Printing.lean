import CiteRender.Proofs.Bibtex.WellFormed

/-!
# Printing Records

A way to write records down that the reader undoes. Values are written between
quotes. A quote in a value would end it, so each is put into braces, where it
does not count; the braces are dropped again when the value is brought into its
plain form. A value that has braces of its own or other blanks than single
spaces could not come back, but no value that is read has any.

Nothing is said here about how the reader goes through a printed text. The text
is taken apart by the grammar, and completeness of the reader does the rest.

## Main definitions

* `escapeQuotes`: A value with its quotes in braces.
* `printField`, `Record.print`, `printRecords`: Records as texts.

## Theorems

* `quotable_escapeQuotes`, `plainText_escapeQuotes`: Values come back.
* `isBlock_print`, `says_printRecords`: What printed records say.
* `read_print_records`: Printed records are read back.
-/

namespace CiteRender

namespace Bibtex

/-- A value as it is written between quotes: each quote stands in braces. -/
def escapeQuotes (v : List Char) : List Char :=
  v.flatMap fun c => if c = '"' then ['{', '"', '}'] else [c]

/-- A field with the comma before it. -/
def printField (field : String × String) : List Char :=
  ", ".toList ++ field.1.toList ++ " = \"".toList ++ escapeQuotes field.2.toList ++ ['"']

/-- A record as a block: its type, its key, and its fields in order. -/
def Record.print (record : Record) : List Char :=
  '@' :: record.kind.toList ++ '{' :: record.key.toList ++ record.fields.flatMap printField ++ ['}']

/-- Records as a text, each with some text behind it. -/
def printRecords (behind : String) (records : List Record) : String :=
  String.ofList (records.flatMap fun record => record.print ++ behind.toList)

@[simp] theorem escapeQuotes_nil : escapeQuotes [] = [] := rfl

theorem escapeQuotes_quote (v : List Char) :
    escapeQuotes ('"' :: v) = '{' :: '"' :: '}' :: escapeQuotes v := by
  simp [escapeQuotes]

theorem escapeQuotes_plain (c : Char) (v : List Char) (hc : c ≠ '"') :
    escapeQuotes (c :: v) = c :: escapeQuotes v := by
  simp [escapeQuotes, hc]

/-- A value without braces can stand between quotes. -/
theorem quotable_escapeQuotes (v : List Char) (hopen : '{' ∉ v) (hclose : '}' ∉ v) :
    Quotable 0 (escapeQuotes v) := by
  induction v with
  | nil => exact Quotable.nil
  | cons c v ih =>
      rw [List.mem_cons, not_or] at hopen hclose
      have hrest := ih hopen.2 hclose.2
      by_cases hc : c = '"'
      · -- The braces open and close around the quote.
        rw [hc, escapeQuotes_quote]
        exact Quotable.opening 0 _ (Quotable.quote 0 _ (Quotable.closing 0 _ hrest))
      · rw [escapeQuotes_plain c v hc]
        exact Quotable.plain 0 c _ ⟨Ne.symm hopen.1, Ne.symm hclose.1, hc⟩ hrest

/-- The braces around quotes are all that is dropped. -/
theorem filter_escapeQuotes (v : List Char) (hopen : '{' ∉ v) (hclose : '}' ∉ v) :
    (escapeQuotes v).filter (fun c => c != '{' && c != '}') = v := by
  induction v with
  | nil => rfl
  | cons c v ih =>
      rw [List.mem_cons, not_or] at hopen hclose
      have hrest := ih hopen.2 hclose.2
      by_cases hc : c = '"'
      · rw [hc, escapeQuotes_quote]
        simpa using hrest
      · rw [escapeQuotes_plain c v hc, List.filter_cons_of_pos, hrest]
        simpa using ⟨Ne.symm hopen.1, Ne.symm hclose.1⟩

theorem plainText_escapeQuotes (v : List Char) (hv : IsKept v) :
    plainText (escapeQuotes v) = v := by
  rw [plainText, filter_escapeQuotes v hv.opening hv.closing,
    Text.joinWords_of_singleSpaced v hv.spaced]

theorem isUpper_of_isKindChar (c : Char) (hc : isKindChar c = true) : c.isUpper = false := by
  by_contra hupper
  rw [Bool.not_eq_false] at hupper
  simp only [isKindChar, Char.isUpper, Char.isLower, Char.isDigit, Bool.or_eq_true,
    Bool.and_eq_true, decide_eq_true_eq, ge_iff_le, UInt32.le_iff_toNat_le, Char.reduceVal,
    UInt32.reduceToNat] at hc hupper
  omega

theorem isGap_nil : IsGap [] := by
  simp [IsGap]

theorem isGap_space : IsGap [' '] := by
  simp [IsGap, isGap]

/-- A printed field behind its comma says its name and its value. -/
theorem isField_print (m : Meanings) (field : String × String)
    (hname : IsRun isNameChar field.1.toList)
    (hlow : ∀ c ∈ field.1.toList, c.isUpper = false) (hvalue : IsKept field.2.toList) :
    IsField m
      ([' '] ++ field.1.toList ++ [' '] ++ '=' ::
        ([' '] ++ ('"' :: escapeQuotes field.2.toList ++ ['"']) ++ []))
      (field.1.toList, field.2.toList) := by
  have hquoted : IsPiece m ('"' :: escapeQuotes field.2.toList ++ ['"'])
      (escapeQuotes field.2.toList) :=
    IsPiece.quoted _ (quotable_escapeQuotes _ hvalue.opening hvalue.closing)
  have hfield := IsField.mk [' '] field.1.toList [' '] _ _ isGap_space hname isGap_space
    (IsValue.last [' '] _ [] _ isGap_space hquoted isGap_nil)
  rwa [Text.lower_eq_self _ hlow, plainText_escapeQuotes _ hvalue] at hfield

theorem areFields_print (m : Meanings) (fields : List (String × String))
    (hnames : ∀ field ∈ fields, IsRun isNameChar field.1.toList)
    (hlow : ∀ field ∈ fields, ∀ c ∈ field.1.toList, c.isUpper = false)
    (hvalues : ∀ field ∈ fields, IsKept field.2.toList) :
    AreFields m (fields.flatMap printField)
      (fields.map fun field => (field.1.toList, field.2.toList)) := by
  induction fields with
  | nil => exact AreFields.none [] isGap_nil
  | cons field fields ih =>
      rw [List.forall_mem_cons] at hnames hlow hvalues
      have hfield := isField_print m field hnames.1 hlow.1 hvalues.1
      have hall := AreFields.cons [] _ _ _ _ isGap_nil hfield (ih hnames.2 hlow.2 hvalues.2)
      rw [List.flatMap_cons, List.map_cons]
      simpa [printField] using hall

theorem map_pairOfChars (fields : List (String × String)) :
    (fields.map fun field => (field.1.toList, field.2.toList)).map pairOfChars = fields := by
  have hid : pairOfChars ∘ (fun field : String × String => (field.1.toList, field.2.toList)) =
      id := by
    funext field
    simp [pairOfChars]
  rw [List.map_map, hid, List.map_id]

/-- A printed record is a block, and says the record. -/
theorem isBlock_print (m : Meanings) (record : Record) (h : record.WellFormed) :
    IsBlock m record.print (.record record) := by
  have hlow : Text.lower record.kind.toList = record.kind.toList :=
    Text.lower_eq_self _ fun c hc => isUpper_of_isKindChar c (h.kind.2 c hc)
  have hword : IsRun Char.isAlphanum record.kind.toList :=
    ⟨h.kind.1, fun c hc => isAlphanum_of_isKindChar c (h.kind.2 c hc)⟩
  have hother := h.isRecord
  simp only [List.mem_cons, List.not_mem_nil, or_false, not_or] at hother
  have hpass : ¬ IsPassedOver (Text.lower record.kind.toList) := by
    rw [hlow, IsPassedOver, String.toList_inj, String.toList_inj, not_or]
    exact ⟨hother.1, hother.2.1⟩
  have hstring : Text.lower record.kind.toList ≠ "string".toList := by
    rw [hlow, Ne, String.toList_inj]
    exact hother.2.2
  have hblock := IsBlock.record [] record.kind.toList [] [] record.key.toList _ _ isGap_nil hword
    hpass hstring isGap_nil isGap_nil h.key
    (areFields_print m record.fields h.names h.lowered h.values)
  rw [hlow, map_pairOfChars, String.ofList_toList, String.ofList_toList] at hblock
  simpa [Record.print] using hblock

/-- Printed records say these records, whatever free text they stand in. -/
theorem says_printRecords (m : Meanings) (behind : List Char) (hbehind : '@' ∉ behind)
    (records : List Record) (hrecords : ∀ record ∈ records, record.WellFormed) :
    ∀ free, '@' ∉ free →
      Says m (free ++ records.flatMap fun record => record.print ++ behind) records := by
  induction records with
  | nil =>
      intro free hfree
      rw [List.flatMap_nil, List.append_nil]
      exact Says.free m free hfree
  | cons record records ih =>
      intro free hfree
      rw [List.forall_mem_cons] at hrecords
      -- The text behind a record is the free text before the next.
      have hrest := ih hrecords.2 behind hbehind
      have hsays := Says.record m free record.print _ record records hfree
        (isBlock_print m record hrecords.1) hrest
      rw [List.flatMap_cons]
      simpa only [List.append_assoc] using hsays

theorem readRecords_of_says (text : String) (records : List Record)
    (h : Says (fun _ => none) text.toList records) : readRecords text = .ok records := by
  rcases readBlocks_of_says _ text.toList records h [] 1 rfl with ⟨contents, hread, hrecords⟩
  rw [readRecords, hread, ← hrecords]
  rfl

theorem readRecords_printRecords (behind : String) (hbehind : '@' ∉ behind.toList)
    (records : List Record) (hrecords : ∀ record ∈ records, record.WellFormed) :
    readRecords (printRecords behind records) = .ok records := by
  refine readRecords_of_says _ records ?_
  rw [printRecords, String.toList_ofList]
  exact says_printRecords _ behind.toList hbehind records hrecords [] (by simp)

/-- Well-formed records are read back from the text they are printed to. What is
    read from any text is well-formed, so it is read again from its own print. -/
theorem read_print_records (behind : String) (hbehind : '@' ∉ behind.toList) :
    (∀ records, (∀ record ∈ records, record.WellFormed) →
      readRecords (printRecords behind records) = .ok records) ∧
    ∀ text records, readRecords text = .ok records →
      (∀ record ∈ records, record.WellFormed) ∧
        readRecords (printRecords behind records) = .ok records := by
  refine ⟨readRecords_printRecords behind hbehind, fun text records h => ?_⟩
  have hformed := wellFormed_of_says _ _ records (says_of_readRecords text records h)
  exact ⟨hformed, readRecords_printRecords behind hbehind records hformed⟩

/-- A record whose value has marks that mean something elsewhere, printed and
    read, and read from another text and printed. -/
theorem read_print_records_marks :
    let record : Record := ⟨"b", "K-1", [("t", "\"é@\\")]⟩
    let text := "@B\x7bK-1,T=\x7b\"\x7d#\"é@\\\"\x7d"
    '@' ∉ "\n".toList ∧ record.WellFormed ∧
      readRecords (printRecords "\n" [record]) = .ok [record] ∧ readRecords text = .ok [record] ∧
      (∀ other ∈ [record], other.WellFormed) := by
  intro record text
  have hbehind : '@' ∉ "\n".toList := by decide
  have hread : readRecords text = .ok [record] := by decide +kernel
  have hvalue : IsKept "\"é@\\".toList := ⟨by decide, by decide, by decide⟩
  have hrecord : record.WellFormed :=
    ⟨by decide, by decide, by decide, by simp [record, IsRun, isNameChar],
      by simp [record], by simpa [record] using hvalue⟩
  have hformed : ∀ other ∈ [record], other.WellFormed := by simpa using hrecord
  exact ⟨hbehind, hrecord, (read_print_records "\n" hbehind).1 [record] hformed, hread,
    ((read_print_records "\n" hbehind).2 text [record] hread).1⟩

end Bibtex

end CiteRender
