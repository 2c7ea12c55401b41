import CiteRender.Bibtex.Reader
import CiteRender.Proofs.Bibliography.Layouts

/-!
# The Last Definition Wins

A text can have several records of one key, and a record several fields of one
name. The bibliography of a text has an entry for each key, made of the last record
of the key and of the last field of each name in it. Nothing of the earlier ones is
kept: a field that only they have is absent.

Both are loops that write over what they wrote before, one into a map and one into
an entry. Each is followed from its end, where one more record or field is put
behind the others: it replaces what was there under its key or its name, and leaves
the rest as it was.

## Main definitions

* `Entry.valuesOf`, `Entry.lastValue?`: The values of the fields of a name, and the
  last of them.
* `Entry.ofLast`: The entry with the last value of each name.
* `Entry.Rearranged`: Fields in another order, with other unknown ones.
* `Bibtex.Record.SaysAlike`: Records with rearranged fields.

## Theorems

* `Entry.ofFields_eq_ofLast`: The entry that fields describe.
* `Entry.ofFields_rearranged`: Rearranged fields describe the same entry.
* `Bibtex.getElem?_bibliographyOf`: The entry of the last record of a key.
* `Bibtex.readBibliography_lastDefinition`: What is read from a text.
-/

namespace CiteRender

namespace Entry

/-- The values of the fields of a name, in order. Letter case does not matter. -/
def valuesOf (name : String) (fields : List (String × String)) : List String :=
  (fields.filter fun field => fieldName field.1 = name).map Prod.snd

/-- The value of the last field of a name. -/
def lastValue? (name : String) (fields : List (String × String)) : Option String :=
  (valuesOf name fields).getLast?

/-- The entry of a type that has the last value of each name. -/
def ofLast (kind : String) (fields : List (String × String)) : Entry where
  kind := some kind
  author := (lastValue? "author" fields).getD ""
  year := lastValue? "year" fields
  title := lastValue? "title" fields
  journal := lastValue? "journal" fields
  booktitle := lastValue? "booktitle" fields
  volume := lastValue? "volume" fields
  issue := lastValue? "issue" fields
  number := lastValue? "number" fields
  pages := lastValue? "pages" fields
  doi := lastValue? "doi" fields
  url := lastValue? "url" fields

/-- The names of the fields that are looked for. -/
def lookedFor : List String :=
  ["author", "year", "title", "journal", "booktitle", "volume", "issue", "number", "pages", "doi",
    "url"]

/-- Fields in another order, with other unknown ones: any number of times, two fields of
    different names that stand together change places, or a field that no entry has is put
    in or left out. -/
inductive Rearranged : List (String × String) → List (String × String) → Prop
  | refl (fields : List (String × String)) : Rearranged fields fields
  | swap (before after : List (String × String)) (a b : String × String)
      (hnames : fieldName a.1 ≠ fieldName b.1) :
      Rearranged (before ++ a :: b :: after) (before ++ b :: a :: after)
  | unknown (before after : List (String × String)) (field : String × String)
      (hname : fieldName field.1 ∉ lookedFor) :
      Rearranged (before ++ after) (before ++ field :: after)
  | symm {fields others : List (String × String)} (h : Rearranged fields others) :
      Rearranged others fields
  | trans {fields others third : List (String × String)} (h : Rearranged fields others)
      (h' : Rearranged others third) : Rearranged fields third

theorem valuesOf_append (name : String) (fields others : List (String × String)) :
    valuesOf name (fields ++ others) = valuesOf name fields ++ valuesOf name others := by
  rw [valuesOf, List.filter_append, List.map_append]
  rfl

theorem valuesOf_cons (name : String) (field : String × String) (fields : List (String × String)) :
    valuesOf name (field :: fields) =
      if fieldName field.1 = name then field.2 :: valuesOf name fields
      else valuesOf name fields := by
  by_cases hname : fieldName field.1 = name
  · rw [if_pos hname, valuesOf, List.filter_cons_of_pos (by simpa using hname), List.map_cons]
    rfl
  · rw [if_neg hname, valuesOf, List.filter_cons_of_neg (by simpa using hname)]
    rfl

/-- A field behind the others has the last value of its name. -/
theorem lastValue?_concat (name : String) (fields : List (String × String))
    (field : String × String) :
    lastValue? name (fields ++ [field]) =
      if fieldName field.1 = name then some field.2 else lastValue? name fields := by
  rw [lastValue?, valuesOf_append, valuesOf_cons]
  by_cases hname : fieldName field.1 = name
  · rw [if_pos hname, if_pos hname]
    exact List.getLast?_concat
  · rw [if_neg hname, if_neg hname]
    exact congrArg List.getLast? (List.append_nil (valuesOf name fields))

/-- A field behind the others is set in the entry that they describe. -/
theorem ofLast_concat (kind : String) (fields : List (String × String))
    (field : String × String) :
    ofLast kind (fields ++ [field]) = (ofLast kind fields).set field.1 field.2 := by
  unfold set
  split <;> simp_all [ofLast, lastValue?_concat]

/-- The entry that some fields describe has the last value of each name. -/
theorem ofFields_eq_ofLast (kind : String) (fields : List (String × String)) :
    ofFields (some kind) fields = ofLast kind fields := by
  induction fields using List.reverseRecOn with
  | nil => rfl
  | append_singleton fields field ih =>
      rw [ofLast_concat, ← ih, ofFields, List.foldl_append]
      rfl

theorem ofLast_congr (kind : String) (fields others : List (String × String))
    (h : ∀ name ∈ lookedFor, valuesOf name fields = valuesOf name others) :
    ofLast kind fields = ofLast kind others := by
  simp only [lookedFor, List.forall_mem_cons] at h
  simp only [ofLast, lastValue?, h]

/-- Each name has the same values, in the same order. -/
theorem Rearranged.valuesOf_eq {fields others : List (String × String)}
    (h : Rearranged fields others) :
    ∀ name ∈ lookedFor, valuesOf name fields = valuesOf name others := by
  induction h with
  | refl fields => exact fun _ _ => rfl
  | swap before after a b hnames =>
      intro name _
      rw [valuesOf_append, valuesOf_append]
      congr 1
      simp only [valuesOf_cons]
      -- A name is the name of one of the two at most.
      by_cases ha : fieldName a.1 = name
      · rw [if_neg (show fieldName b.1 ≠ name from fun hb => hnames (ha.trans hb.symm)),
          if_neg (show fieldName b.1 ≠ name from fun hb => hnames (ha.trans hb.symm))]
      · rw [if_neg ha, if_neg ha]
  | unknown before after field hname =>
      intro name hmem
      rw [valuesOf_append, valuesOf_append, valuesOf_cons,
        if_neg fun heq => hname (by rw [heq]; exact hmem)]
  | symm _ ih => exact fun name hmem => (ih name hmem).symm
  | trans _ _ ih ih' => exact fun name hmem => (ih name hmem).trans (ih' name hmem)

/-- Rearranged fields describe the same entry. -/
theorem ofFields_rearranged (kind : String) (fields others : List (String × String))
    (h : Rearranged fields others) : ofFields (some kind) fields = ofFields (some kind) others := by
  rw [ofFields_eq_ofLast, ofFields_eq_ofLast]
  exact ofLast_congr kind fields others h.valuesOf_eq

end Entry

namespace Bibtex

/-- Records of one type with rearranged fields. -/
structure Record.SaysAlike (record other : Record) : Prop where
  kind : record.kind = other.kind
  fields : Entry.Rearranged record.fields other.fields

theorem Record.SaysAlike.entry_eq {record other : Record} (h : record.SaysAlike other) :
    record.entry = other.entry := by
  rw [Record.entry, Record.entry, h.kind]
  exact Entry.ofFields_rearranged _ _ _ h.fields

theorem map_entry_eq {record other : Option Record} (h : Option.Rel Record.SaysAlike record other) :
    record.map Record.entry = other.map Record.entry := by
  cases h with
  | none => rfl
  | some halike => exact congrArg some halike.entry_eq

theorem lookup_entries (key : String) (records : List Record) :
    (records.map fun record => (record.key, record.entry)).lookup key =
      (records.find? (·.key = key)).map Record.entry := by
  induction records with
  | nil => rfl
  | cons record records ih =>
      rw [List.map_cons, List.lookup_cons, List.find?_cons]
      by_cases hkey : key = record.key
      · simp [hkey]
      · rw [beq_false_of_ne hkey, decide_eq_false (Ne.symm hkey)]
        exact ih

/-- The bibliography of records has the last record of a key. -/
theorem getElem?_bibliographyOf (records : List Record) (key : String) :
    (bibliographyOf records)[key]? =
      (records.reverse.find? (·.key = key)).map Record.entry := by
  rw [bibliographyOf, Bibliography.getElem?_ofList, ← List.map_reverse, lookup_entries]

/-- Records whose last ones of each key say alike give one bibliography. -/
theorem bibliographyOf_congr (records others : List Record)
    (h : ∀ key, Option.Rel Record.SaysAlike (records.reverse.find? (·.key = key))
      (others.reverse.find? (·.key = key))) :
    bibliographyOf records = bibliographyOf others := by
  refine Std.ExtTreeMap.ext_getElem? fun key => ?_
  rw [getElem?_bibliographyOf, getElem?_bibliographyOf]
  exact map_entry_eq (h key)

/-- A text that can be read gives an entry for the keys of its records and for no others. The
    entry is made of the last record of the key alone, and of the last field of each name in
    it. Another text gives the same entries if the last record of each key differs in nothing
    but the places of fields of different names, and in fields that no entry has. -/
theorem readBibliography_lastDefinition (text : String) (records : List Record)
    (h : readRecords text = .ok records) :
    ∃ entries, readBibliography text = .ok entries ∧
      (∀ key, key ∈ entries ↔ ∃ record ∈ records, record.key = key) ∧
      (∀ key, entries[key]? = (records.reverse.find? (·.key = key)).map fun record =>
        Entry.ofLast record.kind record.fields) ∧
      ∀ other others, readRecords other = .ok others →
        (∀ key, Option.Rel Record.SaysAlike (records.reverse.find? (·.key = key))
          (others.reverse.find? (·.key = key))) →
        readBibliography other = .ok entries := by
  refine ⟨bibliographyOf records, by rw [readBibliography, h]; rfl, fun key => ?_, fun key => ?_,
    fun other others hother halike => ?_⟩
  · rw [← Std.ExtTreeMap.isSome_getElem?_iff_mem, getElem?_bibliographyOf, Option.isSome_map,
      List.find?_isSome]
    simp
  · rw [getElem?_bibliographyOf]
    exact Option.map_congr fun record _ => Entry.ofFields_eq_ofLast record.kind record.fields
  · rw [readBibliography, hother, bibliographyOf_congr records others halike]
    rfl

/-- Two records of one key. The second has an author line twice, in different letter case,
    and not the address of the first; another text has its fields in another order, without
    the note. -/
theorem readBibliography_lastDefinition_twice :
    let text := "@misc\x7bk, url = 1\x7d " ++
      "@Book\x7bk, Author = \"A\", note = 2, year = 3, AUTHOR = \"B\"\x7d"
    let other := "@book\x7bk, author = \"A\", author = \"B\", year = 3\x7d"
    let records : List Record := [⟨"misc", "k", [("url", "1")]⟩,
      ⟨"book", "k", [("author", "A"), ("note", "2"), ("year", "3"), ("author", "B")]⟩]
    readRecords text = .ok records ∧
      ∃ entries, readBibliography text = .ok entries ∧ readBibliography other = .ok entries ∧
        entries["k"]? = some { kind := some "book", author := "B", year := some "3" } ∧
        ∀ key, key ∈ entries ↔ key = "k" := by
  intro text other records
  have hread : readRecords text = .ok records := by decide +kernel
  have hother : readRecords other =
      .ok [⟨"book", "k", [("author", "A"), ("author", "B"), ("year", "3")]⟩] := by decide +kernel
  rcases readBibliography_lastDefinition text records hread with
    ⟨entries, hentries, hkeys, hlast, hsame⟩
  refine ⟨hread, entries, hentries, hsame other _ hother fun key => ?_, ?_, fun key => ?_⟩
  · have hnote := Entry.Rearranged.unknown [("author", "A")] [("year", "3"), ("author", "B")]
      ("note", "2") (by decide)
    have hswap := Entry.Rearranged.swap [("author", "A")] [] ("year", "3") ("author", "B")
      (by decide)
    have halike : Record.SaysAlike
        ⟨"book", "k", [("author", "A"), ("note", "2"), ("year", "3"), ("author", "B")]⟩
        ⟨"book", "k", [("author", "A"), ("author", "B"), ("year", "3")]⟩ :=
      ⟨rfl, hnote.symm.trans hswap⟩
    by_cases hkey : "k" = key
    · subst hkey
      simpa [records] using halike
    · simp [records, hkey]
  · rw [hlast]
    decide
  · rw [hkeys]
    simp [records, eq_comm]

end Bibtex

end CiteRender
