import CiteRender.Citation.Line
import CiteRender.Proofs.Text.Spacing

/-!
# Author Lines

Authors that are written into the author line of an entry are read back from it,
and each form of a citation shows them: the bibliography line all of them with
initials, the author-year form the first of them.

Three separators are at work, and they overlap. The word `and` with a space at each
side stands between names, a comma and a space between the family name and the
given names, and a space between words, so a separator of one kind has those of
another kind in it. A name is a sequence of words with one space between them once
its comma is counted to the word before it, and none of these words is `and`. So
the separator of names could only be found across the end of a name, where the
spaces would part the word `and` from the name too early.

## Main definitions

* `IsNameWord`: The words that names are made of.
* `Author`: A family name and given names.
* `Author.surname`, `Author.givenPart`, `Author.written`: The two parts of a name, and its
  full form.
* `Author.initialed`: The form with initials.
* `authorLine`: The author line that names some authors.
* `enumerated`: Texts with commas between them, and `and` before the last.
* `shortNames`: The family names that the author-year form shows.

## Theorems

* `Author.exists_words`: A name is a sequence of words.
* `namesOf_authorLine`: The names in an author line.
* `Author.surnameOf_written`, `Author.initialedName_written`: What is read from
  a name.
* `joinNames_concat`: Names as a phrase.
* `authors_decode`: Author lines in all forms of a citation.
-/

namespace CiteRender

open Text

/-- A word that can stand in a name: not empty, without blanks and commas, and not the
    word that joins names. -/
structure IsNameWord (w : List Char) : Prop where
  ne_nil : w ≠ []
  not_blank : ∀ c ∈ w, isBlank c = false
  no_comma : ',' ∉ w
  ne_and : w ≠ "and".toList

instance (w : List Char) : Decidable (IsNameWord w) :=
  decidable_of_iff
    (w ≠ [] ∧ w.all (fun c => !isBlank c) = true ∧ ',' ∉ w ∧ w ≠ "and".toList)
    ⟨fun h => ⟨h.1, by simpa using h.2.1, h.2.2.1, h.2.2.2⟩,
      fun h => ⟨h.ne_nil, by simpa using h.not_blank, h.no_comma, h.ne_and⟩⟩

/-- An author: the words of the family name, of which there is one at least, and those of the
    given names. -/
structure Author where
  family : List (List Char)
  given : List (List Char)
  family_ne_nil : family ≠ []
  isNameWord : ∀ w ∈ family ++ given, IsNameWord w

namespace Author

/-- The family name. -/
def surname (author : Author) : List Char :=
  [' '].intercalate author.family

/-- What is written behind the family name: nothing, or a comma and the given names. -/
def givenPart (author : Author) : List Char :=
  if author.given = [] then [] else ", ".toList ++ [' '].intercalate author.given

/-- The name in full: `Last, Given Given`, or the bare family name. -/
def written (author : Author) : List Char :=
  author.surname ++ author.givenPart

/-- The name with initials: `Last, G.G.`, or the bare family name. -/
def initialed (author : Author) : List Char :=
  if author.given = [] then author.surname
  else author.surname ++ ", ".toList ++ author.given.flatMap fun w => w.take 1 ++ ['.']

end Author

/-- The author line that names some authors. -/
def authorLine (authors : List Author) : String :=
  String.ofList (" and ".toList.intercalate (authors.map Author.written))

/-- Texts with commas between them, and `and` before the last. -/
def enumerated (others : List (List Char)) (last : List Char) : List Char :=
  if others = [] then last else ", ".toList.intercalate others ++ " and ".toList ++ last

/-- The family names that the author-year form shows: one, two joined by `&`, or the first
    of more. -/
def shortNames : List Author → List Char
  | [] => []
  | [only] => only.surname
  | [first, second] => first.surname ++ " & ".toList ++ second.surname
  | first :: _ => first.surname ++ ", et al.".toList

theorem IsNameWord.isWord {w : List Char} (h : IsNameWord w) :
    w ≠ [] ∧ ∀ c ∈ w, isBlank c = false :=
  ⟨h.ne_nil, h.not_blank⟩

/-- Words with spaces between them have no commas. -/
theorem no_comma_words (ws : List (List Char)) (hws : ∀ w ∈ ws, IsNameWord w) :
    ∀ c ∈ [' '].intercalate ws, (c != ',') = true := by
  intro c hc
  rcases mem_intercalate_space ws c hc with rfl | ⟨w, hw, hcw⟩
  · rfl
  · exact bne_iff_ne.mpr (ne_of_mem_of_not_mem hcw (hws w hw).no_comma)

/-- The word that joins names is none of the words of names. -/
theorem not_mem_of_isNameWord (ws : List (List Char)) (hws : ∀ w ∈ ws, IsNameWord w) :
    "and".toList ∉ ws :=
  fun hmem => (hws _ hmem).ne_and rfl

/-- A family name and given names, with the comma in the word in front of it. -/
theorem exists_words_of_parts (family given : List (List Char)) (hfamily : family ≠ [])
    (hgiven : given ≠ []) (hwords : ∀ w ∈ family ++ given, IsNameWord w) :
    ∃ ws, ws ≠ [] ∧ (∀ w ∈ ws, w ≠ [] ∧ ∀ c ∈ w, isBlank c = false) ∧ "and".toList ∉ ws ∧
      [' '].intercalate family ++ (", ".toList ++ [' '].intercalate given) =
        [' '].intercalate ws := by
  induction family with
  | nil => exact absurd rfl hfamily
  | cons w family ih =>
      rw [List.cons_append, List.forall_mem_cons] at hwords
      rcases hwords with ⟨hw, hwords⟩
      cases family with
      | nil =>
          -- The comma belongs to the last word of the family name, and makes another
          -- word of it than the one that joins names.
          refine ⟨(w ++ [',']) :: given, by simp, List.forall_mem_cons.mpr ⟨⟨by simp, ?_⟩,
            fun v hv => (hwords v hv).isWord⟩, ?_, ?_⟩
          · rw [List.forall_mem_append, List.forall_mem_singleton]
            exact ⟨hw.not_blank, rfl⟩
          · rw [List.mem_cons, not_or]
            refine ⟨fun hand => ?_, not_mem_of_isNameWord given hwords⟩
            have hcomma : ',' ∈ "and".toList := hand ▸ List.mem_append_right w List.mem_cons_self
            exact absurd hcomma (by decide)
          · rw [List.intercalate_singleton, List.intercalate_cons_of_ne_nil hgiven]
            simp
      | cons next family =>
          rcases ih (by simp) hwords with ⟨ws, hne, hws, hand, htext⟩
          refine ⟨w :: ws, by simp, List.forall_mem_cons.mpr ⟨hw.isWord, hws⟩, ?_, ?_⟩
          · rw [List.mem_cons, not_or]
            exact ⟨hw.ne_and.symm, hand⟩
          · rw [List.intercalate_cons_of_ne_nil hne, ← htext, List.intercalate_cons_cons]
            simp only [List.append_assoc]

namespace Author

theorem family_word (author : Author) : ∀ w ∈ author.family, IsNameWord w :=
  fun w hw => author.isNameWord w (List.mem_append_left _ hw)

theorem given_word (author : Author) : ∀ w ∈ author.given, IsNameWord w :=
  fun w hw => author.isNameWord w (List.mem_append_right _ hw)

/-- A name is a sequence of words with one space between them, none of which joins names. -/
theorem exists_words (author : Author) :
    ∃ ws, ws ≠ [] ∧ (∀ w ∈ ws, w ≠ [] ∧ ∀ c ∈ w, isBlank c = false) ∧ "and".toList ∉ ws ∧
      author.written = [' '].intercalate ws := by
  rw [written, givenPart]
  by_cases hgiven : author.given = []
  · rw [if_pos hgiven, List.append_nil]
    exact ⟨author.family, author.family_ne_nil, fun w hw => (author.family_word w hw).isWord,
      not_mem_of_isNameWord author.family author.family_word, rfl⟩
  · rw [if_neg hgiven]
    exact exists_words_of_parts author.family author.given author.family_ne_nil hgiven
      author.isNameWord

/-- No separator of names is found in a name, nor across its end. -/
theorem not_infix_written (author : Author) :
    ¬ " and ".toList <:+: author.written ++ " and ".toList.dropLast := by
  rcases author.exists_words with ⟨ws, hne, hws, hand, hwritten⟩
  rw [hwritten]
  refine not_infix_intercalate ' ' "and".toList ws hne (fun w hw hspace => ?_) (by decide) hand
  exact absurd ((hws w hw).2 ' ' hspace) (by simp [isBlank_space])

theorem trim_written (author : Author) : trim author.written = author.written := by
  rcases author.exists_words with ⟨ws, -, hws, -, hwritten⟩
  rw [hwritten, trim_intercalate ws hws]

theorem trim_surname (author : Author) : trim author.surname = author.surname :=
  trim_intercalate author.family fun w hw => (author.family_word w hw).isWord

/-- The family name ends at the first comma. -/
theorem stops_givenPart (author : Author) : Stops (· != ',') author.givenPart := by
  rw [givenPart]
  by_cases hgiven : author.given = []
  · rw [if_pos hgiven]
    exact stops_nil _
  · rw [if_neg hgiven]
    exact stops_cons _ ',' _ rfl

theorem takeWhile_written (author : Author) :
    author.written.takeWhile (· != ',') = author.surname :=
  takeWhile_append_stops _ _ _ (no_comma_words author.family author.family_word)
    author.stops_givenPart

theorem dropWhile_written (author : Author) :
    author.written.dropWhile (· != ',') = author.givenPart :=
  dropWhile_append_stops _ _ _ (no_comma_words author.family author.family_word)
    author.stops_givenPart

/-- The family name read from a name. -/
theorem surnameOf_written (author : Author) :
    Entry.surnameOf author.written = author.surname := by
  rw [Entry.surnameOf, takeWhile_written, trim_surname]

/-- The initials of the given names that are written behind a comma. -/
theorem initialsOf_given (author : Author) :
    initialsOf (' ' :: [' '].intercalate author.given) =
      author.given.flatMap fun w => w.take 1 ++ ['.'] := by
  rw [initialsOf, words_cons_blank ' ' _ isBlank_space,
    words_intercalate author.given fun w hw => (author.given_word w hw).isWord]

/-- The name with initials read from a name. -/
theorem initialedName_written (author : Author) :
    initialedName author.written = author.initialed := by
  rw [initialedName, takeWhile_written, trim_surname, dropWhile_written, givenPart, initialed]
  by_cases hgiven : author.given = []
  · rw [if_pos hgiven, if_pos hgiven]
    rfl
  · have hpart : ((", ".toList ++ [' '].intercalate author.given).drop 1).takeWhile (· != ',') =
        ' ' :: [' '].intercalate author.given :=
      List.takeWhile_eq_self_iff.mpr
        (List.forall_mem_cons.mpr ⟨rfl, no_comma_words author.given author.given_word⟩)
    -- There are initials, as each given name has its full stop.
    have hinitials : (author.given.flatMap fun w => w.take 1 ++ ['.']).isEmpty = false := by
      rcases List.exists_cons_of_ne_nil hgiven with ⟨w, ws, hcons⟩
      rw [hcons, List.flatMap_cons]
      simp
    rw [if_neg hgiven, if_neg hgiven, hpart, initialsOf_given, hinitials]
    rfl

end Author

/-- The names in an author line. -/
theorem namesOf_authorLine (authors : List Author) (hne : authors ≠ []) :
    Entry.namesOf (authorLine authors).toList = authors.map Author.written := by
  have hline : (authorLine authors).toList =
      " and ".toList.intercalate (authors.map Author.written) := String.toList_ofList
  rw [Entry.namesOf, hline, splitText_intercalate _ _ (by decide) (by simpa using hne)
    (List.forall_mem_map.mpr fun author _ => author.not_infix_written), List.map_map]
  exact List.map_congr_left fun author _ => author.trim_written

/-- Names as a phrase: commas between them, and `and` before the last. -/
theorem joinNames_concat (others : List (List Char)) (last : List Char) :
    joinNames (others ++ [last]) = enumerated others last := by
  induction others with
  | nil => rfl
  | cons first others ih =>
      cases others with
      | nil => simp [joinNames, enumerated]
      | cons second others =>
          have hphrase : joinNames (first :: (second :: others ++ [last])) =
              first ++ [',', ' '] ++ joinNames (second :: others ++ [last]) := by
            cases others <;> rfl
          rw [List.cons_append, hphrase, ih, enumerated, enumerated, if_neg (by simp),
            if_neg (by simp), List.intercalate_cons_cons]
          simp only [List.append_assoc]
          rfl

/-- The author-year form of an entry whose family names are those of some authors. -/
theorem authorYear_of_surnames (entry : Entry) (authors : List Author) (hne : authors ≠ [])
    (hsurnames : entry.surnames = authors.map fun author => String.ofList author.surname) :
    entry.authorYear =
      String.ofList (shortNames authors ++ ", ".toList ++ fieldText entry.year) := by
  rw [Entry.authorYear, hsurnames, ← String.toList_inj, String.toList_ofList]
  match authors, hne with
  | [only], _ => simp only [shortNames, fieldText, List.map, String.toList_append,
      String.toList_ofList]
  | [first, second], _ => simp only [shortNames, fieldText, List.map, String.toList_append,
      String.toList_ofList]
  | first :: second :: third :: others, _ =>
      simp only [shortNames, fieldText, List.map, String.toList_append, String.toList_ofList,
        List.append_assoc]
      rfl

/-- An entry whose author line names some authors, one or more, has their names and family
    names. Its bibliography line begins with all of them, with initials, and the year. Its
    author-year form shows one family name, two, or the first of more, and the year. -/
theorem authors_decode (authors : List Author) (hne : authors ≠ []) (entry : Entry)
    (hauthor : entry.author = authorLine authors) :
    entry.authorNames = authors.map (fun author => String.ofList author.written) ∧
      entry.surnames = authors.map (fun author => String.ofList author.surname) ∧
      (∃ rest, (lineText (bibliographyLine (some entry))).toList =
        enumerated (authors.dropLast.map Author.initialed) (authors.getLast hne).initialed ++
          ", ".toList ++ fieldText entry.year ++ rest) ∧
      ∀ ledger key, Ledger.entry ledger key = some entry →
        authorYearText (ledger.authorYear [key]) =
          String.ofList (shortNames authors ++ ", ".toList ++ fieldText entry.year) := by
  have hnames : Entry.namesOf entry.author.toList = authors.map Author.written := by
    rw [hauthor]
    exact namesOf_authorLine authors hne
  have hsurnames : entry.surnames = authors.map fun author => String.ofList author.surname := by
    rw [Entry.surnames, hnames, List.map_map]
    exact List.map_congr_left fun author _ => congrArg String.ofList author.surnameOf_written
  -- The phrase puts initials to the names as they were read, the last of them set apart.
  have hphrase : entry.authorPhrase =
      enumerated (authors.dropLast.map Author.initialed) (authors.getLast hne).initialed := by
    have hinitialed : (authors.map Author.written).map initialedName =
        authors.map Author.initialed := by
      rw [List.map_map]
      exact List.map_congr_left fun author _ => author.initialedName_written
    rw [Entry.authorPhrase, hnames, hinitialed, ← joinNames_concat, ← List.map_singleton,
      ← List.map_append, List.dropLast_append_getLast hne]
  refine ⟨?_, hsurnames, ?_, fun ledger key hentry => ?_⟩
  · rw [Entry.authorNames, hnames, List.map_map]
    rfl
  · rw [bibliographyLine, lineText, Reference.text, Entry.line, String.toList_ofList,
      String.toList_ofList, hphrase]
    simp only [List.append_assoc]
    exact ⟨_, rfl⟩
  · rw [authorYearText, Ledger.authorYear, List.map_singleton, Ledger.authorYearReference, hentry,
      List.map_singleton, List.intercalate_singleton, Reference.text, String.ofList_toList]
    exact authorYear_of_surnames entry authors hne hsurnames

/-- Three authors: a family name of several words, one that has the joining word in it, and a
    bare one. -/
theorem authors_decode_three :
    let authors : List Author :=
      [⟨["van".toList, "der".toList, "Berg".toList], ["Jan".toList, "Piet".toList], by simp,
          by decide⟩,
        ⟨["Brandt".toList], ["Anders".toList], by simp, by decide⟩,
        ⟨["Euclid".toList], [], by simp, by decide⟩]
    let entry : Entry :=
      { author := "van der Berg, Jan Piet and Brandt, Anders and Euclid", year := some "2016" }
    authors ≠ [] ∧ entry.author = authorLine authors ∧
      entry.surnames = ["van der Berg", "Brandt", "Euclid"] ∧
      ∃ rest, (lineText (bibliographyLine (some entry))).toList =
        "van der Berg, J.P., Brandt, A. and Euclid, 2016".toList ++ rest := by
  intro authors entry
  have hne : authors ≠ [] := by simp [authors]
  have hauthor : entry.author = authorLine authors := by decide
  have hbegin : enumerated (authors.dropLast.map Author.initialed)
      (authors.getLast (List.cons_ne_nil _ _)).initialed ++ ", ".toList ++ fieldText entry.year =
      "van der Berg, J.P., Brandt, A. and Euclid, 2016".toList := by decide
  rcases authors_decode authors hne entry hauthor with ⟨-, hsurnames, ⟨rest, hline⟩, -⟩
  rw [hbegin] at hline
  exact ⟨hne, hauthor, hsurnames, rest, hline⟩

end CiteRender
