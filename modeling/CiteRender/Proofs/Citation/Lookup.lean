import CiteRender.Citation.Line
import CiteRender.Proofs.Text.FormCoding
import CiteRender.Proofs.Text.Words

/-!
# Lookup Addresses Read Back

The address that searches for an entry is the fixed endpoint with one parameter. The value of
the parameter is a coded form, so nothing that stands in a name or a title ends it or begins
a second parameter or a fragment, and decoding it gives the words that are searched for.

## Main definitions

* `Entry.question`: What a search for an entry asks for.

## Theorems

* `searchText_eq`: The words of a search.
* `lookupAddress_decodes`: An address decodes to its question.
-/

namespace CiteRender

namespace Entry

/-- What a search for an entry asks for: the family names with a space between them, a space,
    and the title with every run of blanks as one space, without blanks at the ends. -/
def question (entry : Entry) : List Char :=
  Text.trim ([' '].intercalate (entry.surnames.map String.toList) ++ ' ' ::
    Text.collapse (Text.trim (entry.title.getD "").toList))

theorem searchText_eq (entry : Entry) : entry.searchText = entry.question := by
  have hnames : entry.surnames.map String.toList = (namesOf entry.author.toList).map surnameOf := by
    rw [surnames, List.map_map]
    exact List.map_congr_left fun name _ => String.toList_ofList
  rw [searchText, question, hnames, Text.collapse_trim, Text.joinWords, fieldText,
    List.append_assoc, List.singleton_append]

end Entry

/-- The address that searches for an entry is the endpoint with one parameter, whose value is a
    coded form and decodes to what is asked for. -/
theorem lookupAddress_decodes (entry : Entry) :
    ∃ w : List Char,
      lookupAddress (some entry) =
        some ("http://search.labs.crossref.org/dois?" ++ "q=" ++ String.ofList w) ∧
      Text.IsFormWord w ∧ (∀ c ∈ w, c ∉ ['&', ';', '=', '#', ' ']) ∧
      Text.formDecode w = some entry.question := by
  have hword := Text.isFormWord_formEncode entry.searchText
  refine ⟨Text.formEncode entry.searchText, rfl, hword, hword.keeps_query, ?_⟩
  rw [Text.formDecode_formEncode, entry.searchText_eq]

end CiteRender
