import CiteRender.Citation.Inline
import CiteRender.Proofs.Text.Splitting
import CiteRender.Proofs.Text.Spacing

/-!
# Numeric Citations Read Back

The numeric form of a citation loses nothing. The references can be read from the text that
shows them, so two citations that look the same are the same, and a citation shows a question
mark exactly if one of its references is the placeholder.

A reference is shown by digits or by a question mark. The separator is a comma and a space,
neither of which a reference has in it, so splitting the text between the brackets gives the
references one by one. That there is nothing between the brackets is what tells the citation
without references from all others, as splitting gives one piece of an empty text and not none.

## Main definitions

* `readReference`: The reference that a text shows.
* `readNumeric`: The references that a numeric citation shows.

## Theorems

* `mem_referenceText`: What a reference is shown by.
* `isDegraded_iff`: A degraded citation shows a question mark.
* `readNumeric_numericText`: The references are read back.
* `numericText_determines`: The text determines the references.
-/

namespace CiteRender

/-- No number has a question mark in it. -/
theorem not_mem_decimal (n : Nat) : '?' ∉ decimal n := fun hmem =>
  absurd (Nat.isDigit_of_mem_toDigits (by decide) (by decide) hmem) (by decide)

/-- A reference is shown by digits, or by a question mark. -/
theorem mem_referenceText (reference : Reference Nat) :
    ∀ c ∈ reference.text decimal, c = '?' ∨ c.isDigit = true := by
  intro c hc
  cases reference with
  | missing => exact Or.inl (List.mem_singleton.mp hc)
  | resolved n => exact Or.inr (Nat.isDigit_of_mem_toDigits (by decide) (by decide) hc)

/-- A reference shows a question mark exactly if it is the placeholder. -/
theorem mem_text_iff (reference : Reference Nat) :
    '?' ∈ reference.text decimal ↔ reference.isMissing = true := by
  cases reference with
  | missing => simp [Reference.text, Reference.isMissing]
  | resolved n => simp [Reference.text, Reference.isMissing, not_mem_decimal n]

/-- A citation is degraded exactly if it shows a question mark. -/
theorem isDegraded_iff (references : List (Reference Nat)) :
    isDegraded references = true ↔ '?' ∈ (numericText references).toList := by
  have hbody := Text.mem_intercalate referenceSeparator
    (references.map (Reference.text decimal)) '?' (by decide)
  rw [numericText, String.toList_ofList, List.cons_append, List.mem_cons, List.mem_append, hbody,
    isDegraded, List.any_eq_true]
  simp [mem_text_iff]

/-- The reference that a text shows. -/
def readReference (text : List Char) : Reference Nat :=
  if text = ['?'] then .missing else .resolved (Nat.ofDigitChars 10 text 0)

/-- The references that a numeric citation shows between its brackets. -/
def readNumeric (text : String) : List (Reference Nat) :=
  match text.toList.tail.dropLast with
  | [] => []
  | body => (Text.splitText referenceSeparator body).map readReference

theorem referenceText_ne_nil (reference : Reference Nat) : reference.text decimal ≠ [] := by
  cases reference with
  | missing => exact List.cons_ne_nil _ _
  | resolved n => exact Nat.toDigits_ne_nil

theorem readReference_text (reference : Reference Nat) :
    readReference (reference.text decimal) = reference := by
  cases reference with
  | missing => rfl
  | resolved n =>
      have hdigits : decimal n ≠ ['?'] := fun heq =>
        not_mem_decimal n (heq ▸ List.mem_singleton_self _)
      rw [Reference.text, readReference, if_neg hdigits, decimal, Nat.ofDigitChars_ten_toDigits]

/-- No separator begins in a reference, as none has a space in it. -/
theorem not_separator_infix (reference : Reference Nat) :
    ¬ referenceSeparator <:+: reference.text decimal ++ referenceSeparator.dropLast := by
  intro hinfix
  have hspace : ' ' ∈ reference.text decimal ++ [','] := hinfix.subset (by decide)
  rw [List.mem_append] at hspace
  rcases hspace with hspace | hspace
  · rcases mem_referenceText reference ' ' hspace with h | h
    all_goals exact absurd h (by decide)
  · exact absurd hspace (by decide)

/-- The references of a citation are the pieces of what is between its brackets. -/
theorem splitText_references (references : List (Reference Nat)) (hne : references ≠ []) :
    Text.splitText referenceSeparator
        (referenceSeparator.intercalate (references.map (Reference.text decimal))) =
      references.map (Reference.text decimal) := by
  refine Text.splitText_intercalate _ _ (by decide) (by simpa using hne) ?_
  rw [List.forall_mem_map]
  exact fun reference _ => not_separator_infix reference

/-- Only the citation without references has nothing between its brackets. -/
theorem references_eq_nil_of_body (references : List (Reference Nat))
    (hbody : referenceSeparator.intercalate (references.map (Reference.text decimal)) = []) :
    references = [] := by
  by_contra hne
  -- Splitting gives the empty piece, which would be the text of a reference.
  have hpieces := splitText_references references hne
  rw [hbody] at hpieces
  have hempty : [] ∈ references.map (Reference.text decimal) :=
    hpieces ▸ List.mem_singleton_self []
  rcases List.mem_map.mp hempty with ⟨reference, -, htext⟩
  exact referenceText_ne_nil reference htext

/-- The references of a citation are read back. -/
theorem readNumeric_numericText (references : List (Reference Nat)) :
    readNumeric (numericText references) = references := by
  rw [readNumeric, numericText, String.toList_ofList, List.cons_append, List.tail_cons,
    List.dropLast_concat]
  -- Splitting would give one piece of an empty text, so that is read apart.
  split
  · next hbody => exact (references_eq_nil_of_body references hbody).symm
  · next hbody =>
      have hne : references ≠ [] := fun h => hbody (by rw [h]; rfl)
      rw [splitText_references references hne, List.map_map]
      exact List.map_id'' readReference_text references

/-- The text of a numeric citation determines its references, and has a question mark in it
    exactly if one of them is the placeholder. -/
theorem numericText_determines :
    Function.Injective numericText ∧
      ∀ references, '?' ∈ (numericText references).toList ↔ isDegraded references = true :=
  ⟨Function.LeftInverse.injective readNumeric_numericText,
    fun references => (isDegraded_iff references).symm⟩

end CiteRender
