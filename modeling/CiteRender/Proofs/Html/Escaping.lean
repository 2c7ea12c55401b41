import CiteRender.Html.Printer

/-!
# Escaped Texts

A text that is printed has no tags in it, whatever the text is, and can be got back.
Four characters are written as references, each reference begins with an ampersand,
and an ampersand is itself one of the four. So every ampersand that is printed begins
a reference, and where a reference ends is seen from the reference alone. A text that
looks like a reference, or like a tag, comes back as it was.

That a reference has no second ampersand in it is what keeps references apart: an
ampersand in a printed text either begins the reference of the first character or
stands in what the other characters give.

## Main definitions

* `references`: The four references, with the characters that they stand for.
* `unescape`: A text with these references replaced by their characters.
* `IsEscaped`: Texts that are written without tags and can be got back.

## Theorems

* `escapeTextChar_cases`: A character is written as it is or as a reference.
* `unescape_escapeTextChar`: The character is got back.
* `isEscaped_escapeText`: Texts are escaped when they are printed.
* `escapeText_eq_self`: Texts without the four characters.
-/

namespace CiteRender

namespace Html

/-- The references that texts are written with, and the characters that they stand for. -/
def references : List (List Char × Char) :=
  [("&amp;".toList, '&'), ("&lt;".toList, '<'), ("&gt;".toList, '>'),
    ("&nbsp;".toList, '\u00a0')]

/-- A text with each of these references replaced by its character, from the left. -/
def unescape : List Char → List Char
  | '&' :: 'a' :: 'm' :: 'p' :: ';' :: s => '&' :: unescape s
  | '&' :: 'l' :: 't' :: ';' :: s => '<' :: unescape s
  | '&' :: 'g' :: 't' :: ';' :: s => '>' :: unescape s
  | '&' :: 'n' :: 'b' :: 's' :: 'p' :: ';' :: s => '\u00a0' :: unescape s
  | c :: s => c :: unescape s
  | [] => []

/-- A text is written without the characters of tags, with ampersands only where
    references begin, and is got back by replacing the references. -/
structure IsEscaped (text written : List Char) : Prop where
  no_open : '<' ∉ written
  no_close : '>' ∉ written
  ampersand : ∀ rest, '&' :: rest <:+ written → ∃ r ∈ references, r.1 <+: '&' :: rest
  back : unescape written = text

/-- A character is written as it is, if it is none of the four, or as its reference. -/
theorem escapeTextChar_cases (c : Char) :
    (escapeTextChar c, c) ∈ references ∨
      escapeTextChar c = [c] ∧ c ≠ '&' ∧ c ≠ '<' ∧ c ≠ '>' := by
  by_cases hc : c ∈ references.map Prod.snd
  · simp only [references, List.map_cons, List.map_nil, List.mem_cons, List.not_mem_nil,
      or_false] at hc
    rcases hc with rfl | rfl | rfl | rfl
    all_goals exact Or.inl (by decide)
  · simp only [references, List.map_cons, List.map_nil, List.mem_cons, List.not_mem_nil,
      or_false, not_or] at hc
    rcases hc with ⟨hamp, hlt, hgt, hspace⟩
    rw [escapeTextChar, if_neg hamp, if_neg hlt, if_neg hgt, if_neg hspace]
    exact Or.inr ⟨rfl, hamp, hlt, hgt⟩

/-- A reference begins with the only ampersand in it. -/
theorem exists_of_mem_references (r : List Char × Char) (hr : r ∈ references) :
    ∃ name, r.1 = '&' :: name ∧ '&' ∉ name ∧ '<' ∉ r.1 ∧ '>' ∉ r.1 := by
  rw [references] at hr
  simp only [List.mem_cons, List.not_mem_nil, or_false] at hr
  rcases hr with rfl | rfl | rfl | rfl
  all_goals exact ⟨_, rfl, by decide, by decide, by decide⟩

theorem unescape_reference (r : List Char × Char) (hr : r ∈ references) (s : List Char) :
    unescape (r.1 ++ s) = r.2 :: unescape s := by
  rw [references] at hr
  simp only [List.mem_cons, List.not_mem_nil, or_false] at hr
  rcases hr with rfl | rfl | rfl | rfl
  all_goals rfl

/-- A character that begins no reference stays. -/
theorem unescape_cons (c : Char) (s : List Char) (hc : c ≠ '&') :
    unescape (c :: s) = c :: unescape s := by
  rw [unescape]
  all_goals
    intro _ heq
    exact absurd heq hc

/-- The character is got back from what is written for it. -/
theorem unescape_escapeTextChar (c : Char) (s : List Char) :
    unescape (escapeTextChar c ++ s) = c :: unescape s := by
  rcases escapeTextChar_cases c with hreference | ⟨hself, hamp, -, -⟩
  · exact unescape_reference (escapeTextChar c, c) hreference s
  · rw [hself, List.singleton_append, unescape_cons c s hamp]

/-- What begins with an ampersand does not begin where there is none. -/
theorem suffix_of_suffix_append (w s rest : List Char) (hw : '&' ∉ w)
    (h : '&' :: rest <:+ w ++ s) : '&' :: rest <:+ s := by
  induction w with
  | nil => exact h
  | cons c w ih =>
      rw [List.mem_cons, not_or] at hw
      rcases List.suffix_cons_iff.mp h with heq | h
      · exact absurd (List.cons.inj heq).1 hw.1
      · exact ih hw.2 h

/-- An ampersand in what is written for a character and others begins the reference of
    the character, or stands behind it. -/
theorem ampersand_escapeTextChar (c : Char) (s rest : List Char)
    (h : '&' :: rest <:+ escapeTextChar c ++ s) :
    (∃ r ∈ references, r.1 <+: '&' :: rest) ∨ '&' :: rest <:+ s := by
  rcases escapeTextChar_cases c with hreference | ⟨hself, hamp, -, -⟩
  · rcases exists_of_mem_references _ hreference with ⟨name, hname, hnone, -, -⟩
    have hwritten : escapeTextChar c = '&' :: name := hname
    rw [hwritten, List.cons_append] at h
    rcases List.suffix_cons_iff.mp h with heq | h
    · refine Or.inl ⟨_, hreference, ?_⟩
      rw [heq, hwritten]
      exact List.prefix_append ('&' :: name) s
    · exact Or.inr (suffix_of_suffix_append name s rest hnone h)
  · rw [hself] at h
    exact Or.inr (suffix_of_suffix_append [c] s rest (by simpa using hamp.symm) h)

theorem no_tag_escapeTextChar (c : Char) : '<' ∉ escapeTextChar c ∧ '>' ∉ escapeTextChar c := by
  rcases escapeTextChar_cases c with hreference | ⟨hself, -, hlt, hgt⟩
  · rcases exists_of_mem_references _ hreference with ⟨_, -, -, hnone⟩
    exact hnone
  · rw [hself, List.mem_singleton, List.mem_singleton]
    exact ⟨hlt.symm, hgt.symm⟩

/-- Every text is escaped when it is printed. -/
theorem isEscaped_escapeText (text : List Char) : IsEscaped text (escapeText text) := by
  induction text with
  | nil => exact ⟨by simp [escapeText], by simp [escapeText], by simp [escapeText], rfl⟩
  | cons c text ih =>
      rw [escapeText, List.flatMap_cons]
      refine ⟨?_, ?_, fun rest hrest => ?_, ?_⟩
      · rw [List.mem_append, not_or]
        exact ⟨(no_tag_escapeTextChar c).1, ih.no_open⟩
      · rw [List.mem_append, not_or]
        exact ⟨(no_tag_escapeTextChar c).2, ih.no_close⟩
      · exact (ampersand_escapeTextChar c _ rest hrest).elim id (ih.ampersand rest)
      · rw [unescape_escapeTextChar]
        exact congrArg (c :: ·) ih.back

/-- A text without the four characters is written as it is. -/
theorem escapeText_eq_self (text : List Char) (h : ∀ c ∈ text, c ∉ references.map Prod.snd) :
    escapeText text = text := by
  induction text with
  | nil => rfl
  | cons c text ih =>
      rw [List.forall_mem_cons] at h
      rcases escapeTextChar_cases c with hreference | ⟨hself, -⟩
      · exact absurd (List.mem_map_of_mem hreference) h.1
      · rw [escapeText, List.flatMap_cons, hself]
        exact congrArg (c :: ·) (ih h.2)

/-- A text that looks like a reference comes back as it was. -/
example : unescape (escapeText "&lt;b\u00a0> &amp;amp;".toList) =
    "&lt;b\u00a0> &amp;amp;".toList := by decide

end Html

end CiteRender
