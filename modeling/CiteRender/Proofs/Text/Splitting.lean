import CiteRender.Text.Blank

/-!
# The Pieces of a Text

How a text that was put together of parts is taken apart again. For a separator
of one character this is the splitting of lists that the library has: the parts
are the pieces as long as none of them has the character in it.

For a longer separator that is not enough. One that is in no part may still begin
in a part and end in the separator behind it, and then it is found too early and the
rest of the text is split in the wrong places. It cannot end later than that, so
what has to be looked at is a part with the separator behind it, less its last
character.

## Theorems

* `splitWhere_eq_splitOnP`: Splitting at characters is splitting a list.
* `splitWhere_append`: A separator between two texts.
* `splitWhere_intercalate`, `intercalate_splitWhere`: Joining and splitting.
* `mem_splitWhere_cons`: The pieces of a text with a character in front.
* `not_infix_intercalate`: A part with its separators is found only where it stands.
* `splitText_append`: A part with a separator behind it.
* `splitText_intercalate`: Parts with separators between them.
-/

namespace CiteRender

namespace Text

/-! Separators of one character. -/

theorem splitWhere_eq_splitOnP (p : Char → Bool) (s : List Char) :
    splitWhere p s = s.splitOnP p := by
  induction s with
  | nil => rw [splitWhere, List.splitOnP_nil]
  | cons c s ih => rw [splitWhere, ih, List.splitOnP_cons_eq_if_modifyHead]

/-- A separator between two texts parts their pieces. -/
theorem splitWhere_append (p : Char → Bool) (s : List Char) (c : Char) (t : List Char)
    (hc : p c = true) : splitWhere p (s ++ c :: t) = splitWhere p s ++ splitWhere p t := by
  rw [splitWhere_eq_splitOnP, splitWhere_eq_splitOnP, splitWhere_eq_splitOnP]
  exact List.splitOnP_append_cons s t hc

/-- A text without separators is a single piece. -/
theorem splitWhere_of_not (p : Char → Bool) (s : List Char) (hs : ∀ c ∈ s, p c = false) :
    splitWhere p s = [s] := by
  rw [splitWhere_eq_splitOnP]
  exact List.splitOnP_eq_singleton hs

/-- Parts that are put together are found again. -/
theorem splitWhere_intercalate (c : Char) (parts : List (List Char)) (hne : parts ≠ [])
    (hparts : ∀ part ∈ parts, c ∉ part) :
    splitWhere (· == c) ([c].intercalate parts) = parts := by
  rw [splitWhere_eq_splitOnP]
  exact List.splitOn_intercalate c hparts hne

/-- A text is put together of its pieces. -/
theorem intercalate_splitWhere (c : Char) (s : List Char) :
    [c].intercalate (splitWhere (· == c) s) = s := by
  rw [splitWhere_eq_splitOnP]
  exact List.intercalate_splitOn c

/-- A piece of a longer text: nothing before a separator, one that there was, or the
    first of those with the character in front. -/
theorem mem_splitWhere_cons (p : Char → Bool) (d : Char) (s piece : List Char)
    (h : piece ∈ splitWhere p (d :: s)) :
    piece = [] ∨ piece ∈ splitWhere p s ∨
      ∃ first ∈ splitWhere p s, p d = false ∧ piece = d :: first := by
  rw [splitWhere] at h
  by_cases hd : p d = true
  · rw [if_pos hd, List.mem_cons] at h
    exact h.imp_right .inl
  · rw [if_neg hd] at h
    rcases hsplit : splitWhere p s with _ | ⟨first, rest⟩
    · exact absurd hsplit (splitWhere_ne_nil p s)
    · rw [hsplit, List.modifyHead_cons, List.mem_cons] at h
      rcases h with rfl | h
      · exact .inr (.inr ⟨first, List.mem_cons_self, by simpa using hd, rfl⟩)
      · exact .inr (.inl (List.mem_cons_of_mem first h))

/-- A part is not found between two of its separators unless it is one of the parts. The
    part may stand at the end, where no separator is behind it. -/
theorem not_infix_intercalate (c : Char) (part : List Char) (parts : List (List Char))
    (hne : parts ≠ []) (hparts : ∀ p ∈ parts, c ∉ p) (hpart : c ∉ part) (hmem : part ∉ parts) :
    ¬ c :: (part ++ [c]) <:+: [c].intercalate parts ++ c :: part := by
  rintro ⟨a, b, htext⟩
  have hsplit : splitWhere (· == c) a ++ part :: splitWhere (· == c) b = parts ++ [part] := by
    have hcut (s t : List Char) :
        splitWhere (· == c) (s ++ c :: t) = splitWhere (· == c) s ++ splitWhere (· == c) t :=
      splitWhere_append (· == c) s c t (beq_self_eq_true c)
    have hpieces := congrArg (splitWhere (· == c)) htext
    rwa [List.append_assoc, List.cons_append, List.append_assoc, List.singleton_append, hcut, hcut,
      hcut,
      splitWhere_intercalate c parts hne hparts,
      splitWhere_of_not (· == c) part fun d hd => beq_false_of_ne (ne_of_mem_of_not_mem hd hpart)]
      at hpieces
  -- Both end in a piece that is not the one found.
  refine hmem ?_
  have hinit := congrArg List.dropLast hsplit
  rw [List.dropLast_concat, List.dropLast_append_of_ne_nil (by simp),
    List.dropLast_cons_of_ne_nil (splitWhere_ne_nil _ b)] at hinit
  rw [← hinit]
  simp

/-! Separators of several characters. -/

theorem splitTextFrom_append (sep passed s : List Char) :
    splitTextFrom sep passed.length (passed ++ s) = splitTextFrom sep 0 s := by
  induction passed with
  | nil => rfl
  | cons c passed ih => rw [List.cons_append, List.length_cons, splitTextFrom, ih]

/-- A separator at the start of a text ends an empty piece. -/
theorem splitText_separator (sep s : List Char) (hsep : sep ≠ []) :
    splitText sep (sep ++ s) = [] :: splitText sep s := by
  cases sep with
  | nil => exact absurd rfl hsep
  | cons c sep =>
      have hfound : (c :: sep).isPrefixOf (c :: (sep ++ s)) = true :=
        List.isPrefixOf_iff_prefix.mpr ⟨s, rfl⟩
      rw [splitText, List.cons_append, splitTextFrom, if_pos hfound, List.length_cons,
        Nat.add_sub_cancel, splitTextFrom_append]
      rfl

/-- Where no separator begins, the piece goes on. -/
theorem splitText_cons (sep : List Char) (c : Char) (s : List Char) (h : ¬ sep <+: c :: s) :
    splitText sep (c :: s) = (splitText sep s).modifyHead (c :: ·) := by
  rw [splitText, splitTextFrom, if_neg (mt List.isPrefixOf_iff_prefix.mp h)]
  rfl

/-- A text that the separator is not in is a single piece. -/
theorem splitText_of_not_infix (sep s : List Char) (h : ¬ sep <:+: s) :
    splitText sep s = [s] := by
  induction s with
  | nil => rfl
  | cons c s ih =>
      rw [List.infix_cons_iff, not_or] at h
      rw [splitText_cons sep c s h.1, ih h.2, List.modifyHead_cons]

/-- A part with a separator behind it is a piece, unless a separator begins in the part. -/
theorem splitText_append (sep part s : List Char) (hsep : sep ≠ [])
    (h : ¬ sep <:+: part ++ sep.dropLast) :
    splitText sep (part ++ (sep ++ s)) = part :: splitText sep s := by
  induction part with
  | nil => exact splitText_separator sep s hsep
  | cons c part ih =>
      rw [List.cons_append, List.infix_cons_iff, not_or] at h
      have hfirst : ¬ sep <+: c :: (part ++ (sep ++ s)) := by
        -- A separator that begins here ends before the one behind the part does.
        intro hbegins
        refine h.1 (List.prefix_of_prefix_length_le hbegins ?_ ?_)
        · rw [← List.cons_append, ← List.cons_append, List.prefix_append_right_inj]
          exact (List.dropLast_prefix sep).trans (List.prefix_append sep s)
        · rw [List.length_cons, List.length_append, List.length_dropLast]
          omega
      rw [List.cons_append, splitText_cons sep c _ hfirst, ih h.2, List.modifyHead_cons]

/-- Parts with separators between them are the pieces, unless one begins in a part. -/
theorem splitText_intercalate (sep : List Char) (parts : List (List Char)) (hsep : sep ≠ [])
    (hne : parts ≠ []) (h : ∀ part ∈ parts, ¬ sep <:+: part ++ sep.dropLast) :
    splitText sep (sep.intercalate parts) = parts := by
  induction parts with
  | nil => exact absurd rfl hne
  | cons part parts ih =>
      rw [List.forall_mem_cons] at h
      cases parts with
      | nil =>
          rw [List.intercalate_singleton]
          exact splitText_of_not_infix sep part fun hin =>
            h.1 (hin.trans (List.prefix_append part _).isInfix)
      | cons next parts =>
          rw [List.intercalate_cons_cons, List.append_assoc, splitText_append sep part _ hsep h.1,
            ih (by simp) h.2]

end Text

end CiteRender
