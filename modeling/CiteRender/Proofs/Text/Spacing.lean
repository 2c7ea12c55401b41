import CiteRender.Proofs.Text.Reading
import CiteRender.Proofs.Text.Words
import Mathlib.Data.List.Infix

/-!
# Single Spaces

The texts that joining words gives: no blank at either end, no blank but the
space, and never two spaces in a row. Every text that words are joined to is
one, and joining the words of such a text gives the text back, so these are
exactly the texts that spacing no longer changes.

## Main definitions

* `SingleSpaced`: Words with one space between them.

## Theorems

* `not_blank_of_mem_words`: Words are not empty and have no blanks in them.
* `words_intercalate`, `words_joinWords`: Joining words keeps them.
* `singleSpaced_joinWords`: Joined words are single-spaced.
* `mem_joinWords`: Joined words have the characters of the text, and spaces.
* `trim_between`, `trim_intercalate`, `exists_trim`: Trimming takes off outer blanks
  and nothing else.
* `joinWords_of_singleSpaced`: Single-spaced texts stay as they are.
-/

namespace CiteRender

namespace Text

/-- A text of words with one space between them: it neither starts nor ends
    with a blank, its blanks are spaces, and no two of them meet. -/
structure SingleSpaced (s : List Char) : Prop where
  starts : ∀ c ∈ s.head?, isBlank c = false
  ends : ∀ c ∈ s.getLast?, isBlank c = false
  spaces : ∀ c ∈ s, isBlank c = true → c = ' '
  apart : ¬ [' ', ' '] <:+: s

instance (s : List Char) : Decidable (SingleSpaced s) :=
  decidable_of_iff
    (s.head?.toList.all (fun c => !isBlank c) = true ∧
      s.getLast?.toList.all (fun c => !isBlank c) = true ∧
      s.all (fun c => !isBlank c || c == ' ') = true ∧ ¬ [' ', ' '] <:+: s)
    ⟨fun h => ⟨by simpa using h.1, by simpa using h.2.1,
        by simpa [or_iff_not_imp_left] using h.2.2.1, h.2.2.2⟩,
      fun h => ⟨by simpa using h.starts, by simpa using h.ends,
        by simpa [or_iff_not_imp_left] using h.spaces, h.apart⟩⟩

/-- Two characters in a row stand at the start of a text or behind it. -/
theorem pair_infix_cons_iff (a b c : Char) (s : List Char) :
    [a, b] <:+: c :: s ↔ (a = c ∧ s.head? = some b) ∨ [a, b] <:+: s := by
  rw [List.infix_cons_iff, List.cons_prefix_cons]
  cases s with
  | nil => simp
  | cons d s => simp [List.cons_prefix_cons, eq_comm]

theorem not_blank_of_mem_splitWhere (p : Char → Bool) (s : List Char) :
    ∀ piece ∈ splitWhere p s, ∀ c ∈ piece, p c = false := by
  induction s with
  | nil => simp [splitWhere]
  | cons d s ih =>
      intro piece hpiece
      rcases mem_splitWhere_cons p d s piece hpiece with rfl | hpiece | ⟨first, hfirst, hd, rfl⟩
      · simp
      · exact ih piece hpiece
      · rw [List.forall_mem_cons]
        exact ⟨hd, ih first hfirst⟩

/-- Words are not empty and have no blanks in them. -/
theorem not_blank_of_mem_words (s w : List Char) (hw : w ∈ words s) :
    w ≠ [] ∧ ∀ c ∈ w, isBlank c = false := by
  rcases List.mem_filter.mp hw with ⟨hmem, hne⟩
  exact ⟨of_decide_eq_true hne, not_blank_of_mem_splitWhere isBlank s w hmem⟩

theorem isBlank_space : isBlank ' ' = true := rfl

/-- Where there are no spaces no two meet. -/
theorem not_pair_infix (w : List Char) (hw : ∀ c ∈ w, isBlank c = false) :
    ¬ [' ', ' '] <:+: w := by
  intro h
  have hspace : ' ' ∈ w := h.subset (by simp)
  exact absurd (hw ' ' hspace) (by simp [isBlank_space])

theorem singleSpaced_word (w : List Char) (hw : ∀ c ∈ w, isBlank c = false) : SingleSpaced w where
  starts c hc := hw c (List.mem_of_head? hc)
  ends c hc := hw c (List.mem_of_getLast? hc)
  spaces c hc hblank := absurd (hw c hc) (by simp [hblank])
  apart := not_pair_infix w hw

/-- A word in front, with a space behind it. -/
theorem singleSpaced_append (w t : List Char) (hne : w ≠ []) (hw : ∀ c ∈ w, isBlank c = false)
    (htne : t ≠ []) (ht : SingleSpaced t) : SingleSpaced (w ++ ' ' :: t) where
  starts c hc := by
    rw [List.head?_append, List.head?_eq_some_head hne, Option.some_or] at hc
    exact hw c (Option.mem_some.mp hc ▸ List.head_mem hne)
  ends c hc := by
    rcases t with _ | ⟨d, t⟩
    · exact absurd rfl htne
    · rw [List.getLast?_append, List.getLast?_cons_cons, List.getLast?_cons, Option.some_or,
        ← List.getLast?_cons] at hc
      exact ht.ends c hc
  spaces c hc hblank := by
    rw [List.mem_append, List.mem_cons] at hc
    rcases hc with hc | rfl | hc
    · exact absurd (hw c hc) (by simp [hblank])
    · rfl
    · exact ht.spaces c hc hblank
  apart := by
    -- The space stands between two characters that are none.
    induction w with
    | nil => exact absurd rfl hne
    | cons d w ih =>
        have hd : d ≠ ' ' := by
          rintro rfl
          exact absurd (hw ' ' List.mem_cons_self) (by simp [isBlank_space])
        rw [List.cons_append, pair_infix_cons_iff]
        rintro (⟨hspace, -⟩ | hinfix)
        · exact hd hspace.symm
        · rcases w with _ | ⟨e, w⟩
          · rw [List.nil_append, pair_infix_cons_iff] at hinfix
            rcases hinfix with ⟨-, hhead⟩ | hinfix
            · exact absurd (ht.starts ' ' hhead) (by simp [isBlank_space])
            · exact ht.apart hinfix
          · exact ih (by simp) (fun c hc => hw c (List.mem_cons_of_mem d hc)) hinfix

/-- Words joined by spaces are single-spaced. -/
theorem singleSpaced_intercalate (ws : List (List Char))
    (hws : ∀ w ∈ ws, w ≠ [] ∧ ∀ c ∈ w, isBlank c = false) :
    SingleSpaced ([' '].intercalate ws) ∧ (ws ≠ [] → [' '].intercalate ws ≠ []) := by
  induction ws with
  | nil => exact ⟨singleSpaced_word [] (by simp), fun h => absurd rfl h⟩
  | cons w ws ih =>
      rw [List.forall_mem_cons] at hws
      rcases hws with ⟨⟨hne, hblank⟩, hws⟩
      cases ws with
      | nil => simpa [List.intercalate] using ⟨singleSpaced_word w hblank, hne⟩
      | cons w' ws =>
          rcases ih hws with ⟨hspaced, hnil⟩
          rw [List.intercalate_cons_cons, List.append_assoc, List.singleton_append]
          exact ⟨singleSpaced_append w _ hne hblank (hnil (by simp)) hspaced, fun _ => by simp⟩

/-- Words joined by spaces are the words of the text. -/
theorem words_intercalate (ws : List (List Char))
    (hws : ∀ w ∈ ws, w ≠ [] ∧ ∀ c ∈ w, isBlank c = false) : words ([' '].intercalate ws) = ws := by
  induction ws with
  | nil => rfl
  | cons w ws ih =>
      rw [List.forall_mem_cons] at hws
      have hword : splitWhere isBlank w = [w] := splitWhere_of_not isBlank w hws.1.2
      cases ws with
      | nil => simp [words, hword, hws.1.1]
      | cons w' ws =>
          rw [List.intercalate_cons_cons, List.append_assoc, List.singleton_append, words,
            splitWhere_append isBlank w ' ' _ isBlank_space, hword, List.singleton_append,
            List.filter_cons_of_pos (by simpa using hws.1.1)]
          exact congrArg (w :: ·) (ih hws.2)

/-- Joining words keeps them. -/
theorem words_joinWords (s : List Char) : words (joinWords s) = words s :=
  words_intercalate (words s) (not_blank_of_mem_words s)

theorem singleSpaced_joinWords (s : List Char) : SingleSpaced (joinWords s) :=
  (singleSpaced_intercalate (words s) (not_blank_of_mem_words s)).1

theorem mem_of_mem_splitWhere (p : Char → Bool) (s : List Char) :
    ∀ piece ∈ splitWhere p s, ∀ c ∈ piece, c ∈ s := by
  induction s with
  | nil => simp [splitWhere]
  | cons d s ih =>
      intro piece hpiece c hc
      rcases mem_splitWhere_cons p d s piece hpiece with rfl | hpiece | ⟨first, hfirst, -, rfl⟩
      · exact absurd hc List.not_mem_nil
      · exact List.mem_cons_of_mem d (ih piece hpiece c hc)
      · rcases List.mem_cons.mp hc with rfl | hc
        · exact List.mem_cons_self
        · exact List.mem_cons_of_mem d (ih first hfirst c hc)

/-- A character that is not in a separator is in one of the joined texts. -/
theorem mem_intercalate (sep : List Char) (ws : List (List Char)) (c : Char) (hc : c ∉ sep) :
    c ∈ sep.intercalate ws ↔ ∃ w ∈ ws, c ∈ w := by
  induction ws with
  | nil => simp [List.intercalate]
  | cons w ws ih =>
      cases ws with
      | nil => simp [List.intercalate]
      | cons w' ws =>
          rw [List.intercalate_cons_cons, List.mem_append, List.mem_append, ih, or_iff_left hc]
          simp

theorem mem_intercalate_space (ws : List (List Char)) (c : Char)
    (hc : c ∈ [' '].intercalate ws) : c = ' ' ∨ ∃ w ∈ ws, c ∈ w := by
  by_cases hspace : c = ' '
  · exact Or.inl hspace
  · exact Or.inr ((mem_intercalate [' '] ws c (by simpa using hspace)).mp hc)

/-- Joining words brings in nothing but spaces. -/
theorem mem_joinWords (s : List Char) (c : Char) (hc : c ∈ joinWords s) : c = ' ' ∨ c ∈ s := by
  rcases mem_intercalate_space (words s) c hc with hspace | ⟨w, hw, hcw⟩
  · exact Or.inl hspace
  · exact Or.inr (mem_of_mem_splitWhere isBlank s w (List.mem_filter.mp hw).1 c hcw)

theorem trim_blanks (z : List Char) (hz : ∀ c ∈ z, isBlank c = true) : trim z = [] := by
  rw [trim, List.dropWhile_eq_nil_iff.mpr hz]
  rfl

/-- Trimming takes off the blanks around a text that has none at its own ends. -/
theorem trim_between (a s z : List Char) (ha : ∀ c ∈ a, isBlank c = true)
    (hz : ∀ c ∈ z, isBlank c = true) (hstart : ∀ c ∈ s.head?, isBlank c = false)
    (hend : ∀ c ∈ s.getLast?, isBlank c = false) : trim (a ++ (s ++ z)) = s := by
  rcases s with _ | ⟨c, s⟩
  · exact trim_blanks _ (List.forall_mem_append.mpr ⟨ha, hz⟩)
  · rw [trim, dropWhile_append_stops isBlank a (c :: s ++ z) ha (stops_cons _ c _ (hstart c rfl)),
      trimEnd, List.reverse_append, dropWhile_append_stops isBlank z.reverse,
      List.reverse_reverse]
    · exact fun d hd => hz d (List.mem_reverse.mp hd)
    · rw [Stops, List.head?_reverse]
      exact hend

/-- Trimming a text without outer blanks changes nothing. -/
theorem trim_eq_self (s : List Char) (hstart : ∀ c ∈ s.head?, isBlank c = false)
    (hend : ∀ c ∈ s.getLast?, isBlank c = false) : trim s = s := by
  have htrim := trim_between [] s [] (by simp) (by simp) hstart hend
  rwa [List.nil_append, List.append_nil] at htrim

/-- Words joined by spaces have no blanks around them. -/
theorem trim_intercalate (ws : List (List Char))
    (hws : ∀ w ∈ ws, w ≠ [] ∧ ∀ c ∈ w, isBlank c = false) :
    trim ([' '].intercalate ws) = [' '].intercalate ws := by
  have hspaced := (singleSpaced_intercalate ws hws).1
  exact trim_eq_self _ hspaced.starts hspaced.ends

/-- A text with blanks at its ends, around what is left without them. -/
theorem exists_trim (s : List Char) :
    ∃ a z, (∀ c ∈ a, isBlank c = true) ∧ (∀ c ∈ z, isBlank c = true) ∧
      s = a ++ (trim s ++ z) := by
  rcases trimEnd_append (s.dropWhile isBlank) with ⟨z, hz, happ⟩
  refine ⟨s.takeWhile isBlank, z, fun c hc => List.mem_takeWhile_imp hc, hz, ?_⟩
  rw [trim, happ, List.takeWhile_append_dropWhile]

/-- Collapsing runs of blanks that are single spaces changes nothing. -/
theorem collapseFrom_eq_self (s : List Char) (hspaces : ∀ c ∈ s, isBlank c = true → c = ' ')
    (hapart : ¬ [' ', ' '] <:+: s) :
    ∀ inRun, (inRun = true → ∀ c ∈ s.head?, isBlank c = false) → collapseFrom inRun s = s := by
  induction s with
  | nil => exact fun _ _ => rfl
  | cons c s ih =>
      intro inRun hstart
      rw [pair_infix_cons_iff, not_or] at hapart
      rw [List.forall_mem_cons] at hspaces
      by_cases hc : isBlank c = true
      · -- A space in a run would be the second one.
        have hrun : inRun ≠ true := fun hrun => absurd (hstart hrun c rfl) (by simp [hc])
        rw [collapseFrom, if_pos hc, if_neg hrun, ih hspaces.2 hapart.2 true, hspaces.1 hc]
        intro _ d hd
        by_contra hblank
        have hspace := hspaces.2 d (List.mem_of_head? hd) (by simpa using hblank)
        exact hapart.1 ⟨(hspaces.1 hc).symm, by rw [← hspace]; exact hd⟩
      · rw [collapseFrom, if_neg hc, ih hspaces.2 hapart.2 false (by simp)]

theorem joinWords_of_singleSpaced (s : List Char) (h : SingleSpaced s) : joinWords s = s := by
  rw [← collapse_trim, trim_eq_self s h.starts h.ends, collapse]
  exact collapseFrom_eq_self s h.spaces h.apart false (by simp)

end Text

end CiteRender
