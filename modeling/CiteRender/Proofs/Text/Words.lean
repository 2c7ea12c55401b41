import CiteRender.Proofs.Text.Splitting
import Mathlib.Data.List.TakeWhile

/-!
# Words of a Text

Collapsing a trimmed text gives its words with one space between them. The
two are computed differently: collapsing carries a flag from the left that
says whether the last character was a blank, while the words are cut out
first and joined afterwards. They agree only once the text does not end in a
blank, since a blank at the end would leave a space behind.

`words_cons_word` is where the two meet. A character that is no blank either
begins a word of its own or goes on with the first word behind it, and which
of the two it is depends on the next character alone.

## Main definitions

* `joinWords`: The words of a text with one space between them.
* `EndsInWord`, `GoesOn`: The text does not end in a blank, or begins with a
  word.

## Theorems

* `words_cons_blank`: A blank at the start adds no word.
* `words_cons_alone`, `words_cons_word`: What a character in front adds.
* `words_trim`: Trimming keeps the words.
* `head?_trim`, `endsInWord_trim`: A trimmed text has no blanks at its ends.
* `collapseFrom_eq`: Collapsing a text that ends in a word.
* `collapse_trim`: Collapsing a trimmed text joins its words.
-/

namespace CiteRender

namespace Text

/-- The words of a text with one space between them. -/
def joinWords (s : List Char) : List Char :=
  [' '].intercalate (words s)

/-- The text does not end in a blank. -/
def EndsInWord (s : List Char) : Prop :=
  ∀ c ∈ s.getLast?, isBlank c = false

/-- The text goes on with a word: its first character is no blank. -/
def GoesOn (s : List Char) : Prop :=
  ∃ c t, s = c :: t ∧ isBlank c = false

theorem not_goesOn_nil : ¬ GoesOn [] := by
  rintro ⟨c, t, hs, -⟩
  exact absurd hs (by simp)

theorem words_cons_blank (c : Char) (s : List Char) (hc : isBlank c = true) :
    words (c :: s) = words s := by
  rw [words, words, splitWhere, if_pos hc, List.filter_cons_of_neg (by simp)]

/-- The first piece of a text is empty unless a word comes first. -/
theorem splitWhere_head_nil (s : List Char) (hs : ¬ GoesOn s) :
    ∃ rest, splitWhere isBlank s = [] :: rest := by
  cases s with
  | nil => exact ⟨[], rfl⟩
  | cons c t =>
      by_cases hc : isBlank c = true
      · exact ⟨splitWhere isBlank t, by rw [splitWhere, if_pos hc]⟩
      · exact absurd ⟨c, t, rfl, by simpa using hc⟩ hs

theorem splitWhere_head_cons (s : List Char) (hs : GoesOn s) :
    ∃ d w rest, splitWhere isBlank s = (d :: w) :: rest := by
  rcases hs with ⟨c, t, rfl, hc⟩
  rw [splitWhere, if_neg (by simp [hc])]
  rcases hsplit : splitWhere isBlank t with _ | ⟨w, rest⟩
  · exact absurd hsplit (splitWhere_ne_nil isBlank t)
  · exact ⟨c, w, rest, rfl⟩

/-- A character that no word follows is a word of its own. -/
theorem words_cons_alone (c : Char) (s : List Char) (hc : isBlank c = false) (hs : ¬ GoesOn s) :
    words (c :: s) = [c] :: words s := by
  rcases splitWhere_head_nil s hs with ⟨rest, hrest⟩
  simp [words, splitWhere, hc, hrest]

/-- A character in front of a word belongs to it. -/
theorem words_cons_word (c : Char) (s : List Char) (hc : isBlank c = false) (hs : GoesOn s) :
    ∃ w rest, words s = w :: rest ∧ words (c :: s) = (c :: w) :: rest := by
  rcases splitWhere_head_cons s hs with ⟨d, w, rest, hrest⟩
  refine ⟨d :: w, rest.filter (· ≠ []), ?_, ?_⟩
  · simp [words, hrest]
  · simp [words, splitWhere, hc, hrest]

theorem words_dropWhile (s : List Char) : words (s.dropWhile isBlank) = words s := by
  induction s with
  | nil => rfl
  | cons c s ih =>
      by_cases hc : isBlank c = true
      · rw [List.dropWhile_cons_of_pos hc, words_cons_blank c s hc, ih]
      · rw [List.dropWhile_cons_of_neg hc]

theorem words_append_blanks (s blanks : List Char) (hb : ∀ c ∈ blanks, isBlank c = true) :
    words (s ++ blanks) = words s := by
  induction blanks generalizing s with
  | nil => rw [List.append_nil]
  | cons c blanks ih =>
      have hc : isBlank c = true := hb c List.mem_cons_self
      -- Splitting sees a blank at the end as one more, empty piece.
      have hone : words (s ++ [c]) = words s := by
        simp [words, splitWhere_append isBlank s c [] hc, splitWhere]
      rw [List.append_cons, ih (s ++ [c]) fun d hd => hb d (List.mem_cons_of_mem c hd), hone]

/-- What `trimEnd` drops is a run of blanks. -/
theorem trimEnd_append (s : List Char) :
    ∃ blanks, (∀ c ∈ blanks, isBlank c = true) ∧ trimEnd s ++ blanks = s := by
  refine ⟨(s.reverse.takeWhile isBlank).reverse, ?_, ?_⟩
  · intro c hc
    exact List.mem_takeWhile_imp (List.mem_reverse.mp hc)
  · rw [trimEnd, ← List.reverse_append, List.takeWhile_append_dropWhile, List.reverse_reverse]

theorem words_trim (s : List Char) : words (trim s) = words s := by
  rcases trimEnd_append (s.dropWhile isBlank) with ⟨blanks, hb, happ⟩
  calc words (trim s) = words (trim s ++ blanks) := (words_append_blanks _ blanks hb).symm
    _ = words (s.dropWhile isBlank) := by rw [trim, happ]
    _ = words s := words_dropWhile s

theorem endsInWord_trim (s : List Char) : EndsInWord (trim s) := by
  intro c hc
  rw [trim, trimEnd, List.getLast?_reverse] at hc
  have hdrop := List.head?_dropWhile_not isBlank (s.dropWhile isBlank).reverse
  rw [Option.mem_def.mp hc] at hdrop
  simpa using hdrop

/-- A trimmed text does not begin with a blank. -/
theorem head?_trim (s : List Char) : ∀ c ∈ (trim s).head?, isBlank c = false := by
  intro c hc
  rcases trimEnd_append (s.dropWhile isBlank) with ⟨blanks, -, happ⟩
  have hhead := List.head?_dropWhile_not isBlank s
  rw [← happ, List.head?_append, show (trimEnd (s.dropWhile isBlank)).head? = some c from hc,
    Option.some_or] at hhead
  simpa using hhead

theorem endsInWord_tail (c : Char) (s : List Char) (h : EndsInWord (c :: s)) :
    EndsInWord s := by
  intro d hd
  refine h d ?_
  rw [Option.mem_def] at hd ⊢
  rw [List.getLast?_cons, hd, Option.getD_some]

/-- A text that ends in a word has one, unless it is empty. -/
theorem words_ne_nil (s : List Char) : s ≠ [] → EndsInWord s → words s ≠ [] := by
  induction s with
  | nil => exact fun hs _ => absurd rfl hs
  | cons c s ih =>
      intro _ h
      by_cases hc : isBlank c = true
      · rcases s with _ | ⟨d, t⟩
        · -- A lone blank does not end in a word.
          exact absurd (h c rfl) (by simp [hc])
        · rw [words_cons_blank c _ hc]
          exact ih (by simp) (endsInWord_tail c _ h)
      · rw [Bool.not_eq_true] at hc
        by_cases hgo : GoesOn s
        · rcases words_cons_word c s hc hgo with ⟨w, rest, -, hw⟩
          simp [hw]
        · simp [words_cons_alone c s hc hgo]

/-- Collapsing a text that ends in a word. A blank at the start becomes a space
    only if no blank came before it. -/
theorem collapseFrom_eq (s : List Char) (h : EndsInWord s) :
    collapseFrom true s = joinWords s ∧ (GoesOn s → collapseFrom false s = joinWords s) ∧
      (¬ GoesOn s → s ≠ [] → collapseFrom false s = ' ' :: joinWords s) := by
  induction s with
  | nil => exact ⟨rfl, fun _ => rfl, fun _ hs => absurd rfl hs⟩
  | cons c s ih =>
      by_cases hc : isBlank c = true
      · have hs : s ≠ [] := by
          rintro rfl
          exact absurd (h c rfl) (by simp [hc])
        have hword : joinWords (c :: s) = joinWords s := by
          rw [joinWords, joinWords, words_cons_blank c s hc]
        have hgo : ¬ GoesOn (c :: s) := by
          rintro ⟨d, t, heq, hd⟩
          rw [← (List.cons.inj heq).1, hc] at hd
          exact Bool.noConfusion hd
        have hrest := (ih (endsInWord_tail c s h)).1
        refine ⟨?_, fun hword => absurd hword hgo, fun _ _ => ?_⟩
        · rw [collapseFrom, if_pos hc, if_pos rfl, hrest, hword]
        · rw [collapseFrom, if_pos hc, if_neg (by simp), hrest, hword]
      · rw [Bool.not_eq_true] at hc
        have hgo : GoesOn (c :: s) := ⟨c, s, rfl, hc⟩
        -- Both states of the flag do the same at a character that is no blank.
        have hboth : c :: collapseFrom false s = joinWords (c :: s) := by
          by_cases hnil : s = []
          · subst hnil
            rw [joinWords, words_cons_alone c [] hc not_goesOn_nil]
            rfl
          · have hends := endsInWord_tail c s h
            by_cases hnext : GoesOn s
            · rcases words_cons_word c s hc hnext with ⟨w, rest, hs, hcs⟩
              rw [(ih hends).2.1 hnext, joinWords, joinWords, hs, hcs]
              cases rest <;> rfl
            · rw [(ih hends).2.2 hnext hnil, joinWords, joinWords, words_cons_alone c s hc hnext]
              rcases hw : words s with _ | ⟨w, rest⟩
              · exact absurd hw (words_ne_nil s hnil hends)
              · rfl
        refine ⟨?_, fun _ => ?_, fun hno => absurd hgo hno⟩
        · rw [collapseFrom, if_neg (by simp [hc]), hboth]
        · rw [collapseFrom, if_neg (by simp [hc]), hboth]

/-- Collapsing a trimmed text joins the words of the text. -/
theorem collapse_trim (s : List Char) : collapse (trim s) = joinWords s := by
  have hjoin : joinWords (trim s) = joinWords s := by
    rw [joinWords, joinWords, words_trim]
  rw [collapse, ← hjoin]
  rcases hs : trim s with _ | ⟨c, t⟩
  · rfl
  · have hc : isBlank c = false := head?_trim s c (by rw [hs, List.head?_cons]; rfl)
    rw [← hs]
    exact (collapseFrom_eq (trim s) (endsInWord_trim s)).2.1 ⟨c, t, hs, hc⟩

end Text

end CiteRender
