import CiteRender.Proofs.Text.Spacing

/-!
# Words at a Seam

What becomes of the words of two texts when one is put behind the other. They
stay as they are unless the texts touch, with a word at the end of the first and
one at the start of the second, and then these two become one.

So the words of a text made of parts are known from the words of each part and
from which parts touch. Joining the words of a part keeps its words and drops
its outer blanks, which can only make it touch more. Each new touch costs a
word, and no word is ever won back, so the words of the whole are the same
exactly if no part touches more than it did.

## Main definitions

* `Touch`: A word of the first text goes on in the second.
* `meld`: Words of two texts that touch.
* `Seamless`: A part whose outer blanks part no words.
* `between`: A text with gaps, and the same text put in all of them.
* `Fits`: A text put in gaps, with outer blanks that part no words there.

## Theorems

* `words_append`, `length_words_append`: The words of two texts.
* `words_joined_iff`: Joining the words of one part.
* `words_between_iff`: Joining the words of what is in the gaps.
* `fits_of_trimmed`: A text without outer blanks fits in every gap.
-/

namespace CiteRender

namespace Text

/-- A word of the first text goes on in the second: the one does not end in a
    blank, and the other does not begin with one. -/
def Touch (a b : List Char) : Prop :=
  (∃ c ∈ a.getLast?, isBlank c = false) ∧ ∃ c ∈ b.head?, isBlank c = false

instance (a b : List Char) : Decidable (Touch a b) :=
  inferInstanceAs (Decidable (_ ∧ _))

theorem goesOn_iff (s : List Char) : GoesOn s ↔ ∃ c ∈ s.head?, isBlank c = false := by
  cases s with
  | nil => simp [GoesOn]
  | cons c s => simp [GoesOn]

theorem not_touch_nil (b : List Char) : ¬ Touch [] b := by
  rintro ⟨⟨c, hc, -⟩, -⟩
  exact absurd hc (by simp)

/-- What is before the last character does not decide whether texts touch. -/
theorem touch_cons (c : Char) (a b : List Char) (ha : a ≠ []) : Touch (c :: a) b ↔ Touch a b := by
  rw [Touch, Touch, List.getLast?_cons, List.getLast?_eq_some_getLast ha, Option.getD_some]

theorem not_touch_blank (c : Char) (b : List Char) (hc : isBlank c = true) : ¬ Touch [c] b := by
  rintro ⟨⟨d, hd, hblank⟩, -⟩
  obtain rfl : c = d := by simpa using hd
  exact absurd hc (by simp [hblank])

/-- Words of two texts that touch: the last of the one and the first of the other
    are one word. -/
def meld : List (List Char) → List (List Char) → List (List Char)
  | [], vs => vs
  | [w], v :: vs => (w ++ v) :: vs
  | w :: ws, vs => w :: meld ws vs

theorem meld_cons (w : List Char) (ws vs : List (List Char)) (hws : ws ≠ []) :
    meld (w :: ws) vs = w :: meld ws vs := by
  rcases ws with _ | ⟨v, ws⟩
  · exact absurd rfl hws
  · rw [meld.eq_def]

/-- Two words that become one are one word less. -/
theorem length_meld (ws vs : List (List Char)) (hws : ws ≠ []) (hvs : vs ≠ []) :
    (meld ws vs).length + 1 = ws.length + vs.length := by
  induction ws with
  | nil => exact absurd rfl hws
  | cons w ws ih =>
      by_cases hlast : ws = []
      · subst hlast
        rcases vs with _ | ⟨v, vs⟩
        · exact absurd rfl hvs
        · rw [meld, List.length_cons, List.length_cons, List.length_cons, List.length_nil]
          omega
      · rw [meld_cons w ws vs hlast, List.length_cons, List.length_cons, ih hlast]
        omega

theorem goesOn_append (a b : List Char) (ha : a ≠ []) : GoesOn (a ++ b) ↔ GoesOn a := by
  rw [goesOn_iff, goesOn_iff, List.head?_append_of_ne_nil a ha]

/-- A text that touches another ends in a word of its own. -/
theorem Touch.words_ne_nil {a b : List Char} (h : Touch a b) : words a ≠ [] ∧ words b ≠ [] := by
  rcases h with ⟨⟨c, hc, hblank⟩, hb⟩
  constructor
  · refine Text.words_ne_nil a (fun hnil => by simp [hnil] at hc) fun d hd => ?_
    rw [← Option.mem_unique hc hd]
    exact hblank
  · rcases splitWhere_head_cons b ((goesOn_iff b).mpr hb) with ⟨d, w, rest, hsplit⟩
    rw [words, hsplit, List.filter_cons_of_pos (by simp)]
    exact List.cons_ne_nil _ _

/-- A character in front of the first of two texts that touch. -/
theorem meld_eq_cons (c : Char) (w w' : List Char) (rest rest' vs : List (List Char))
    (hvs : vs ≠ []) (h : w' :: rest' = meld (w :: rest) vs) :
    (c :: w') :: rest' = meld ((c :: w) :: rest) vs := by
  rcases rest with _ | ⟨v, rest⟩
  · rcases vs with _ | ⟨v, vs⟩
    · exact absurd rfl hvs
    · rw [meld, List.cons.injEq] at h
      rw [meld, h.1, h.2, List.cons_append]
  · rw [meld_cons _ _ _ (by simp), List.cons.injEq] at h
    rw [meld_cons _ _ _ (by simp), h.1, h.2]

/-- A single character that is no blank in front of a text. -/
theorem words_singleton_append (c : Char) (b : List Char) (hc : isBlank c = false) :
    words ([c] ++ b) = if Touch [c] b then meld (words [c]) (words b) else words [c] ++ words b := by
  have htouch : Touch [c] b ↔ GoesOn b := by
    rw [goesOn_iff, Touch]
    simp [hc]
  rw [List.singleton_append, words_cons_alone c [] hc not_goesOn_nil]
  by_cases hb : GoesOn b
  · rcases words_cons_word c b hc hb with ⟨w, rest, hw, hcw⟩
    rw [if_pos (htouch.mpr hb), hcw, hw]
    rfl
  · rw [if_neg (mt htouch.mp hb), words_cons_alone c b hc hb]
    rfl

/-- A character that goes on with the first word, which may be at the seam. -/
theorem words_cons_append (c : Char) (a b : List Char) (hc : isBlank c = false) (ha : a ≠ [])
    (hgo : GoesOn a)
    (h : words (a ++ b) = if Touch a b then meld (words a) (words b) else words a ++ words b) :
    words (c :: (a ++ b)) =
      if Touch a b then meld (words (c :: a)) (words b) else words (c :: a) ++ words b := by
  rcases words_cons_word c a hc hgo with ⟨w, rest, hw, hcw⟩
  rcases words_cons_word c (a ++ b) hc ((goesOn_append a b ha).mpr hgo) with ⟨w', rest', hw', hcw'⟩
  rw [hcw', hcw]
  rw [hw', hw] at h
  by_cases ht : Touch a b
  · rw [if_pos ht] at h ⊢
    exact meld_eq_cons c w w' rest rest' _ ht.words_ne_nil.2 h
  · rw [if_neg ht, List.cons_append, List.cons.injEq] at h
    rw [if_neg ht, List.cons_append, h.1, h.2]

/-- The words of two texts. -/
theorem words_append (a b : List Char) :
    words (a ++ b) = if Touch a b then meld (words a) (words b) else words a ++ words b := by
  induction a with
  | nil => rw [if_neg (not_touch_nil b)]; rfl
  | cons c a ih =>
      by_cases hc : isBlank c = true
      · -- A blank at the start is neither in a word nor next to the seam.
        have htouch : Touch (c :: a) b ↔ Touch a b := by
          by_cases ha : a = []
          · rw [ha]
            exact iff_of_false (not_touch_blank c b hc) (not_touch_nil b)
          · exact touch_cons c a b ha
        rw [List.cons_append, words_cons_blank c _ hc, words_cons_blank c _ hc, ih]
        simp only [htouch]
      · rw [Bool.not_eq_true] at hc
        by_cases ha : a = []
        · rw [ha]
          exact words_singleton_append c b hc
        · simp only [touch_cons c a b ha]
          rw [List.cons_append]
          by_cases hgo : GoesOn a
          · exact words_cons_append c a b hc ha hgo ih
          · -- The character is a word of its own, and the seam is behind it.
            have hgo' : ¬ GoesOn (a ++ b) := fun h => hgo ((goesOn_append a b ha).mp h)
            rw [words_cons_alone c _ hc hgo', words_cons_alone c a hc hgo, ih]
            by_cases ht : Touch a b
            · rw [if_pos ht, if_pos ht, meld_cons _ _ _ ht.words_ne_nil.1]
            · rw [if_neg ht, if_neg ht, List.cons_append]

/-- Each touch costs a word. -/
theorem length_words_append (a b : List Char) :
    (words (a ++ b)).length + (if Touch a b then 1 else 0) =
      (words a).length + (words b).length := by
  rw [words_append]
  by_cases ht : Touch a b
  · rw [if_pos ht, if_pos ht, length_meld _ _ ht.words_ne_nil.1 ht.words_ne_nil.2]
  · rw [if_neg ht, if_neg ht, List.length_append, Nat.add_zero]

/-- Texts of the same words that touch the same text have the same words with it. -/
theorem words_append_congr (a a' b b' : List Char) (ha : words a = words a')
    (hb : words b = words b') (htouch : Touch a b ↔ Touch a' b') :
    words (a ++ b) = words (a' ++ b') := by
  rw [words_append, words_append, ha, hb]
  simp only [htouch]

theorem joinWords_eq_iff (s t : List Char) : joinWords s = joinWords t ↔ words s = words t := by
  constructor
  · intro h
    rw [← words_joinWords s, h, words_joinWords]
  · intro h
    rw [joinWords, h, joinWords]

/-- A text with words has joined words that end in one. -/
theorem joinWords_touch_of_touch (v r : List Char) (h : Touch v r) : Touch (joinWords v) r := by
  have hne : joinWords v ≠ [] := by
    intro hnil
    have hwords := words_joinWords v
    rw [hnil] at hwords
    exact h.words_ne_nil.1 hwords.symm
  exact ⟨⟨_, List.getLast?_eq_some_getLast hne, (singleSpaced_joinWords v).ends _
    (List.getLast?_eq_some_getLast hne)⟩, h.2⟩

/-- Joined words begin with a word if the text does. -/
theorem goesOn_joinWords_append (v r : List Char) (h : GoesOn (v ++ r)) :
    GoesOn (joinWords v ++ r) := by
  by_cases hv : v = []
  · subst hv
    exact h
  · rcases splitWhere_head_cons v ((goesOn_append v r hv).mp h) with ⟨d, w, rest, hsplit⟩
    have hne : joinWords v ≠ [] := by
      intro hnil
      have hwords := words_joinWords v
      rw [hnil, words, words, hsplit] at hwords
      simp [splitWhere] at hwords
    rw [goesOn_append _ _ hne, goesOn_iff]
    exact ⟨_, List.head?_eq_some_head hne, (singleSpaced_joinWords v).starts _
      (List.head?_eq_some_head hne)⟩

/-- What a condition costs if it implies another. -/
theorem cost_mono {p q : Prop} [Decidable p] [Decidable q] (h : p → q) :
    (if p then 1 else 0) ≤ if q then 1 else 0 := by
  by_cases hp : p
  · rw [if_pos hp, if_pos (h hp)]
  · rw [if_neg hp]
    exact Nat.zero_le _

theorem of_cost_le {p q : Prop} [Decidable p] [Decidable q]
    (h : (if p then 1 else 0) ≤ if q then 1 else 0) (hp : p) : q := by
  by_contra hq
  rw [if_pos hp, if_neg hq] at h
  exact absurd h (by decide)

/-- Between two texts, the outer blanks of a third part no words: where its joined
    words touch what is beside them, so does the text itself. -/
def Seamless (l v r : List Char) : Prop :=
  (Touch l (joinWords v ++ r) → Touch l (v ++ r)) ∧ (Touch (joinWords v) r → Touch v r)

instance (l v r : List Char) : Decidable (Seamless l v r) :=
  inferInstanceAs (Decidable (_ ∧ _))

/-- Joining the words of what stands between two texts. It can only cost words, and
    it costs none exactly if its outer blanks part none. -/
theorem words_joined_iff (l v r : List Char) :
    (words (l ++ (joinWords v ++ r))).length ≤ (words (l ++ (v ++ r))).length ∧
      (words (l ++ (joinWords v ++ r)) = words (l ++ (v ++ r)) ↔ Seamless l v r) ∧
      ((words (l ++ (joinWords v ++ r))).length = (words (l ++ (v ++ r))).length →
        Seamless l v r) := by
  have hleft : Touch l (v ++ r) → Touch l (joinWords v ++ r) := fun h =>
    ⟨h.1, (goesOn_iff _).mp (goesOn_joinWords_append v r ((goesOn_iff _).mpr h.2))⟩
  have hright := joinWords_touch_of_touch v r
  have hcostl : (if Touch l (v ++ r) then 1 else 0) ≤ if Touch l (joinWords v ++ r) then 1 else 0 :=
    cost_mono hleft
  have hcostr : (if Touch v r then 1 else 0) ≤ if Touch (joinWords v) r then 1 else 0 :=
    cost_mono hright
  -- Both texts have the words of the three parts, less one for each touch.
  have hjoined := length_words_append l (joinWords v ++ r)
  have hplain := length_words_append l (v ++ r)
  have hjoined' := length_words_append (joinWords v) r
  have hplain' := length_words_append v r
  rw [words_joinWords] at hjoined'
  have hseamless : (words (l ++ (joinWords v ++ r))).length = (words (l ++ (v ++ r))).length →
      Seamless l v r := fun hlength =>
    ⟨of_cost_le (by omega), of_cost_le (by omega)⟩
  refine ⟨by omega, ⟨fun h => hseamless (congrArg List.length h), fun h => ?_⟩, hseamless⟩
  exact words_append_congr l l _ _ rfl
    (words_append_congr _ _ r r (words_joinWords v) rfl ⟨h.2, hright⟩) ⟨h.1, hleft⟩

/-- A text with the same text in each of its gaps. -/
def between (v : List Char) (parts : List (Option (List Char))) : List Char :=
  parts.flatMap fun part => part.getD v

theorem between_nil (v : List Char) : between v [] = [] := rfl

theorem between_cons (v : List Char) (part : Option (List Char))
    (parts : List (Option (List Char))) :
    between v (part :: parts) = part.getD v ++ between v parts :=
  List.flatMap_cons

/-- What is put in the gaps of a text, behind another text, has outer blanks that part
    no words in any of them. -/
def Fits (v : List Char) : List Char → List (Option (List Char)) → Prop
  | _, [] => True
  | left, some part :: parts => Fits v (left ++ part) parts
  | left, none :: parts => Seamless left v (between v parts) ∧ Fits v (left ++ joinWords v) parts

/-- Joining the words of what is put in gaps. -/
theorem words_between_iff (v : List Char) (parts : List (Option (List Char))) :
    ∀ left, (words (left ++ between (joinWords v) parts)).length ≤
        (words (left ++ between v parts)).length ∧
      (words (left ++ between (joinWords v) parts) = words (left ++ between v parts) ↔
        Fits v left parts) := by
  induction parts with
  | nil => exact fun left => ⟨le_refl _, iff_of_true rfl trivial⟩
  | cons part parts ih =>
      intro left
      rw [between_cons, between_cons]
      cases part with
      | some part =>
          rw [Option.getD_some, Option.getD_some, ← List.append_assoc, ← List.append_assoc]
          exact ih (left ++ part)
      | none =>
          -- The first gap is filled anew before the others are.
          rcases ih (left ++ joinWords v) with ⟨hothers, hiff⟩
          rcases words_joined_iff left v (between v parts) with ⟨hfirst, hseam, hseamless⟩
          rw [List.append_assoc, List.append_assoc] at hothers hiff
          rw [Option.getD_none, Option.getD_none, Fits, ← hseam, ← hiff]
          refine ⟨hothers.trans hfirst, fun h => ?_, fun h => h.2.trans h.1⟩
          -- No word is won back, so each of the two steps costs none.
          have hlength := congrArg List.length h
          have hsame := hseam.mpr (hseamless (by omega))
          exact ⟨hsame, h.trans hsame.symm⟩

/-- A text without outer blanks fits in every gap. -/
theorem fits_of_trimmed (v : List Char) (hstart : ∀ c ∈ v.head?, isBlank c = false)
    (hend : ∀ c ∈ v.getLast?, isBlank c = false) (parts : List (Option (List Char))) :
    ∀ left, Fits v left parts := by
  have hseamless (l r : List Char) : Seamless l v r := by
    -- A seam next to `v` is one at its first or its last character, and neither is a blank.
    by_cases hv : v = []
    · subst hv
      exact ⟨id, fun h => absurd h (not_touch_nil r)⟩
    · constructor
      · rintro ⟨hl, -⟩
        refine ⟨hl, _, List.head?_eq_some_head (by simp [hv]), ?_⟩
        rw [List.head_append_of_ne_nil hv]
        exact hstart _ (List.head?_eq_some_head hv)
      · rintro ⟨-, hr⟩
        exact ⟨⟨_, List.getLast?_eq_some_getLast hv, hend _ (List.getLast?_eq_some_getLast hv)⟩, hr⟩
  induction parts with
  | nil => exact fun _ => trivial
  | cons part parts ih =>
      intro left
      cases part with
      | some part => exact ih (left ++ part)
      | none => exact ⟨hseamless left _, ih _⟩

end Text

end CiteRender
