import CiteRender.Proofs.Bibtex.Blocks

/-!
# Brace Depth

Which brace closes a group, said by counting. The depth at the end of a text is the
number of its opening braces less that of its closing ones, where a character that a
backslash hides is not counted. A group ends where the depth comes back to zero for the
first time.

Depth is counted over a text that may break off anywhere, so it does not add up over
two parts of a text: the first may end in a backslash, which then hides the first
character of the second. It can be taken apart from the left all the same, by one
character or by a backslash with the one behind it, and this is how the scanner goes.
What the scanner carries is the depth that is left to come down: every text that it
has passed over stays above that, and the one it ends with is the first to reach it.

## Main definitions

* `unhidden`: The characters that count.
* `braceDepth`: The depth at the end of a text.
* `FirstReturn`: The depth is back at zero for the first time.

## Theorems

* `FirstReturn.shortest`, `FirstReturn.unique`: A text begins with one such text at most.
* `braceDepth_of_groupTail`, `le_braceDepth_of_groupTail_none`: The scanner by depth.
* `exists_group_iff`: There is a group exactly if the depth returns.
* `group_eq_ok_iff`: The group of a text is its first return.
-/

namespace CiteRender

namespace Bibtex

/-- The characters of a text that are not hidden. A backslash hides the character behind
    it, unless it is hidden itself. -/
def unhidden : List Char → List Char
  | [] => []
  | [c] => [c]
  | c :: d :: s => if c = '\\' then c :: unhidden s else c :: unhidden (d :: s)

/-- The brace depth at the end of a text. -/
def braceDepth (s : List Char) : Int :=
  (unhidden s).count '{' - (unhidden s).count '}'

/-- At the end of a text the depth is back at zero, and it was not at the end of any
    shorter part of it. -/
structure FirstReturn (s : List Char) : Prop where
  ne_nil : s ≠ []
  returns : braceDepth s = 0
  first : ∀ p, p <+: s → p ≠ [] → braceDepth p = 0 → p = s

/-- A first return is the shortest part of a text at whose end the depth is zero. -/
theorem FirstReturn.shortest {p q s : List Char} (hp : FirstReturn p) (hps : p <+: s)
    (hqs : q <+: s) (hne : q ≠ []) (hzero : braceDepth q = 0) : p <+: q := by
  rcases List.prefix_or_prefix_of_prefix hps hqs with h | h
  · exact h
  · exact hp.first q h hne hzero ▸ List.prefix_refl q

/-- A text begins with one first return at most. -/
theorem FirstReturn.unique {p q s : List Char} (hp : FirstReturn p) (hq : FirstReturn q)
    (hps : p <+: s) (hqs : q <+: s) : p = q :=
  hq.first p (hp.shortest hps hqs hq.ne_nil hq.returns) hp.ne_nil hp.returns

theorem unhidden_cons (c : Char) (s : List Char) (hc : c ≠ '\\') :
    unhidden (c :: s) = c :: unhidden s := by
  cases s with
  | nil => rfl
  | cons d s => rw [unhidden, if_neg hc]

theorem braceDepth_nil : braceDepth [] = 0 := rfl

theorem braceDepth_backslash : braceDepth ['\\'] = 0 := rfl

theorem braceDepth_hidden (c : Char) (s : List Char) :
    braceDepth ('\\' :: c :: s) = braceDepth s := by
  rw [braceDepth, unhidden, if_pos rfl, List.count_cons_of_ne (by decide),
    List.count_cons_of_ne (by decide), braceDepth]

theorem braceDepth_open (s : List Char) : braceDepth ('{' :: s) = braceDepth s + 1 := by
  rw [braceDepth, unhidden_cons _ s (by decide), List.count_cons_self,
    List.count_cons_of_ne (by decide), braceDepth]
  omega

theorem braceDepth_close (s : List Char) : braceDepth ('}' :: s) = braceDepth s - 1 := by
  rw [braceDepth, unhidden_cons _ s (by decide), List.count_cons_self,
    List.count_cons_of_ne (by decide), braceDepth]
  omega

theorem braceDepth_plain (c : Char) (s : List Char) (hc : c ≠ '{' ∧ c ≠ '}' ∧ c ≠ '\\') :
    braceDepth (c :: s) = braceDepth s := by
  rw [braceDepth, unhidden_cons c s hc.2.2, List.count_cons_of_ne hc.1,
    List.count_cons_of_ne hc.2.1, braceDepth]

section

variable {bound : Int} {s : List Char}

/-- A bound on the depth over all parts that a text begins with, for one character more
    in front of it. The character shifts the depth of all of them but the empty one. -/
theorem le_braceDepth_cons (c : Char) (shift : Int) (hnil : bound ≤ 0)
    (hc : ∀ p, braceDepth (c :: p) = braceDepth p + shift)
    (h : ∀ p, p <+: s → bound - shift ≤ braceDepth p) :
    ∀ p, p <+: c :: s → bound ≤ braceDepth p := by
  intro p hp
  rcases List.prefix_cons_iff.1 hp with rfl | ⟨q, rfl, hq⟩
  · exact hnil
  · have := h q hq
    rw [hc]
    omega

/-- The same for a backslash and the character that it hides. -/
theorem le_braceDepth_hidden (c : Char) (hnil : bound ≤ 0)
    (h : ∀ p, p <+: s → bound ≤ braceDepth p) :
    ∀ p, p <+: '\\' :: c :: s → bound ≤ braceDepth p := by
  intro p hp
  rcases List.prefix_cons_iff.1 hp with rfl | ⟨q, rfl, hq⟩
  · exact hnil
  · rcases List.prefix_cons_iff.1 hq with rfl | ⟨r, rfl, hr⟩
    · exact hnil
    · rw [braceDepth_hidden]
      exact h r hr

end

/-- Where the scanner ends, the depth has come down by one for each open group and one
    more, and it was above that at every place before. -/
theorem braceDepth_of_groupTail (depth : Nat) (s inner rest : List Char)
    (h : groupTail depth s = some (inner, rest)) :
    braceDepth (inner ++ ['}']) = -(depth + 1) ∧
      ∀ p, p <+: inner → -(depth : Int) ≤ braceDepth p := by
  fun_induction groupTail depth s generalizing inner rest with
  | case1 => simp at h
  | case2 =>
      simp only [Option.some.injEq, Prod.mk.injEq] at h
      rcases h with ⟨rfl, rfl⟩
      refine ⟨rfl, fun p hp => ?_⟩
      rw [List.prefix_nil.1 hp, braceDepth_nil]
      exact Int.le_refl 0
  -- A closing brace inside: what is behind it is read one group further out.
  | case3 tail depth ih =>
      rcases (map_fst_eq_some_iff (List.cons '}') _ _ _).mp h with ⟨inside, hr, rfl⟩
      rcases ih inside rest hr with ⟨hend, hbefore⟩
      refine ⟨?_, le_braceDepth_cons '}' (-1) (by omega) (fun p => braceDepth_close p) ?_⟩
      · rw [List.cons_append, braceDepth_close, hend]
        push_cast
        omega
      · intro p hp
        have := hbefore p hp
        push_cast
        omega
  -- An opening brace: what is behind it is read one group further in.
  | case4 depth tail _ ih =>
      rcases (map_fst_eq_some_iff (List.cons '{') _ _ _).mp h with ⟨inside, hr, rfl⟩
      rcases ih inside rest hr with ⟨hend, hbefore⟩
      refine ⟨?_, le_braceDepth_cons '{' 1 (by omega) (fun p => braceDepth_open p) ?_⟩
      · rw [List.cons_append, braceDepth_open, hend]
        push_cast
        omega
      · intro p hp
        have := hbefore p hp
        push_cast at this
        omega
  | case5 => simp at h
  -- A backslash hides the character behind it, so no prefix in between counts.
  | case6 depth d tail _ _ ih =>
      rcases (map_fst_eq_some_iff (fun x => '\\' :: d :: x) _ _ _).mp h with ⟨inside, hr, rfl⟩
      rcases ih inside rest hr with ⟨hend, hbefore⟩
      refine ⟨?_, le_braceDepth_hidden d (by omega) hbefore⟩
      rw [List.cons_append, List.cons_append, braceDepth_hidden, hend]
  | case7 depth c tail hclose hopen hslash ih =>
      rcases (map_fst_eq_some_iff (List.cons c) _ _ _).mp h with ⟨inside, hr, rfl⟩
      rcases ih inside rest hr with ⟨hend, hbefore⟩
      have hplain (p : List Char) := braceDepth_plain c p ⟨hopen, hclose, hslash⟩
      refine ⟨?_, le_braceDepth_cons c 0 (by omega) (by simpa using hplain)
        (by simpa using hbefore)⟩
      rw [List.cons_append, hplain, hend]

/-- Where the scanner finds no end, the depth is above the one it looks for everywhere. -/
theorem le_braceDepth_of_groupTail_none (depth : Nat) (s : List Char)
    (h : groupTail depth s = none) : ∀ p, p <+: s → -(depth : Int) ≤ braceDepth p := by
  fun_induction groupTail depth s with
  | case1 =>
      intro p hp
      rw [List.prefix_nil.1 hp, braceDepth_nil]
      omega
  | case2 => simp at h
  | case3 tail depth ih =>
      refine le_braceDepth_cons '}' (-1) (by omega) (fun p => braceDepth_close p) fun p hp => ?_
      have := ih (Option.map_eq_none_iff.1 h) p hp
      push_cast
      omega
  | case4 depth tail _ ih =>
      refine le_braceDepth_cons '{' 1 (by omega) (fun p => braceDepth_open p) fun p hp => ?_
      have := ih (Option.map_eq_none_iff.1 h) p hp
      push_cast at this
      omega
  | case5 =>
      -- The backslash is the last character, and hides nothing.
      intro p hp
      rcases List.prefix_cons_iff.1 hp with rfl | ⟨q, rfl, hq⟩
      · rw [braceDepth_nil]
        omega
      · rw [List.prefix_nil.1 hq, braceDepth_backslash]
        omega
  | case6 depth d tail _ _ ih =>
      exact le_braceDepth_hidden d (by omega) (ih (Option.map_eq_none_iff.1 h))
  | case7 depth c tail hclose hopen hslash ih =>
      have hplain (p : List Char) := braceDepth_plain c p ⟨hopen, hclose, hslash⟩
      exact le_braceDepth_cons c 0 (by omega) (by simpa using hplain)
        (by simpa using ih (Option.map_eq_none_iff.1 h))

/-- A group with its braces is the first return. -/
theorem firstReturn_of_group (s inner rest : List Char) (h : group s = .ok (inner, rest)) :
    s = '{' :: inner ++ ['}'] ++ rest ∧ FirstReturn ('{' :: inner ++ ['}']) := by
  rcases group_sound s inner rest h with ⟨rfl, hi⟩
  have hscan := (groupTail_eq_some_iff (inner ++ '}' :: rest) inner rest).2 ⟨rfl, hi⟩
  rcases braceDepth_of_groupTail 0 _ inner rest hscan with ⟨hend, hbefore⟩
  refine ⟨rfl, by simp, ?_, fun p hp hne hzero => ?_⟩
  · rw [List.cons_append, braceDepth_open, hend]
    rfl
  · rw [List.cons_append, List.prefix_cons_iff] at hp
    rcases hp with rfl | ⟨q, rfl, hq⟩
    · exact absurd rfl hne
    · -- A part that is not all of it ends before the brace, where a group is open.
      rcases List.prefix_concat_iff.1 hq with rfl | hq
      · rfl
      · have := hbefore q hq
        rw [braceDepth_open] at hzero
        omega

/-- A text begins with a group if it begins with a brace and the depth returns. -/
theorem exists_group_iff (s : List Char) :
    (∃ inner rest, group s = .ok (inner, rest)) ↔
      s.head? = some '{' ∧ ∃ p, p <+: s ∧ p ≠ [] ∧ braceDepth p = 0 := by
  constructor
  · rintro ⟨inner, rest, h⟩
    rcases firstReturn_of_group s inner rest h with ⟨rfl, hfirst⟩
    exact ⟨rfl, _, List.prefix_append _ _, hfirst.ne_nil, hfirst.returns⟩
  · rintro ⟨hhead, p, hp, hne, hzero⟩
    rcases List.head?_eq_some_iff.1 hhead with ⟨tail, rfl⟩
    rcases List.prefix_cons_iff.1 hp with rfl | ⟨q, rfl, hq⟩
    · exact absurd rfl hne
    · rcases hscan : groupTail 0 tail with _ | ⟨inner, rest⟩
      · have := le_braceDepth_of_groupTail_none 0 tail hscan q hq
        rw [braceDepth_open] at hzero
        omega
      · exact ⟨inner, rest, by simp [group, hscan]⟩

/-- The group of a text is its first return, and the rest is what follows that. -/
theorem group_eq_ok_iff (s inner rest : List Char) :
    group s = .ok (inner, rest) ↔
      s = '{' :: inner ++ ['}'] ++ rest ∧ FirstReturn ('{' :: inner ++ ['}']) := by
  refine ⟨firstReturn_of_group s inner rest, ?_⟩
  rintro ⟨rfl, hfirst⟩
  have hhere := List.prefix_append ('{' :: inner ++ ['}']) rest
  rcases (exists_group_iff _).2 ⟨rfl, _, hhere, hfirst.ne_nil, hfirst.returns⟩ with
    ⟨inner', rest', hgroup⟩
  -- There is a group, and it cannot be another.
  rcases firstReturn_of_group _ inner' rest' hgroup with ⟨hsplit, hfirst'⟩
  have hsame := hfirst.unique hfirst' hhere ⟨rest', hsplit.symm⟩
  rw [← hsame] at hsplit
  rw [hgroup, List.append_cancel_left hsplit,
    List.append_cancel_right (List.cons.inj hsame).2]

end Bibtex

end CiteRender
