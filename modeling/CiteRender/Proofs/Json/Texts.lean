import CiteRender.Json.Reader
import CiteRender.Proofs.Text.Reading

/-!
# Reading Texts from Their Own Characters

The readers of fixed words and of texts, each with the part of the text that it
takes. A text ends at its closing quote, so anything may follow it, and the part
that is taken decides what is read.

The characters of a text are read with fuel, one for each. The part that is
taken is long enough for that.

## Theorems

* `readWord_eq_ok`, `readWord_append`: Fixed words.
* `readHex_local`, `readCodePoint_local`, `readEscape_local`: Escapes.
* `readChars_local`, `readText_local`: A text is read from its own characters.
-/

namespace CiteRender

namespace Json

theorem readWord_eq_ok (word s rest : List Char) (h : readWord word s = .ok rest) :
    s = word ++ rest := by
  induction word generalizing s with
  | nil => exact Except.ok.inj h
  | cons c word ih =>
      cases s with
      | nil => exact absurd h (by simp [readWord])
      | cons d s =>
          rw [readWord] at h
          split at h
          · next hc => rw [hc, ih s h, List.cons_append]
          · exact absurd h (by simp)

theorem readWord_append (word t : List Char) : readWord word (word ++ t) = .ok t := by
  induction word with
  | nil => rfl
  | cons c word ih => rw [List.cons_append, readWord, if_pos rfl, ih]

/-- The digits of an escape are the first four characters. -/
theorem readHex_local (s rest : List Char) (n : Nat) (h : readHex s = .ok (n, rest)) :
    ∃ p, s = p ++ rest ∧ ∀ t, readHex (p ++ t) = .ok (n, t) := by
  unfold readHex at h
  split at h
  · exact absurd h (by simp)
  · next hfew =>
      split at h
      · next a b c d rest' =>
          split at h
          · next ha hb hc hd =>
              rcases Prod.mk.inj (Except.ok.inj h) with ⟨rfl, rfl⟩
              refine ⟨[a, b, c, d], rfl, fun t => ?_⟩
              unfold readHex
              rw [if_neg (show ¬ fewBytes ([a, b, c, d] ++ t) = true from hfew)]
              dsimp only [List.cons_append, List.nil_append]
              rw [ha, hb, hc, hd]
          · exact absurd h (by simp)
      · exact absurd h (by simp)

theorem readCodePoint_local (s rest : List Char) (c : Char) (h : readCodePoint s = .ok (c, rest)) :
    ∃ p, s = p ++ rest ∧ ∀ t, readCodePoint (p ++ t) = .ok (c, t) := by
  unfold readCodePoint at h
  rcases (bind_ok_iff _ _ _).mp h with ⟨⟨n, rest₁⟩, hhex, hfirst⟩
  rcases readHex_local s rest₁ n hhex with ⟨p, rfl, hlocal⟩
  dsimp only at hfirst
  split at hfirst
  · exact absurd hfirst (by simp [bind, Except.bind, throw, throwThe, MonadExceptOf.throw])
  · next hlow =>
      split at hfirst
      · -- One escape is the whole code point.
        next hplain =>
          rcases Prod.mk.inj (Except.ok.inj hfirst) with ⟨rfl, rfl⟩
          refine ⟨p, rfl, fun t => ?_⟩
          unfold readCodePoint
          rw [hlocal t]
          dsimp only [bind, Except.bind]
          rw [if_neg hlow, if_pos hplain]
          rfl
      · -- The first half of a code point calls for a second escape.
        next hpair =>
          rcases (bind_ok_iff _ _ _).mp hfirst with ⟨rest₂, hword, hsecond⟩
          rcases (bind_ok_iff _ _ _).mp hsecond with ⟨⟨low, rest₃⟩, hhex', hlast⟩
          rcases readHex_local rest₂ rest₃ low hhex' with ⟨q, rfl, hlocal'⟩
          have hrest := readWord_eq_ok _ _ _ hword
          dsimp only at hlast
          split at hlast
          · exact absurd hlast (by simp [bind, Except.bind, throw, throwThe, MonadExceptOf.throw])
          · next hrange =>
              rcases Prod.mk.inj (Except.ok.inj hlast) with ⟨rfl, rfl⟩
              refine ⟨p ++ (['\\', 'u'] ++ q), ?_, fun t => ?_⟩
              · rw [hrest, List.append_assoc, List.append_assoc]
              · unfold readCodePoint
                rw [List.append_assoc, List.append_assoc, hlocal]
                dsimp only [bind, Except.bind]
                rw [if_neg hlow, if_neg hpair, readWord_append]
                dsimp only
                rw [hlocal' t]
                dsimp only
                rw [if_neg hrange]
                rfl

/-- Reads what an escape stands for, after its backslash. -/
def readEscape : List Char → Except Problem (Char × List Char)
  | [] => .error .ended
  | 'u' :: s => readCodePoint s
  | c :: s =>
    match simpleEscape? c with
    | none => .error .malformed
    | some c => .ok (c, s)

theorem readEscape_simple (c : Char) (s : List Char) (hc : c ≠ 'u') :
    readEscape (c :: s) =
      match simpleEscape? c with
      | none => .error .malformed
      | some c => .ok (c, s) := by
  rw [readEscape.eq_3]
  exact hc

theorem readEscape_local (s rest : List Char) (c : Char) (h : readEscape s = .ok (c, rest)) :
    ∃ p, s = p ++ rest ∧ ∀ t, readEscape (p ++ t) = .ok (c, t) := by
  rcases s with _ | ⟨d, s⟩
  · exact absurd h (by simp [readEscape])
  · by_cases hd : d = 'u'
    · subst hd
      rcases readCodePoint_local s rest c h with ⟨p, rfl, hlocal⟩
      exact ⟨'u' :: p, rfl, hlocal⟩
    · rw [readEscape_simple d s hd] at h
      rcases hsimple : simpleEscape? d with _ | e
      · rw [hsimple] at h
        exact absurd h (by simp)
      · rw [hsimple] at h
        rcases Prod.mk.inj (Except.ok.inj h) with ⟨rfl, rfl⟩
        refine ⟨[d], rfl, fun t => ?_⟩
        rw [List.singleton_append, readEscape_simple d t hd, hsimple]

/-- Reads one character inside a text, which is not its closing quote. -/
def readCharacter (c : Char) (s : List Char) : Except Problem (Char × List Char) :=
  if c = '\\' then readEscape s
  else if c.toNat < 0x20 then .error .malformed
  else .ok (c, s)

theorem readChars_cons (fuel : Nat) (c : Char) (s : List Char) (hc : c ≠ '"') :
    readChars (fuel + 1) (c :: s) = (do
      let (c, s) ← readCharacter c s
      let (cs, s) ← readChars fuel s
      return (c :: cs, s)) := by
  rw [readChars.eq_def, readCharacter]
  dsimp only
  rw [if_neg hc]
  split
  · split
    · rfl
    · rfl
    · next d s hd =>
        rw [readEscape_simple d s hd]
        rcases simpleEscape? d with _ | e
        · rfl
        · rfl
  · split
    · rfl
    · rfl

theorem readCharacter_local (c : Char) (s rest : List Char) (d : Char)
    (h : readCharacter c s = .ok (d, rest)) :
    ∃ p, s = p ++ rest ∧ ∀ t, readCharacter c (p ++ t) = .ok (d, t) := by
  rw [readCharacter] at h
  split at h
  · next hc =>
      rcases readEscape_local s rest d h with ⟨p, rfl, hlocal⟩
      refine ⟨p, rfl, fun t => ?_⟩
      rw [readCharacter, if_pos hc, hlocal t]
  · next hc =>
      split at h
      · exact absurd h (by simp)
      · next hplain =>
          rcases Prod.mk.inj (Except.ok.inj h) with ⟨rfl, rfl⟩
          refine ⟨[], rfl, fun t => ?_⟩
          rw [readCharacter, if_neg hc, if_neg hplain, List.nil_append]

theorem readChars_local (fuel : Nat) : ∀ (s rest cs : List Char),
    readChars fuel s = .ok (cs, rest) → ∃ p, s = p ++ rest ∧
      ∀ fuel t, p.length ≤ fuel → readChars fuel (p ++ t) = .ok (cs, t) := by
  induction fuel with
  | zero => exact fun s rest cs h => absurd h (by simp [readChars])
  | succ fuel ih =>
      intro s rest cs h
      rcases s with _ | ⟨c, s⟩
      · exact absurd h (by simp [readChars])
      · by_cases hc : c = '"'
        · unfold readChars at h
          dsimp only at h
          rw [if_pos hc] at h
          rcases Prod.mk.inj (Except.ok.inj h) with ⟨rfl, rfl⟩
          refine ⟨[c], rfl, fun fuel t hfuel => ?_⟩
          obtain ⟨fuel, rfl⟩ := Nat.exists_eq_add_one.mpr hfuel
          unfold readChars
          dsimp only [List.singleton_append]
          rw [if_pos hc]
        · rw [readChars_cons fuel c s hc] at h
          rcases (bind_ok_iff _ _ _).mp h with ⟨⟨first, s'⟩, hfirst, hmore⟩
          rcases (bind_ok_iff _ _ _).mp hmore with ⟨⟨cs', rest'⟩, hrest, hlast⟩
          rcases Prod.mk.inj (Except.ok.inj hlast) with ⟨rfl, rfl⟩
          rcases readCharacter_local c s s' first hfirst with ⟨p, rfl, hlocal⟩
          rcases ih s' rest' cs' hrest with ⟨q, rfl, hlocal'⟩
          -- A character takes one unit of fuel, and is one character long or longer.
          refine ⟨c :: (p ++ q), by rw [List.cons_append, List.append_assoc], fun fuel t hfuel => ?_⟩
          rw [List.length_cons, List.length_append] at hfuel
          obtain ⟨fuel, rfl⟩ := Nat.exists_eq_add_one.mpr (Nat.lt_of_lt_of_le (Nat.succ_pos _) hfuel)
          rw [List.cons_append, List.append_assoc, readChars_cons fuel c _ hc]
          refine (bind_ok_iff _ _ _).mpr ⟨(first, q ++ t), hlocal (q ++ t), ?_⟩
          exact (bind_ok_iff _ _ _).mpr ⟨(cs', t), hlocal' fuel t (by omega), rfl⟩

/-- A text is read from its own characters. -/
theorem readText_local (s rest : List Char) (text : String) (h : readText s = .ok (text, rest)) :
    ∃ p, s = p ++ rest ∧ ∀ t, readText (p ++ t) = .ok (text, t) := by
  rcases (bind_ok_iff _ _ _).mp h with ⟨⟨cs, rest'⟩, hchars, hlast⟩
  rcases Prod.mk.inj (Except.ok.inj hlast) with ⟨rfl, rfl⟩
  rcases readChars_local _ s rest' cs hchars with ⟨p, rfl, hlocal⟩
  refine ⟨p, rfl, fun t => (bind_ok_iff _ _ _).mpr ⟨(cs, t), hlocal _ t ?_, rfl⟩⟩
  rw [List.length_append]
  omega

end Json

end CiteRender
