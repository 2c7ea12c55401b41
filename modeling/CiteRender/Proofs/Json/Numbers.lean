import CiteRender.Json.Reader
import CiteRender.Proofs.Text.Reading
import Mathlib.Data.List.TakeWhile

/-!
# Reading Numbers from Their Own Text

A reader takes from a text what it can and gives the rest. Which part it has
taken is not said, and it is not clear that the part alone decides the result,
because a reader may look further. For each reader of a number there is a part
of the text in front of the rest, and from that part in front of anything else
the same number is read.

For a number this needs that it does not go on: `12` is read from `123` only as
far as `123`. So what follows must not begin with a digit, a point or the letter
of an exponent.

## Main definitions

* `EndsNumber`: A text that does not go on with a number.

## Theorems

* `readExponent_local`, `readUnsigned_local`: Parts of a number.
* `readNumber_local`: A number is read from its own text.
-/

namespace CiteRender

namespace Json

/-- The text does not go on with a number. -/
def EndsNumber (t : List Char) : Prop :=
  Stops (fun c => c.isDigit || c == '.' || c == 'e' || c == 'E') t

theorem EndsNumber.stops_isDigit {t : List Char} (h : EndsNumber t) : Stops Char.isDigit t :=
  h.mono fun c hc => by simp [hc]

theorem EndsNumber.stops_point {t : List Char} (h : EndsNumber t) : Stops (· == '.') t :=
  h.mono fun c hc => by simp_all

theorem EndsNumber.stops_exponent {t : List Char} (h : EndsNumber t) :
    Stops (fun c => c == 'e' || c == 'E') t :=
  h.mono fun c hc => by
    rw [Bool.or_eq_true] at hc
    rcases hc with hc | hc <;> simp [hc]

/-- The sign in front of the digits of an exponent, and the text behind it. -/
def signOf : List Char → Bool × List Char
  | '+' :: s => (false, s)
  | '-' :: s => (true, s)
  | s => (false, s)

/-- A sign stays the same in front of other digits. -/
theorem signOf_local (s : List Char) :
    ∃ sign, s = sign ++ (signOf s).2 ∧
      ∀ c t, c.isDigit = true → signOf (sign ++ c :: t) = ((signOf s).1, c :: t) := by
  unfold signOf
  split
  · exact ⟨['+'], rfl, fun c t _ => rfl⟩
  · exact ⟨['-'], rfl, fun c t _ => rfl⟩
  · refine ⟨[], rfl, fun c t hc => ?_⟩
    rw [List.nil_append]
    split
    · next h => exact absurd hc (by rw [(List.cons.inj h).1]; decide)
    · next h => exact absurd hc (by rw [(List.cons.inj h).1]; decide)
    · rfl

theorem readExponent_cons (c : Char) (s : List Char) (hc : c = 'e' ∨ c = 'E') :
    readExponent (c :: s) =
      if ((signOf s).2.takeWhile Char.isDigit).isEmpty then .error (unexpected (signOf s).2)
      else .ok
        (some (if (signOf s).1 then -(Text.decimalValue ((signOf s).2.takeWhile Char.isDigit) : Int)
          else (Text.decimalValue ((signOf s).2.takeWhile Char.isDigit) : Int)),
          (signOf s).2.dropWhile Char.isDigit) := by
  unfold readExponent
  dsimp only
  rw [if_pos hc]
  rfl

theorem readExponent_of_ends (t : List Char) (ht : Stops (fun c => c == 'e' || c == 'E') t) :
    readExponent t = .ok (none, t) := by
  cases t with
  | nil => rfl
  | cons c t =>
      have hc : ¬ (c = 'e' ∨ c = 'E') := by simpa using ht c rfl
      unfold readExponent
      dsimp only
      rw [if_neg hc]

theorem readExponent_local (s rest : List Char) (exponent : Option Int)
    (h : readExponent s = .ok (exponent, rest)) :
    ∃ p, s = p ++ rest ∧ ∀ t, EndsNumber t → readExponent (p ++ t) = .ok (exponent, t) := by
  by_cases hends : Stops (fun c => c == 'e' || c == 'E') s
  · -- There is no exponent, and nothing is taken.
    rw [readExponent_of_ends s hends] at h
    rcases Prod.mk.inj (Except.ok.inj h) with ⟨rfl, rfl⟩
    exact ⟨[], rfl, fun t ht => readExponent_of_ends t ht.stops_exponent⟩
  · rcases s with _ | ⟨c, s⟩
    · exact absurd (stops_nil _) hends
    · have hc : c = 'e' ∨ c = 'E' := by
        refine Decidable.byContradiction fun hc => ?_
        exact hends (stops_cons _ c s (by simpa using hc))
      rcases signOf_local s with ⟨sign, hsign, hlocal⟩
      let digits := (signOf s).2.takeWhile Char.isDigit
      rw [readExponent_cons c s hc] at h
      split at h
      · exact absurd h (by simp)
      · next hdigits =>
          rcases Prod.mk.inj (Except.ok.inj h) with ⟨rfl, rfl⟩
          refine ⟨c :: (sign ++ digits), ?_, fun t ht => ?_⟩
          · rw [List.cons_append, List.append_assoc, List.takeWhile_append_dropWhile, ← hsign]
          · -- There is a digit behind the sign, so the sign is read as before.
            rcases hshape : digits with _ | ⟨d, more⟩
            · exact absurd (by rw [show (signOf s).2.takeWhile Char.isDigit = [] from hshape]; rfl)
                hdigits
            · have hall : ∀ x ∈ d :: more, x.isDigit = true := fun x hx =>
                List.mem_takeWhile_imp (hshape ▸ hx)
              have hsigned := hlocal d (more ++ t) (hall d List.mem_cons_self)
              have htake := takeWhile_append_stops _ _ t hall ht.stops_isDigit
              have hdrop := dropWhile_append_stops _ _ t hall ht.stops_isDigit
              rw [List.cons_append, List.append_assoc, readExponent_cons c _ hc]
              rw [List.cons_append] at htake hdrop ⊢
              rw [hsigned]
              dsimp only
              rw [htake, hdrop, show (signOf s).2.takeWhile Char.isDigit = d :: more from hshape]
              rfl

/-- The number of some digits in front of a point, as far as they were kept. -/
def wholeNumber (negative : Bool) (kept : Nat × List Char) :
    Option Int → Except Problem Number
  | some e => binaryNumber negative kept.1 ((kept.2.length : Int) + e)
  | none =>
    if kept.2.isEmpty then integerNumber negative kept.1
    else binaryNumber negative kept.1 kept.2.length

/-- The number of digits in front of a point and behind it. -/
def pointNumber (negative : Bool) (kept : Nat × List Char) (part : List Char)
    (exponent : Option Int) : Except Problem Number :=
  let all := absorb kept.1 part
  let shift : Int := (kept.2.length : Int) - ((part.length : Int) - all.2.length)
  binaryNumber negative all.1 (shift + exponent.getD 0)

/-- Reads an exponent and makes a number with it. -/
def readEnd (number : Option Int → Except Problem Number) (s : List Char) :
    Except Problem (Number × List Char) := do
  let (exponent, rest) ← readExponent s
  let n ← number exponent
  return (n, rest)

/-- Reads what is behind the digits in front of a point. -/
def readBehind (negative : Bool) (kept : Nat × List Char) :
    List Char → Except Problem (Number × List Char)
  | '.' :: tail =>
    if (tail.takeWhile Char.isDigit).isEmpty then .error (unexpected tail)
    else readEnd (pointNumber negative kept (tail.takeWhile Char.isDigit))
      (tail.dropWhile Char.isDigit)
  | rest => readEnd (wholeNumber negative kept) rest

theorem readUnsigned_eq (negative : Bool) (s : List Char) :
    readUnsigned negative s =
      if (s.takeWhile Char.isDigit).isEmpty then .error (unexpected s)
      else if (s.takeWhile Char.isDigit).head? = some '0' ∧
          1 < (s.takeWhile Char.isDigit).length then .error .malformed
      else readBehind negative (absorb 0 (s.takeWhile Char.isDigit)) (s.dropWhile Char.isDigit) := by
  unfold readUnsigned
  dsimp only
  split
  · rfl
  · split
    · rfl
    · generalize s.dropWhile Char.isDigit = rest
      split
      · rw [readBehind]
        split
        · rfl
        · rfl
      · next hpoint =>
          rw [readBehind.eq_2 _ _ _ hpoint, readEnd]
          rcases readExponent rest with problem | ⟨exponent, rest⟩
          · rfl
          · -- Without a point the digits are a whole number, unless an exponent follows.
            cases exponent with
            | some e => rfl
            | none =>
                show (if _ then _ else _) = wholeNumber _ _ _ >>= _
                rw [wholeNumber]
                split
                · rfl
                · rfl

theorem readEnd_local (number : Option Int → Except Problem Number) (s rest : List Char)
    (n : Number) (h : readEnd number s = .ok (n, rest)) :
    ∃ p, s = p ++ rest ∧ ∀ t, EndsNumber t → readEnd number (p ++ t) = .ok (n, t) := by
  rcases (bind_ok_iff _ _ _).mp h with ⟨⟨exponent, rest'⟩, hexponent, hnumber⟩
  rcases (bind_ok_iff _ _ _).mp hnumber with ⟨n', hn, hlast⟩
  rcases Prod.mk.inj (Except.ok.inj hlast) with ⟨rfl, rfl⟩
  rcases readExponent_local s rest' exponent hexponent with ⟨p, hp, hlocal⟩
  exact ⟨p, hp, fun t ht => (bind_ok_iff _ _ _).mpr
    ⟨(exponent, t), hlocal t ht, (bind_ok_iff _ _ _).mpr ⟨n', hn, rfl⟩⟩⟩

/-- A part of a text and what may follow a number stop what the text stops. -/
theorem stops_of_part {p : Char → Bool} {part rest t : List Char} (hs : Stops p (part ++ rest))
    (ht : Stops p t) : Stops p (part ++ t) := by
  cases part with
  | nil => exact ht
  | cons c part => exact stops_cons p c _ (hs c rfl)

theorem readBehind_local (negative : Bool) (kept : Nat × List Char) (s rest : List Char)
    (n : Number) (h : readBehind negative kept s = .ok (n, rest)) :
    ∃ p, s = p ++ rest ∧ ∀ t, EndsNumber t → readBehind negative kept (p ++ t) = .ok (n, t) := by
  by_cases hpoint : ∃ tail, s = '.' :: tail
  · rcases hpoint with ⟨tail, rfl⟩
    rw [readBehind] at h
    split at h
    · exact absurd h (by simp)
    · next hpart =>
        rcases readEnd_local _ _ rest n h with ⟨p, hp, hlocal⟩
        refine ⟨'.' :: (tail.takeWhile Char.isDigit ++ p), ?_, fun t ht => ?_⟩
        · rw [List.cons_append, List.append_assoc, ← hp, List.takeWhile_append_dropWhile]
        · -- The digits end where they did, at the exponent or at what follows.
          have hstops : Stops Char.isDigit (p ++ t) :=
            stops_of_part (hp ▸ stops_dropWhile Char.isDigit tail) ht.stops_isDigit
          have hdigits : ∀ c ∈ tail.takeWhile Char.isDigit, c.isDigit = true :=
            fun c hc => List.mem_takeWhile_imp hc
          rw [List.cons_append, List.append_assoc, readBehind,
            takeWhile_append_stops _ _ _ hdigits hstops, dropWhile_append_stops _ _ _ hdigits hstops,
            if_neg hpart, hlocal t ht]
  · have hother (t : List Char) (ht : Stops (· == '.') t) : ∀ tail, t = '.' :: tail → False := by
      rintro tail rfl
      exact absurd (ht '.' rfl) (by simp)
    have hs : Stops (· == '.') s := by
      rcases s with _ | ⟨c, s⟩
      · exact stops_nil _
      · refine stops_cons _ c s (beq_false_of_ne ?_)
        rintro rfl
        exact hpoint ⟨s, rfl⟩
    rw [readBehind.eq_2 _ _ _ (hother s hs)] at h
    rcases readEnd_local _ s rest n h with ⟨p, rfl, hlocal⟩
    refine ⟨p, rfl, fun t ht => ?_⟩
    rw [readBehind.eq_2 _ _ _ (hother _ (stops_of_part hs ht.stops_point)), hlocal t ht]

theorem readUnsigned_local (negative : Bool) (s rest : List Char) (n : Number)
    (h : readUnsigned negative s = .ok (n, rest)) :
    ∃ p, s = p ++ rest ∧ (∃ c p', p = c :: p' ∧ c.isDigit = true) ∧
      ∀ t, EndsNumber t → readUnsigned negative (p ++ t) = .ok (n, t) := by
  rw [readUnsigned_eq] at h
  split at h
  · exact absurd h (by simp)
  · next hsome =>
      split at h
      · exact absurd h (by simp)
      · next hzero =>
          rcases readBehind_local negative _ _ rest n h with ⟨p, hp, hlocal⟩
          have hdigits : ∀ c ∈ s.takeWhile Char.isDigit, c.isDigit = true :=
            fun c hc => List.mem_takeWhile_imp hc
          refine ⟨s.takeWhile Char.isDigit ++ p, ?_, ?_, fun t ht => ?_⟩
          · rw [List.append_assoc, ← hp, List.takeWhile_append_dropWhile]
          · rcases hshape : s.takeWhile Char.isDigit with _ | ⟨c, more⟩
            · exact absurd (by rw [hshape]; rfl) hsome
            · exact ⟨c, more ++ p, rfl, hdigits c (hshape ▸ List.mem_cons_self)⟩
          · -- The digits end where they did, so the same checks are made.
            have hstops : Stops Char.isDigit (p ++ t) :=
              stops_of_part (hp ▸ stops_dropWhile Char.isDigit s) ht.stops_isDigit
            rw [List.append_assoc, readUnsigned_eq, takeWhile_append_stops _ _ _ hdigits hstops,
              dropWhile_append_stops _ _ _ hdigits hstops, if_neg hsome, if_neg hzero, hlocal t ht]

/-- A number is read from its own text. -/
theorem readNumber_local (s rest : List Char) (n : Number) (h : readNumber s = .ok (n, rest)) :
    ∃ c p, s = c :: p ++ rest ∧ (c = '-' ∨ c.isDigit = true) ∧
      ∀ t, EndsNumber t → readNumber (c :: p ++ t) = .ok (n, t) := by
  unfold readNumber at h
  split at h
  · next s =>
      rcases readUnsigned_local true s rest n h with ⟨p, rfl, -, hlocal⟩
      exact ⟨'-', p, rfl, Or.inl rfl, hlocal⟩
  · rcases readUnsigned_local false s rest n h with ⟨-, rfl, ⟨c, p, rfl, hc⟩, hlocal⟩
    refine ⟨c, p, rfl, Or.inr hc, fun t ht => ?_⟩
    rw [List.cons_append, readNumber.eq_2]
    · exact hlocal t ht
    · intro s hs
      rw [(List.cons.inj hs).1] at hc
      exact absurd hc (by decide)

end Json

end CiteRender
