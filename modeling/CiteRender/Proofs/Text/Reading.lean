import CiteRender.Text.Blank

/-!
# Reading a Text

What the readers of all formats share. A reader takes a run of characters of a
class as long as it can, so it ends a token only where the text does not go on
with the class. `Stops` says that it does not, and with it a run can be taken
from the front of any longer text.

## Main definitions

* `Stops`: A text does not go on with a class of characters.

## Theorems

* `takeWhile_append_stops`, `dropWhile_append_stops`: Runs end where a class stops.
* `bind_ok_iff`: Computations that give a result, one after the other.
* `map_fst_eq_ok_iff`, `map_fst_eq_some_iff`: Readers that change what another gives.
-/

namespace CiteRender

/-- The text does not go on with a character of a class. -/
def Stops (p : Char → Bool) (s : List Char) : Prop :=
  ∀ c ∈ s.head?, p c = false

theorem stops_nil (p : Char → Bool) : Stops p [] := by
  simp [Stops]

theorem stops_cons (p : Char → Bool) (c : Char) (s : List Char) (hc : p c = false) :
    Stops p (c :: s) := by
  intro d hd
  rw [List.head?_cons, Option.mem_some] at hd
  rw [← hd]
  exact hc

/-- What stops a class stops every smaller one. -/
theorem Stops.mono {p q : Char → Bool} (hpq : ∀ c, p c = true → q c = true) {s : List Char}
    (hs : Stops q s) : Stops p s := by
  intro c hc
  cases hp : p c with
  | false => rfl
  | true =>
      have hq := hpq c hp
      rw [hs c hc] at hq
      exact Bool.noConfusion hq

/-- A text begins as its first part does, or as its second if the first is empty. -/
theorem stops_append (p : Char → Bool) (s t : List Char) (hs : Stops p s)
    (ht : s = [] → Stops p t) : Stops p (s ++ t) := by
  cases s with
  | nil => exact ht rfl
  | cons c s => exact stops_cons p c (s ++ t) (hs c rfl)

theorem stops_dropWhile (p : Char → Bool) (s : List Char) : Stops p (s.dropWhile p) := by
  intro c hc
  have hhead := List.head?_dropWhile_not p s
  rw [Option.mem_def.mp hc] at hhead
  simpa using hhead

theorem dropWhile_of_stops (p : Char → Bool) (s : List Char) (hs : Stops p s) :
    s.dropWhile p = s := by
  cases s with
  | nil => rfl
  | cons c s => rw [List.dropWhile_cons_of_neg (by simp [hs c rfl])]

theorem takeWhile_of_stops (p : Char → Bool) (s : List Char) (hs : Stops p s) :
    s.takeWhile p = [] := by
  cases s with
  | nil => rfl
  | cons c s => rw [List.takeWhile_cons_of_neg (by simp [hs c rfl])]

theorem takeWhile_append_stops (p : Char → Bool) (w s : List Char) (hw : ∀ c ∈ w, p c = true)
    (hs : Stops p s) : (w ++ s).takeWhile p = w := by
  rw [List.takeWhile_append_of_pos hw, takeWhile_of_stops p s hs, List.append_nil]

theorem dropWhile_append_stops (p : Char → Bool) (w s : List Char) (hw : ∀ c ∈ w, p c = true)
    (hs : Stops p s) : (w ++ s).dropWhile p = s := by
  rw [List.dropWhile_append_of_pos hw, dropWhile_of_stops p s hs]

/-- A computation gives a result if its first half does and its second half
    does from there. -/
theorem bind_ok_iff {ε α β : Type} (first : Except ε α) (next : α → Except ε β) (b : β) :
    (first >>= next) = .ok b ↔ ∃ a, first = .ok a ∧ next a = .ok b := by
  cases first with
  | error e => simp [bind, Except.bind]
  | ok a => simp [bind, Except.bind]

/-- A reader that puts something around what another reader gives, and goes on where that
    one stopped. -/
theorem map_fst_eq_ok_iff {ε α β γ : Type} (f : α → β) (result : Except ε (α × γ)) (b : β)
    (rest : γ) :
    (result.map fun r => (f r.1, r.2)) = .ok (b, rest) ↔
      ∃ a, result = .ok (a, rest) ∧ f a = b := by
  constructor
  · intro h
    cases result with
    | error e => exact absurd h (by simp [Except.map])
    | ok r =>
        rcases Prod.mk.inj (Except.ok.inj h) with ⟨hb, rfl⟩
        exact ⟨r.1, rfl, hb⟩
  · rintro ⟨a, rfl, rfl⟩
    rfl

/-- The same of a reader that says no more about failing than that it does. -/
theorem map_fst_eq_some_iff {α β γ : Type} (f : α → β) (result : Option (α × γ)) (b : β)
    (rest : γ) :
    (result.map fun r => (f r.1, r.2)) = some (b, rest) ↔
      ∃ a, result = some (a, rest) ∧ f a = b := by
  constructor
  · intro h
    rcases Option.map_eq_some_iff.mp h with ⟨r, rfl, hpair⟩
    rcases Prod.mk.inj hpair with ⟨hb, rfl⟩
    exact ⟨r.1, rfl, hb⟩
  · rintro ⟨a, rfl, rfl⟩
    rfl

end CiteRender
