import CiteRender.Proofs.Json.Numbers
import CiteRender.Proofs.Json.Texts

/-!
# Reading Values from Their Own Text

A value is read from a part of the text behind blanks, and from that part alone:
in front of anything that does not go on with a number the same value is read
again. So a text with a value in it can be cut behind the value or go on there.

`IsReadAs` says this of a part and a value, and it obeys the rules of a grammar:
an array is read from brackets around what is read as its items, and so on. The
readers call each other with fuel, and the rules say that twice the length of the
part is enough of it, however long the text is. That what a reader has taken is
such a part is one induction on the fuel it had.

## Main definitions

* `IsReadAs`, `AreItems`, `AreMembers`: Texts that are read as values, as the
  items of an array and as the members of an object.
* `IsBracketed`: An array or an object has its brackets around it.

## Theorems

* `isReadAs_array`, `isReadAs_object` and so on: The rules.
* `readers_read`: What the readers take is read as what they give.
* `read_eq_ok`, `read_append`: Reading whole texts.
-/

namespace CiteRender

namespace Json

/-- Only blanks that may stand between tokens. -/
def AllGaps (g : List Char) : Prop :=
  ∀ c ∈ g, isGap c = true

theorem exists_gaps (s : List Char) : ∃ g, AllGaps g ∧ s = g ++ skipGap s :=
  ⟨s.takeWhile isGap, fun _ hc => List.mem_takeWhile_imp hc, List.takeWhile_append_dropWhile.symm⟩

theorem skipGap_append (g s : List Char) (hg : AllGaps g) : skipGap (g ++ s) = skipGap s := by
  rw [skipGap, List.dropWhile_append_of_pos hg, skipGap]

theorem skipGap_cons (c : Char) (s : List Char) (hc : isGap c = false) :
    skipGap (c :: s) = c :: s :=
  dropWhile_of_stops isGap (c :: s) (stops_cons isGap c s hc)

/-- Blanks in front of a value are passed over. -/
theorem readValue_gaps (fuel depth : Nat) (g s : List Char) (hg : AllGaps g) :
    readValue fuel depth (g ++ s) = readValue fuel depth s := by
  cases fuel with
  | zero => rw [readValue, readValue]
  | succ fuel =>
      unfold readValue
      rw [skipGap_append g s hg]

/-- A mark that is neither a blank nor a part of a number, behind blanks. -/
theorem endsNumber_gaps (g t : List Char) (c : Char) (hg : AllGaps g)
    (hc : EndsNumber [c]) : EndsNumber (g ++ c :: t) := by
  refine stops_append _ g _ (fun d hd => ?_) fun _ => stops_cons _ c t (hc c rfl)
  have hgap := hg d (List.mem_of_head? hd)
  simp only [isGap, Bool.or_eq_true, beq_iff_eq] at hgap
  rcases hgap with ((rfl | rfl) | rfl) | rfl <;> rfl

/-- A text that is read as a value, in front of anything that does not go on with a
    number, and with as much fuel as it calls for. -/
def IsReadAs (depth : Nat) (p : List Char) (v : Value) : Prop :=
  ∀ fuel t, 2 * p.length ≤ fuel → EndsNumber t → readValue fuel depth (p ++ t) = .ok (v, t)

/-- A text that is read as the items of an array in front of its closing bracket. -/
def AreItems (depth : Nat) (q : List Char) (items : List Value) : Prop :=
  ∀ fuel t, 2 * (q.length + 1) ≤ fuel → readItems fuel depth (q ++ ']' :: t) = .ok (items, t)

/-- A text that is read as the members of an object in front of its closing brace. -/
def AreMembers (depth : Nat) (q : List Char) (members : List (String × Value)) : Prop :=
  ∀ fuel t, 2 * (q.length + 1) ≤ fuel →
    readMembers fuel depth (q ++ '\x7d' :: t) = .ok (members, t)

/-- What is read as a value is so behind blanks. -/
theorem IsReadAs.gaps {depth : Nat} {p : List Char} {v : Value} (h : IsReadAs depth p v)
    (g : List Char) (hg : AllGaps g) : IsReadAs depth (g ++ p) v := by
  intro fuel t hfuel ht
  rw [List.append_assoc, readValue_gaps fuel depth g _ hg]
  refine h fuel t ?_ ht
  rw [List.length_append] at hfuel
  omega

/-- A text that begins with its own mark needs some fuel. -/
theorem isReadAs_cons (depth : Nat) (c : Char) (p : List Char) (v : Value)
    (h : ∀ fuel t, 2 * p.length < fuel → EndsNumber t →
      readValue (fuel + 1) depth (c :: (p ++ t)) = .ok (v, t)) : IsReadAs depth (c :: p) v := by
  intro fuel t hfuel ht
  rw [List.length_cons] at hfuel
  obtain ⟨fuel, rfl⟩ := Nat.exists_eq_add_one.mpr (show 0 < fuel by omega)
  exact h fuel t (by omega) ht

theorem isReadAs_null (depth : Nat) : IsReadAs depth "null".toList .null :=
  isReadAs_cons depth 'n' "ull".toList _ fun fuel t _ _ => by
    show (readWord "ull".toList ("ull".toList ++ t)).map _ = _
    rw [readWord_append]
    rfl

theorem isReadAs_true (depth : Nat) : IsReadAs depth "true".toList (.bool true) :=
  isReadAs_cons depth 't' "rue".toList _ fun fuel t _ _ => by
    show (readWord "rue".toList ("rue".toList ++ t)).map _ = _
    rw [readWord_append]
    rfl

theorem isReadAs_false (depth : Nat) : IsReadAs depth "false".toList (.bool false) :=
  isReadAs_cons depth 'f' "alse".toList _ fun fuel t _ _ => by
    show (readWord "alse".toList ("alse".toList ++ t)).map _ = _
    rw [readWord_append]
    rfl

theorem isReadAs_text (depth : Nat) (p : List Char) (text : String)
    (h : ∀ t, readText (p ++ t) = .ok (text, t)) : IsReadAs depth ('"' :: p) (.text text) :=
  isReadAs_cons depth '"' p _ fun fuel t _ _ => by
    show (readText (p ++ t)).map _ = _
    rw [h t]
    rfl

theorem isReadAs_number (depth : Nat) (c : Char) (p : List Char) (n : Number)
    (hc : c = '-' ∨ c.isDigit = true)
    (h : ∀ t, EndsNumber t → readNumber (c :: p ++ t) = .ok (n, t)) :
    IsReadAs depth (c :: p) (.number n) :=
  isReadAs_cons depth c p _ fun fuel t _ ht => by
    have hfirst (d : Char) (hd : d ≠ '-' ∧ d.isDigit = false) : c ≠ d := by
      rintro rfl
      rcases hc with rfl | hc
      · exact hd.1 rfl
      · exact absurd hc (by simp [hd.2])
    have hgap : isGap c = false := by
      simp [isGap, hfirst ' ' (by decide), hfirst '\t' (by decide), hfirst '\n' (by decide),
        hfirst '\r' (by decide)]
    have hn := h t ht
    rw [List.cons_append] at hn
    unfold readValue
    rw [skipGap_cons c _ hgap]
    -- The mark begins no value of another kind.
    split
    · next heq => exact absurd heq (by simp)
    · next heq => exact absurd (List.cons.inj heq).1 (hfirst _ (by decide))
    · next heq => exact absurd (List.cons.inj heq).1 (hfirst _ (by decide))
    · next heq => exact absurd (List.cons.inj heq).1 (hfirst _ (by decide))
    · next heq => exact absurd (List.cons.inj heq).1 (hfirst _ (by decide))
    · next heq => exact absurd (List.cons.inj heq).1 (hfirst _ (by decide))
    · next heq => exact absurd (List.cons.inj heq).1 (hfirst _ (by decide))
    · next heq =>
        rcases List.cons.inj heq with ⟨rfl, rfl⟩
        rw [if_pos hc, hn]
        rfl

theorem isReadAs_emptyArray (depth : Nat) (hdepth : depth ≠ 0) (g : List Char) (hg : AllGaps g) :
    IsReadAs depth ('[' :: (g ++ [']'])) (.array []) :=
  isReadAs_cons depth '[' _ _ fun fuel t _ _ => by
    refine (if_neg hdepth).trans ?_
    rw [List.append_assoc, skipGap_append g _ hg]
    rfl

theorem isReadAs_array (depth : Nat) (hdepth : depth ≠ 0) (g : List Char) (hg : AllGaps g)
    (c : Char) (q : List Char) (hgap : isGap c = false) (hc : c ≠ ']') (items : List Value)
    (h : AreItems (depth - 1) (c :: q) items) :
    IsReadAs depth ('[' :: (g ++ c :: q ++ [']'])) (.array items) :=
  isReadAs_cons depth '[' _ _ fun fuel t hfuel _ => by
    have hskip : skipGap (g ++ c :: q ++ [']'] ++ t) = c :: (q ++ ']' :: t) := by
      rw [List.append_assoc, List.append_assoc, skipGap_append g _ hg]
      exact skipGap_cons c _ hgap
    have hitems : readItems fuel (depth - 1) (c :: (q ++ ']' :: t)) = .ok (items, t) :=
      h fuel t (by simp only [List.length_append, List.length_cons, List.length_nil] at hfuel ⊢; omega)
    refine (if_neg hdepth).trans ?_
    rw [hskip]
    -- What follows is an item, not the bracket and not the end of the text.
    split
    · next heq => exact absurd (List.cons.inj heq).1 hc
    · next heq => exact absurd heq (by simp)
    · rw [hitems]
      rfl

theorem isReadAs_emptyObject (depth : Nat) (hdepth : depth ≠ 0) (g : List Char)
    (hg : AllGaps g) : IsReadAs depth ('\x7b' :: (g ++ ['\x7d'])) (.object []) :=
  isReadAs_cons depth '\x7b' _ _ fun fuel t _ _ => by
    refine (if_neg hdepth).trans ?_
    rw [List.append_assoc, skipGap_append g _ hg]
    rfl

theorem isReadAs_object (depth : Nat) (hdepth : depth ≠ 0) (g : List Char) (hg : AllGaps g)
    (q : List Char) (members : List (String × Value))
    (h : AreMembers (depth - 1) ('"' :: q) members) :
    IsReadAs depth ('\x7b' :: (g ++ '"' :: q ++ ['\x7d'])) (.ofMembers members) :=
  isReadAs_cons depth '\x7b' _ _ fun fuel t hfuel _ => by
    have hskip : skipGap (g ++ '"' :: q ++ ['\x7d'] ++ t) = '"' :: (q ++ '\x7d' :: t) := by
      rw [List.append_assoc, List.append_assoc, skipGap_append g _ hg]
      rfl
    have hmembers : readMembers fuel (depth - 1) ('"' :: (q ++ '\x7d' :: t)) = .ok (members, t) :=
      h fuel t (by simp only [List.length_append, List.length_cons, List.length_nil] at hfuel ⊢; omega)
    refine (if_neg hdepth).trans ?_
    rw [hskip]
    show (readMembers fuel (depth - 1) ('"' :: (q ++ '\x7d' :: t))).map _ = _
    rw [hmembers]
    rfl

theorem endsNumber_bracket : EndsNumber [']'] := stops_cons _ ']' [] rfl
theorem endsNumber_brace : EndsNumber ['\x7d'] := stops_cons _ '\x7d' [] rfl
theorem endsNumber_comma : EndsNumber [','] := stops_cons _ ',' [] rfl

theorem areItems_last (depth : Nat) (p g : List Char) (v : Value) (h : IsReadAs depth p v)
    (hg : AllGaps g) : AreItems depth (p ++ g) [v] := by
  intro fuel t hfuel
  rw [List.length_append] at hfuel
  obtain ⟨fuel, rfl⟩ := Nat.exists_eq_add_one.mpr (show 0 < fuel by omega)
  rw [List.append_assoc, readItems,
    h fuel _ (by omega) (endsNumber_gaps g t ']' hg endsNumber_bracket)]
  dsimp only
  rw [skipGap_append g _ hg]
  rfl

theorem startOfNext_append (close c : Char) (g s : List Char) (hg : AllGaps g)
    (hgap : isGap c = false) (hc : c ≠ close) :
    startOfNext close (g ++ c :: s) = .ok (c :: s) := by
  rw [startOfNext, skipGap_append g _ hg, skipGap_cons c s hgap]
  exact if_neg hc

theorem areItems_more (depth : Nat) (p g g' : List Char) (v : Value) (h : IsReadAs depth p v)
    (hg : AllGaps g) (hg' : AllGaps g') (c : Char) (q : List Char) (hgap : isGap c = false)
    (hc : c ≠ ']') (items : List Value) (hitems : AreItems depth (c :: q) items) :
    AreItems depth (p ++ (g ++ ',' :: (g' ++ c :: q))) (v :: items) := by
  intro fuel t hfuel
  simp only [List.length_append, List.length_cons] at hfuel
  -- The item and the rest are read with one less, and both are shorter than the whole.
  obtain ⟨fuel, rfl⟩ := Nat.exists_eq_add_one.mpr (show 0 < fuel by omega)
  have htail : p ++ (g ++ ',' :: (g' ++ c :: q)) ++ ']' :: t =
      p ++ (g ++ ',' :: (g' ++ c :: (q ++ ']' :: t))) := by
    simp only [List.append_assoc, List.cons_append]
  have hrest : readItems fuel depth (c :: (q ++ ']' :: t)) = .ok (items, t) :=
    hitems fuel t (by simp only [List.length_cons]; omega)
  rw [htail, readItems, h fuel _ (by omega) (endsNumber_gaps g _ ',' hg endsNumber_comma)]
  dsimp only
  rw [skipGap_append g _ hg, skipGap_cons ',' _ rfl]
  split
  · next heq => exact absurd (List.cons.inj heq).1 (by decide)
  · next heq =>
      rw [← (List.cons.inj heq).2, startOfNext_append ']' c g' _ hg' hgap hc]
      dsimp only
      rw [hrest]
      rfl
  · next hcomma => exact absurd rfl (hcomma _)

/-- A text that is read as a name with its colon, after the opening quote. -/
def IsName (p : List Char) (name : String) : Prop :=
  ∃ q g, p = q ++ (g ++ [':']) ∧ AllGaps g ∧ ∀ t, readText (q ++ t) = .ok (name, t)

theorem readMembers_name (fuel depth : Nat) (p s : List Char) (name : String)
    (h : IsName p name) :
    readMembers (fuel + 1) depth ('"' :: (p ++ s)) =
      match readValue fuel depth s with
      | .error problem => .error problem
      | .ok (value, rest) =>
        match skipGap rest with
        | '\x7d' :: rest => .ok ([(name, value)], rest)
        | ',' :: rest =>
          match startOfNext '\x7d' rest with
          | .error problem => .error problem
          | .ok rest => (readMembers fuel depth rest).map fun r => ((name, value) :: r.1, r.2)
        | rest => .error (unexpected rest) := by
  rcases h with ⟨q, g, rfl, hg, htext⟩
  have hcolon : readColon (g ++ ':' :: s) = .ok s := by
    rw [readColon, skipGap_append g _ hg]
    rfl
  have htail : q ++ (g ++ [':']) ++ s = q ++ (g ++ ':' :: s) := by
    simp only [List.append_assoc, List.cons_append, List.nil_append]
  rw [htail, readMembers, htext]
  dsimp only
  exact hcolon ▸ rfl

theorem areMembers_last (depth : Nat) (name : String) (n p g : List Char) (v : Value)
    (hn : IsName n name) (h : IsReadAs depth p v) (hg : AllGaps g) :
    AreMembers depth ('"' :: (n ++ (p ++ g))) [(name, v)] := by
  intro fuel t hfuel
  simp only [List.length_cons, List.length_append] at hfuel
  obtain ⟨fuel, rfl⟩ := Nat.exists_eq_add_one.mpr (show 0 < fuel by omega)
  have htail : '"' :: (n ++ (p ++ g)) ++ '\x7d' :: t = '"' :: (n ++ (p ++ (g ++ '\x7d' :: t))) := by
    simp only [List.append_assoc, List.cons_append]
  rw [htail, readMembers_name fuel depth n _ name hn,
    h fuel _ (by omega) (endsNumber_gaps g t _ hg endsNumber_brace)]
  dsimp only
  rw [skipGap_append g _ hg]
  rfl

theorem areMembers_more (depth : Nat) (name : String) (n p g g' : List Char) (v : Value)
    (hn : IsName n name) (h : IsReadAs depth p v) (hg : AllGaps g) (hg' : AllGaps g')
    (q : List Char) (members : List (String × Value))
    (hmembers : AreMembers depth ('"' :: q) members) :
    AreMembers depth ('"' :: (n ++ (p ++ (g ++ ',' :: (g' ++ '"' :: q))))) ((name, v) :: members) := by
  intro fuel t hfuel
  simp only [List.length_cons, List.length_append] at hfuel
  obtain ⟨fuel, rfl⟩ := Nat.exists_eq_add_one.mpr (show 0 < fuel by omega)
  have htail : '"' :: (n ++ (p ++ (g ++ ',' :: (g' ++ '"' :: q)))) ++ '\x7d' :: t =
      '"' :: (n ++ (p ++ (g ++ ',' :: (g' ++ '"' :: (q ++ '\x7d' :: t))))) := by
    simp only [List.append_assoc, List.cons_append]
  have hrest : readMembers fuel depth ('"' :: (q ++ '\x7d' :: t)) = .ok (members, t) :=
    hmembers fuel t (by simp only [List.length_cons]; omega)
  rw [htail, readMembers_name fuel depth n _ name hn,
    h fuel _ (by omega) (endsNumber_gaps g _ ',' hg endsNumber_comma)]
  dsimp only
  rw [skipGap_append g _ hg, skipGap_cons ',' _ rfl]
  split
  · next heq => exact absurd (List.cons.inj heq).1 (by decide)
  · next heq =>
      rw [← (List.cons.inj heq).2, startOfNext_append '\x7d' '"' g' _ hg' rfl (by decide)]
      dsimp only
      rw [hrest]
      rfl
  · next hcomma => exact absurd rfl (hcomma _)

theorem map_eq_ok {α β : Type} (f : α → β) (result : Except Problem α) (b : β)
    (h : result.map f = .ok b) : ∃ a, result = .ok a ∧ f a = b := by
  cases result with
  | error problem => exact absurd h (by simp [Except.map])
  | ok a => exact ⟨a, rfl, Except.ok.inj h⟩

theorem startOfNext_eq_ok (close : Char) (s rest : List Char) (h : startOfNext close s = .ok rest) :
    ∃ g c q, AllGaps g ∧ s = g ++ c :: q ∧ rest = c :: q ∧ isGap c = false ∧ c ≠ close := by
  rcases exists_gaps s with ⟨g, hg, hs⟩
  have hstops : Stops isGap (skipGap s) := stops_dropWhile isGap s
  rw [startOfNext] at h
  rcases hskip : skipGap s with _ | ⟨c, q⟩
  · rw [hskip] at h
    exact absurd h (by simp)
  · rw [hskip] at h hs hstops
    dsimp only at h
    split at h
    · exact absurd h (by simp)
    · next hc => exact ⟨g, c, q, hg, hs, (Except.ok.inj h).symm, hstops c rfl, hc⟩

theorem readColon_eq_ok (s rest : List Char) (h : readColon s = .ok rest) :
    ∃ g, AllGaps g ∧ s = g ++ ':' :: rest := by
  rcases exists_gaps s with ⟨g, hg, hs⟩
  rw [readColon] at h
  split at h
  · next rest' hskip =>
      rw [hskip, Except.ok.inj h] at hs
      exact ⟨g, hg, hs⟩
  · exact absurd h (by simp)

/-- An array or an object has its brackets around it. -/
def IsBracketed (p : List Char) : Value → Prop
  | .array _ => ∃ q, p = '[' :: (q ++ [']'])
  | .object _ => ∃ q, p = '\x7b' :: (q ++ ['\x7d'])
  | _ => True

/-- What the reader of values passes over, blanks and then a text of its own. -/
def ValueReads (fuel : Nat) : Prop :=
  ∀ depth s rest v, readValue fuel depth s = .ok (v, rest) →
    ∃ g p, AllGaps g ∧ s = g ++ (p ++ rest) ∧ IsReadAs depth p v ∧ IsBracketed p v

def ItemsRead (fuel : Nat) : Prop :=
  ∀ depth s rest items, readItems fuel depth s = .ok (items, rest) →
    ∃ q, s = q ++ ']' :: rest ∧ AreItems depth q items

def MembersRead (fuel : Nat) : Prop :=
  ∀ depth s rest members, readMembers fuel depth s = .ok (members, rest) →
    ∃ q, s = '"' :: (q ++ '\x7d' :: rest) ∧ AreMembers depth ('"' :: q) members

/-- An item is read, and then the closing bracket or a comma with the other items. -/
theorem readItems_eq_ok (fuel depth : Nat) (s rest : List Char) (items : List Value)
    (h : readItems (fuel + 1) depth s = .ok (items, rest)) :
    ∃ v s', readValue fuel depth s = .ok (v, s') ∧
      ((skipGap s' = ']' :: rest ∧ items = [v]) ∨
        ∃ s₁ s₂ more, skipGap s' = ',' :: s₁ ∧ startOfNext ']' s₁ = .ok s₂ ∧
          readItems fuel depth s₂ = .ok (more, rest) ∧ items = v :: more) := by
  rw [readItems] at h
  split at h
  · exact absurd h (by simp)
  · next v s' hread =>
      refine ⟨v, s', hread, ?_⟩
      split at h
      · next hskip =>
          rcases Prod.mk.inj (Except.ok.inj h) with ⟨rfl, rfl⟩
          exact .inl ⟨hskip, rfl⟩
      · next s₁ hskip =>
          split at h
          · exact absurd h (by simp)
          · next s₂ hstart =>
              rcases (map_fst_eq_ok_iff (List.cons v) _ _ _).mp h with ⟨more, hmore, rfl⟩
              exact .inr ⟨s₁, s₂, more, hskip, hstart, hmore, rfl⟩
      · exact absurd h (by simp)

/-- A name with its colon and a value are read, and then the closing brace or a comma
    with the other members. -/
theorem readMembers_eq_ok (fuel depth : Nat) (s rest : List Char) (members : List (String × Value))
    (h : readMembers (fuel + 1) depth s = .ok (members, rest)) :
    ∃ s₁ name s₂ s₃ v s₄, s = '"' :: s₁ ∧ readText s₁ = .ok (name, s₂) ∧ readColon s₂ = .ok s₃ ∧
      readValue fuel depth s₃ = .ok (v, s₄) ∧
      ((skipGap s₄ = '\x7d' :: rest ∧ members = [(name, v)]) ∨
        ∃ s₅ s₆ more, skipGap s₄ = ',' :: s₅ ∧ startOfNext '\x7d' s₅ = .ok s₆ ∧
          readMembers fuel depth s₆ = .ok (more, rest) ∧ members = (name, v) :: more) := by
  unfold readMembers at h
  split at h
  · next s₁ =>
      split at h
      · exact absurd h (by simp)
      · next name s₂ htext =>
          split at h
          · exact absurd h (by simp)
          · next s₃ hcolon =>
              split at h
              · exact absurd h (by simp)
              · next v s₄ hread =>
                  refine ⟨s₁, name, s₂, s₃, v, s₄, rfl, htext, hcolon, hread, ?_⟩
                  -- The braces are closed behind the value, or a comma comes and another name.
                  split at h
                  · next hskip =>
                      rcases Prod.mk.inj (Except.ok.inj h) with ⟨rfl, rfl⟩
                      exact .inl ⟨hskip, rfl⟩
                  · next s₅ hskip =>
                      split at h
                      · exact absurd h (by simp)
                      · next s₆ hstart =>
                          rcases (map_fst_eq_ok_iff (List.cons (name, v)) _ _ _).mp h with
                            ⟨more, hmore, rfl⟩
                          exact .inr ⟨s₅, s₆, more, hskip, hstart, hmore, rfl⟩
                  · exact absurd h (by simp)
  · exact absurd h (by simp)

/-- An opening bracket is followed by the closing one, or by the items up to it. -/
theorem readValue_array_eq_ok (fuel depth : Nat) (s inside rest : List Char) (v : Value)
    (hskip : skipGap s = '[' :: inside) (h : readValue (fuel + 1) depth s = .ok (v, rest)) :
    depth ≠ 0 ∧ ((skipGap inside = ']' :: rest ∧ v = .array []) ∨
      ∃ items, (∀ tail, skipGap inside ≠ ']' :: tail) ∧
        readItems fuel (depth - 1) (skipGap inside) = .ok (items, rest) ∧ v = .array items) := by
  unfold readValue at h
  simp only [hskip] at h
  split at h
  · exact absurd h (by simp)
  · next hdepth =>
      refine ⟨hdepth, ?_⟩
      split at h
      · next hempty =>
          rcases Prod.mk.inj (Except.ok.inj h) with ⟨rfl, rfl⟩
          exact .inl ⟨hempty, rfl⟩
      · exact absurd h (by simp)
      · next hbracket _ =>
          rcases (map_fst_eq_ok_iff Value.array _ _ _).mp h with ⟨items, hread, rfl⟩
          exact .inr ⟨items, fun tail heq => hbracket tail heq, hread, rfl⟩

/-- An opening brace is followed by the closing one, or by the members up to it. -/
theorem readValue_object_eq_ok (fuel depth : Nat) (s inside rest : List Char) (v : Value)
    (hskip : skipGap s = '\x7b' :: inside) (h : readValue (fuel + 1) depth s = .ok (v, rest)) :
    depth ≠ 0 ∧ ((skipGap inside = '\x7d' :: rest ∧ v = .object []) ∨
      ∃ members, readMembers fuel (depth - 1) (skipGap inside) = .ok (members, rest) ∧
        v = Value.ofMembers members) := by
  unfold readValue at h
  simp only [hskip] at h
  split at h
  · exact absurd h (by simp)
  · next hdepth =>
      refine ⟨hdepth, ?_⟩
      split at h
      · next hempty =>
          rcases Prod.mk.inj (Except.ok.inj h) with ⟨rfl, rfl⟩
          exact .inl ⟨hempty, rfl⟩
      · rcases (map_fst_eq_ok_iff Value.ofMembers _ _ _).mp h with ⟨members, hread, rfl⟩
        exact .inr ⟨members, hread, rfl⟩

theorem itemsRead_succ (fuel : Nat) (hvalue : ValueReads fuel) (hitems : ItemsRead fuel) :
    ItemsRead (fuel + 1) := by
  intro depth s rest items h
  rcases readItems_eq_ok fuel depth s rest items h with ⟨v, s', hread, hends⟩
  rcases hvalue depth s s' v hread with ⟨g, p, hg, rfl, hv, -⟩
  rcases exists_gaps s' with ⟨g', hg', hs'⟩
  rcases hends with ⟨hskip, rfl⟩ | ⟨s₁, s₂, more, hskip, hstart, hmore, rfl⟩
  · refine ⟨(g ++ p) ++ g', ?_, areItems_last depth _ g' v (hv.gaps g hg) hg'⟩
    rw [hs', hskip]
    simp only [List.append_assoc]
  · rcases startOfNext_eq_ok ']' s₁ s₂ hstart with ⟨g'', c, q, hg'', rfl, rfl, hgap, hc⟩
    rcases hitems depth _ _ _ hmore with ⟨q', hq', hitems'⟩
    -- The other items do not begin with the bracket, so their text is not empty.
    rcases q' with _ | ⟨c', q'⟩
    · exact absurd (List.cons.inj hq').1 hc
    · rw [List.cons_append] at hq'
      rcases List.cons.inj hq' with ⟨rfl, rfl⟩
      refine ⟨_, ?_, areItems_more depth _ g' g'' v (hv.gaps g hg) hg' hg'' c q' hgap hc more
        hitems'⟩
      rw [hs', hskip]
      simp only [List.append_assoc, List.cons_append]

theorem membersRead_succ (fuel : Nat) (hvalue : ValueReads fuel) (hmembers : MembersRead fuel) :
    MembersRead (fuel + 1) := by
  intro depth s rest members h
  rcases readMembers_eq_ok fuel depth s rest members h with
    ⟨s₁, name, s₂, s₃, v, s₄, rfl, htext, hcolon, hread, hends⟩
  rcases readText_local s₁ s₂ name htext with ⟨n, rfl, hname⟩
  rcases readColon_eq_ok s₂ s₃ hcolon with ⟨g₁, hg₁, rfl⟩
  -- The gap before a value is read as part of it.
  rcases hvalue depth s₃ s₄ v hread with ⟨g, p, hg, rfl, hv, -⟩
  rcases exists_gaps s₄ with ⟨g', hg', hs₄⟩
  have hn : IsName (n ++ (g₁ ++ [':'])) name := ⟨n, g₁, rfl, hg₁, hname⟩
  rcases hends with ⟨hskip, rfl⟩ | ⟨s₅, s₆, more, hskip, hstart, hmore, rfl⟩
  · refine ⟨_, ?_, areMembers_last depth name _ _ g' v hn (hv.gaps g hg) hg'⟩
    rw [hs₄, hskip]
    simp only [List.append_assoc, List.cons_append, List.nil_append]
  · rcases startOfNext_eq_ok _ s₅ s₆ hstart with ⟨g'', c, q, hg'', rfl, rfl, -, -⟩
    rcases hmembers depth _ _ _ hmore with ⟨q', hq', hmembers'⟩
    rcases List.cons.inj hq' with ⟨rfl, rfl⟩
    refine ⟨_, ?_, areMembers_more depth name _ _ g' g'' v hn (hv.gaps g hg) hg' hg'' q' more
      hmembers'⟩
    rw [hs₄, hskip]
    simp only [List.append_assoc, List.cons_append, List.nil_append]

/-- A word that is passed over is read as what it stands for. -/
theorem reads_word (depth : Nat) (s s' rest : List Char) (c : Char) (word : List Char) (v w : Value)
    (hskip : skipGap s = c :: s')
    (h : (readWord word s').map (fun rest => (w, rest)) = .ok (v, rest))
    (hword : IsReadAs depth (c :: word) w) (hbracket : IsBracketed (c :: word) w) :
    ∃ g p, AllGaps g ∧ s = g ++ (p ++ rest) ∧ IsReadAs depth p v ∧ IsBracketed p v := by
  rcases exists_gaps s with ⟨g, hg, hs⟩
  rcases map_eq_ok _ _ _ h with ⟨rest', hread, hpair⟩
  rcases Prod.mk.inj hpair with ⟨rfl, rfl⟩
  rw [hskip, readWord_eq_ok _ _ _ hread] at hs
  exact ⟨g, c :: word, hg, hs, hword, hbracket⟩

theorem reads_array (fuel depth : Nat) (hitems : ItemsRead fuel) (s inside rest : List Char)
    (v : Value) (hskip : skipGap s = '[' :: inside)
    (h : readValue (fuel + 1) depth s = .ok (v, rest)) :
    ∃ p, '[' :: inside = p ++ rest ∧ IsReadAs depth p v ∧ IsBracketed p v := by
  rcases exists_gaps inside with ⟨g, hg, hinside⟩
  have hstops : Stops isGap (skipGap inside) := stops_dropWhile isGap inside
  rcases readValue_array_eq_ok fuel depth s inside rest v hskip h with
    ⟨hdepth, ⟨hempty, rfl⟩ | ⟨items, hbracket, hread, rfl⟩⟩
  · rw [hempty] at hinside
    refine ⟨'[' :: (g ++ [']']), ?_, isReadAs_emptyArray depth hdepth g hg, g, rfl⟩
    rw [hinside]
    simp only [List.append_assoc, List.cons_append, List.nil_append]
  · rcases hitems _ _ _ _ hread with ⟨q, hq, hitems'⟩
    rw [hq] at hinside hstops
    -- The bracket does not come first, so there is a first item before it.
    rcases q with _ | ⟨c, q⟩
    · exact absurd hq (hbracket _)
    · have hc : c ≠ ']' := by
        rintro rfl
        exact hbracket _ hq
      refine ⟨_, ?_, isReadAs_array depth hdepth g hg c q (hstops c rfl) hc items hitems', _, rfl⟩
      rw [hinside]
      simp only [List.append_assoc, List.cons_append, List.nil_append]

theorem reads_object (fuel depth : Nat) (hmembers : MembersRead fuel) (s inside rest : List Char)
    (v : Value) (hskip : skipGap s = '\x7b' :: inside)
    (h : readValue (fuel + 1) depth s = .ok (v, rest)) :
    ∃ p, '\x7b' :: inside = p ++ rest ∧ IsReadAs depth p v ∧ IsBracketed p v := by
  rcases exists_gaps inside with ⟨g, hg, hinside⟩
  rcases readValue_object_eq_ok fuel depth s inside rest v hskip h with
    ⟨hdepth, ⟨hempty, rfl⟩ | ⟨members, hread, rfl⟩⟩
  · rw [hempty] at hinside
    refine ⟨'\x7b' :: (g ++ ['\x7d']), ?_, isReadAs_emptyObject depth hdepth g hg, g, rfl⟩
    rw [hinside]
    simp only [List.append_assoc, List.cons_append, List.nil_append]
  · rcases hmembers _ _ _ _ hread with ⟨q, hq, hmembers'⟩
    rw [hq] at hinside
    refine ⟨_, ?_, isReadAs_object depth hdepth g hg q members hmembers', _, rfl⟩
    rw [hinside]
    simp only [List.append_assoc, List.cons_append, List.nil_append]

theorem valueReads_succ (fuel : Nat) (hitems : ItemsRead fuel) (hmembers : MembersRead fuel) :
    ValueReads (fuel + 1) := by
  intro depth s rest v h
  have hvalue := h
  rcases exists_gaps s with ⟨g, hg, hs⟩
  unfold readValue at h
  -- One case for each mark that a value can begin with.
  split at h
  · exact absurd h (by simp)
  · next hskip => exact reads_word depth s _ rest _ _ v _ hskip h (isReadAs_null depth) trivial
  · next hskip => exact reads_word depth s _ rest _ _ v _ hskip h (isReadAs_true depth) trivial
  · next hskip => exact reads_word depth s _ rest _ _ v _ hskip h (isReadAs_false depth) trivial
  · next hskip =>
      rcases (map_fst_eq_ok_iff Value.text _ _ _).mp h with ⟨text, htext, rfl⟩
      rcases readText_local _ _ _ htext with ⟨p, rfl, hlocal⟩
      rw [hskip] at hs
      exact ⟨g, '"' :: p, hg, hs, isReadAs_text depth p text hlocal, trivial⟩
  · next hskip =>
      rcases reads_array fuel depth hitems s _ rest v hskip hvalue with ⟨p, hp, hread, hbracketed⟩
      exact ⟨g, p, hg, by rw [hs, hskip, hp], hread, hbracketed⟩
  · next hskip =>
      rcases reads_object fuel depth hmembers s _ rest v hskip hvalue with
        ⟨p, hp, hread, hbracketed⟩
      exact ⟨g, p, hg, by rw [hs, hskip, hp], hread, hbracketed⟩
  · next hskip =>
      rw [hskip] at hs
      split at h
      · rcases (map_fst_eq_ok_iff Value.number _ _ _).mp h with ⟨n, hread, rfl⟩
        rcases readNumber_local _ _ n hread with ⟨c, p, hp, hc, hlocal⟩
        rw [hp] at hs
        exact ⟨g, c :: p, hg, hs, isReadAs_number depth c p n hc hlocal, trivial⟩
      · exact absurd h (by simp)

/-- The readers pass over texts of their own. -/
theorem readers_read (fuel : Nat) : ValueReads fuel ∧ ItemsRead fuel ∧ MembersRead fuel := by
  induction fuel with
  | zero =>
      refine ⟨fun depth s rest v h => ?_, fun depth s rest v h => ?_, fun depth s rest v h => ?_⟩
      · exact absurd h (by simp [readValue])
      · exact absurd h (by simp [readItems])
      · exact absurd h (by simp [readMembers])
  | succ fuel ih =>
      rcases ih with ⟨hvalue, hitems, hmembers⟩
      exact ⟨valueReads_succ fuel hitems hmembers, itemsRead_succ fuel hvalue hitems,
        membersRead_succ fuel hvalue hmembers⟩

/-- A whole text that is a value has it between blanks. -/
theorem read_eq_ok (s : List Char) (v : Value) (h : read s = .ok v) :
    ∃ g p g', AllGaps g ∧ AllGaps g' ∧ s = g ++ (p ++ g') ∧ IsReadAs maxDepth p v ∧
      IsBracketed p v := by
  rw [read] at h
  split at h
  · exact absurd h (by simp)
  · next v' rest hread =>
      rcases (readers_read _).1 maxDepth s rest v' hread with ⟨g, p, hg, hs, hp, hbracket⟩
      split at h
      · next hempty =>
          obtain rfl := Except.ok.inj h
          rcases exists_gaps rest with ⟨g', hg', hrest⟩
          rw [List.isEmpty_iff.mp hempty, List.append_nil] at hrest
          exact ⟨g, p, rest, hg, hrest ▸ hg', hs, hp, hbracket⟩
      · exact absurd h (by simp)

/-- A text with a value in front of it is that value if there are only blanks
    behind it. -/
theorem read_append (p t : List Char) (v : Value) (h : IsReadAs maxDepth p v)
    (ht : EndsNumber t) :
    read (p ++ t) = if (skipGap t).isEmpty then .ok v else .error .malformed := by
  rw [read, h _ t (by rw [List.length_append]; omega) ht]

end Json

end CiteRender
