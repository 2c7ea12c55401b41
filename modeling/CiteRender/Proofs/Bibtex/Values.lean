import CiteRender.Proofs.Bibtex.Grammar
import CiteRender.Proofs.Text.Reading

/-!
# Reading Values

The readers up to `value` against the grammar, in both directions. A reader is
sound when the text it passes over has the meaning it gives, and complete when
it passes over every such text.

Completeness needs to know what comes next. A grammar says where a token ends;
a reader takes the longest run it can, so it ends there only if the text does
not go on with the same class. `Stops` says that it does not. What makes it
hold throughout is that a token is followed by a blank or a mark, and neither
is a character of a name.

The scanner of brace groups keeps a number of open groups, which the grammar
has none of. `Closing` is what that number means: the text left of the group is
one balanced text for each open group with closing braces between them.

## Main definitions

* `Closing`: The text up to the brace that closes all open groups.

## Theorems

* `skipGap_append`, `exists_gap`: Blanks are passed over.
* `run_append`, `run_sound`: Runs are read up to where they stop.
* `groupTail_eq_some_iff`: The scanner of groups finds balanced texts.
* `quotedTail_eq_some_iff`: The scanner of quotes finds quotable texts.
* `piece_sound`, `piece_complete`: Pieces.
* `value_sound`, `value_complete`: Values.
-/

namespace CiteRender

namespace Bibtex

theorem isNameChar_of_isAlphanum (c : Char) (hc : c.isAlphanum = true) : isNameChar c = true := by
  simp [isNameChar, hc]

theorem isNameChar_of_isDigit (c : Char) (hc : c.isDigit = true) : isNameChar c = true :=
  isNameChar_of_isAlphanum c (by simp [Char.isAlphanum, hc])

/-- No blank is a character of a name. -/
theorem isNameChar_of_isGap (c : Char) (hc : isGap c = true) : isNameChar c = false := by
  simp only [isGap, Bool.or_eq_true, beq_iff_eq] at hc
  rcases hc with ((rfl | rfl) | rfl) | rfl <;> decide

/-- A name does not begin with a blank. -/
theorem IsRun.stops_isGap {w : List Char} (hw : IsRun isNameChar w) (s : List Char) :
    Stops isGap (w ++ s) := by
  rcases w with _ | ⟨c, w⟩
  · exact absurd rfl hw.1
  · refine stops_cons isGap c (w ++ s) ?_
    by_contra hgap
    have hc := hw.2 c List.mem_cons_self
    rw [isNameChar_of_isGap c (by simpa using hgap)] at hc
    exact Bool.noConfusion hc

/-- A text behind blanks stops a class that has no blanks, if it does so
    alone. -/
theorem stops_gap_append (p : Char → Bool) (hp : ∀ c, isGap c = true → p c = false)
    (a s : List Char) (ha : IsGap a) (hs : Stops p s) : Stops p (a ++ s) := by
  cases a with
  | nil => exact hs
  | cons c a => exact stops_cons p c (a ++ s) (hp c (ha c List.mem_cons_self))

theorem skipGap_append (a s : List Char) (ha : IsGap a) : skipGap (a ++ s) = skipGap s := by
  rw [skipGap, List.dropWhile_append_of_pos ha, skipGap]

theorem skipGap_of_stops (s : List Char) (hs : Stops isGap s) : skipGap s = s :=
  dropWhile_of_stops isGap s hs

/-- A text is a run of blanks and what is left behind it. -/
theorem exists_gap (s : List Char) : ∃ a, IsGap a ∧ s = a ++ skipGap s :=
  ⟨s.takeWhile isGap, fun _ hc => List.mem_takeWhile_imp hc, List.takeWhile_append_dropWhile.symm⟩

theorem symbol_cons (c : Char) (s : List Char) : symbol c (c :: s) = .ok ((), s) := by
  rw [symbol, if_pos rfl]

theorem symbol_sound (c : Char) (s rest : List Char) (h : symbol c s = .ok ((), rest)) :
    s = c :: rest := by
  rcases s with _ | ⟨d, s⟩
  · simp [symbol] at h
  · by_cases hd : d = c
    · rw [symbol, if_pos hd] at h
      rw [hd, (Prod.mk.inj (Except.ok.inj h)).2]
    · rw [symbol, if_neg hd] at h
      simp at h

theorem run_append (p : Char → Bool) (w s : List Char) (hw : IsRun p w) (hs : Stops p s) :
    run p (w ++ s) = .ok (w, s) := by
  rw [run, takeWhile_append_stops p w s hw.2 hs, dropWhile_append_stops p w s hw.2 hs,
    if_neg (by simp [hw.1])]

theorem run_sound (p : Char → Bool) (s w rest : List Char) (h : run p s = .ok (w, rest)) :
    s = w ++ rest ∧ IsRun p w := by
  unfold run at h
  split at h
  · simp at h
  · rename_i hne
    rcases Prod.mk.inj (Except.ok.inj h) with ⟨rfl, rfl⟩
    refine ⟨List.takeWhile_append_dropWhile.symm, ?_, fun _ hc => List.mem_takeWhile_imp hc⟩
    simpa using hne

theorem balanced_append (s t : List Char) (hs : Balanced s) (ht : Balanced t) :
    Balanced (s ++ t) := by
  induction hs with
  | nil => exact ht
  | plain c s hc _ ih => exact Balanced.plain c (s ++ t) hc ih
  | hidden c s _ ih => exact Balanced.hidden c (s ++ t) ih
  | group inner s hi _ _ ih =>
      have hgroup := Balanced.group inner (s ++ t) hi ih
      simpa only [List.append_assoc, List.cons_append] using hgroup

/-- The text up to the brace that closes a group with some groups open in it. -/
def Closing : Nat → List Char → Prop
  | 0, s => Balanced s
  | depth + 1, s => ∃ inner rest, s = inner ++ '}' :: rest ∧ Balanced inner ∧ Closing depth rest

/-- A balanced text in front changes nothing about what is open. -/
theorem closing_append (depth : Nat) (s t : List Char) (hs : Balanced s) (ht : Closing depth t) :
    Closing depth (s ++ t) := by
  cases depth with
  | zero => exact balanced_append s t hs ht
  | succ depth =>
      rcases ht with ⟨inner, rest, rfl, hi, hr⟩
      exact ⟨s ++ inner, rest, (List.append_assoc _ _ _).symm, balanced_append s inner hs hi, hr⟩

theorem groupTail_sound (depth : Nat) (s inner rest : List Char)
    (h : groupTail depth s = some (inner, rest)) :
    s = inner ++ '}' :: rest ∧ Closing depth inner := by
  fun_induction groupTail depth s generalizing inner rest with
  | case1 => simp at h
  | case2 =>
      simp only [Option.some.injEq, Prod.mk.injEq] at h
      rcases h with ⟨rfl, rfl⟩
      exact ⟨rfl, Balanced.nil⟩
  | case3 tail depth ih =>
      rcases (map_fst_eq_some_iff (List.cons '}') _ _ _).mp h with ⟨inside, hr, rfl⟩
      rcases ih inside rest hr with ⟨rfl, hclosing⟩
      exact ⟨rfl, [], inside, rfl, Balanced.nil, hclosing⟩
  | case4 depth tail _ ih =>
      rcases (map_fst_eq_some_iff (List.cons '{') _ _ _).mp h with ⟨inside, hr, rfl⟩
      rcases ih inside rest hr with ⟨rfl, group, more, rfl, hgroup, hmore⟩
      -- The brace opens a group that the text behind it closes first.
      have hnested := closing_append depth ('{' :: group ++ ['}']) more
        (Balanced.group group [] hgroup Balanced.nil) hmore
      refine ⟨rfl, ?_⟩
      simpa only [List.append_assoc, List.cons_append, List.nil_append] using hnested
  | case5 => simp at h
  | case6 depth d tail _ _ ih =>
      rcases (map_fst_eq_some_iff (fun x => '\\' :: d :: x) _ _ _).mp h with ⟨inside, hr, rfl⟩
      rcases ih inside rest hr with ⟨rfl, hclosing⟩
      exact ⟨rfl, closing_append depth ['\\', d] inside (Balanced.hidden d [] Balanced.nil) hclosing⟩
  | case7 depth c tail hclose hopen hslash ih =>
      rcases (map_fst_eq_some_iff (List.cons c) _ _ _).mp h with ⟨inside, hr, rfl⟩
      rcases ih inside rest hr with ⟨rfl, hclosing⟩
      have hplain := Balanced.plain c [] ⟨hopen, hclose, hslash⟩ Balanced.nil
      exact ⟨rfl, closing_append depth [c] inside hplain hclosing⟩

theorem groupTail_close_zero (s : List Char) : groupTail 0 ('}' :: s) = some ([], s) := by
  rw [groupTail.eq_def]
  rfl

theorem groupTail_close_succ (depth : Nat) (s : List Char) :
    groupTail (depth + 1) ('}' :: s) = (groupTail depth s).map fun r => ('}' :: r.1, r.2) := by
  rw [groupTail.eq_def]
  rfl

theorem groupTail_open (depth : Nat) (s : List Char) :
    groupTail depth ('{' :: s) = (groupTail (depth + 1) s).map fun r => ('{' :: r.1, r.2) := by
  rw [groupTail.eq_def]
  rfl

theorem groupTail_hidden (depth : Nat) (c : Char) (s : List Char) :
    groupTail depth ('\\' :: c :: s) =
      (groupTail depth s).map fun r => ('\\' :: c :: r.1, r.2) := rfl

theorem groupTail_plain (depth : Nat) (c : Char) (s : List Char)
    (hc : c ≠ '{' ∧ c ≠ '}' ∧ c ≠ '\\') :
    groupTail depth (c :: s) = (groupTail depth s).map fun r => (c :: r.1, r.2) := by
  rw [groupTail.eq_def]
  dsimp only
  rw [if_neg hc.2.1, if_neg hc.1, if_neg hc.2.2]

/-- A balanced text is passed over whatever is open. -/
theorem groupTail_append (s : List Char) (hs : Balanced s) :
    ∀ (depth : Nat) (t : List Char),
      groupTail depth (s ++ t) = (groupTail depth t).map fun r => (s ++ r.1, r.2) := by
  induction hs with
  | nil =>
      intro depth t
      simp
  | plain c s hc _ ih =>
      intro depth t
      rw [List.cons_append, groupTail_plain depth c (s ++ t) hc, ih depth t, Option.map_map]
      rfl
  | hidden c s _ ih =>
      intro depth t
      rw [List.cons_append, List.cons_append, groupTail_hidden, ih depth t, Option.map_map]
      rfl
  | group inner s _ _ ihinner ih =>
      intro depth t
      -- The group is passed with one more brace open, and its end takes that back.
      have hassoc : '{' :: inner ++ '}' :: s ++ t = '{' :: (inner ++ '}' :: (s ++ t)) := by
        simp only [List.append_assoc, List.cons_append]
      rw [hassoc, groupTail_open, ihinner (depth + 1), groupTail_close_succ, ih depth t,
        Option.map_map, Option.map_map, Option.map_map]
      refine congrArg (fun f => (groupTail depth t).map f) ?_
      funext r
      simp only [Function.comp_apply, List.append_assoc, List.cons_append]

/-- The scanner of groups finds exactly the balanced texts. -/
theorem groupTail_eq_some_iff (s inner rest : List Char) :
    groupTail 0 s = some (inner, rest) ↔ s = inner ++ '}' :: rest ∧ Balanced inner := by
  constructor
  · exact groupTail_sound 0 s inner rest
  · rintro ⟨rfl, hi⟩
    rw [groupTail_append inner hi 0, groupTail_close_zero, Option.map_some, List.append_nil]

theorem quotedTail_sound (depth : Nat) (s inner rest : List Char)
    (h : quotedTail depth s = some (inner, rest)) :
    s = inner ++ '"' :: rest ∧ Quotable depth inner := by
  fun_induction quotedTail depth s generalizing inner rest with
  | case1 => simp at h
  | case2 depth c tail hend =>
      rcases hend with ⟨rfl, rfl⟩
      simp only [Option.some.injEq, Prod.mk.injEq] at h
      rcases h with ⟨rfl, rfl⟩
      exact ⟨rfl, Quotable.nil⟩
  | case3 depth c tail hgo after ih =>
      rcases (map_fst_eq_some_iff (List.cons c) _ _ _).mp h with ⟨inside, hr, rfl⟩
      rcases ih inside rest hr with ⟨rfl, hinside⟩
      -- The character decides how many braces are open behind it.
      refine ⟨rfl, ?_⟩
      by_cases hopen : c = '{'
      · subst hopen
        exact Quotable.opening depth inside hinside
      · by_cases hclose : c = '}'
        · subst hclose
          cases depth with
          | zero => exact Quotable.excess inside hinside
          | succ depth => exact Quotable.closing depth inside hinside
        · have hafter : after = depth := by
            simp only [after, if_neg hopen, if_neg hclose]
          rw [hafter] at hinside
          by_cases hquote : c = '"'
          · subst hquote
            -- A quote that did not end the text had an open brace before it.
            cases depth with
            | zero => exact absurd ⟨rfl, rfl⟩ hgo
            | succ depth => exact Quotable.quote depth inside hinside
          · exact Quotable.plain depth c inside ⟨hopen, hclose, hquote⟩ hinside

theorem quotedTail_complete (depth : Nat) (inner rest : List Char) (h : Quotable depth inner) :
    quotedTail depth (inner ++ '"' :: rest) = some (inner, rest) := by
  induction h with
  | nil => rfl
  | plain depth c s hc _ ih => simp [quotedTail, hc.1, hc.2.1, hc.2.2, ih]
  | quote depth s _ ih => simp [quotedTail, ih]
  | opening depth s _ ih => simp [quotedTail, ih]
  | closing depth s _ ih => simp [quotedTail, ih]
  | excess s _ ih => simp [quotedTail, ih]

/-- The scanner of quotes finds exactly the quotable texts. -/
theorem quotedTail_eq_some_iff (depth : Nat) (s inner rest : List Char) :
    quotedTail depth s = some (inner, rest) ↔ s = inner ++ '"' :: rest ∧ Quotable depth inner := by
  constructor
  · exact quotedTail_sound depth s inner rest
  · rintro ⟨rfl, hi⟩
    exact quotedTail_complete depth inner rest hi

/-- What the abbreviations in force stand for. -/
def meanings (abbreviations : Abbreviations) : Meanings :=
  fun word => abbreviations.lookup word

theorem meanings_apply (abbreviations : Abbreviations) (word : List Char) :
    meanings abbreviations word = abbreviations.lookup word := rfl

theorem meanings_cons (word v : List Char) (abbreviations : Abbreviations) :
    meanings ((word, v) :: abbreviations) =
      Function.update (meanings abbreviations) word (some v) := by
  funext other
  rw [meanings_apply, List.lookup_cons]
  by_cases hother : other = word
  · rw [hother, Function.update_self, beq_self_eq_true]
  · rw [Function.update_of_ne hother, beq_false_of_ne hother, meanings_apply]

theorem piece_sound (abbreviations : Abbreviations) (s v rest : List Char)
    (h : piece abbreviations s = .ok (v, rest)) :
    ∃ p, s = p ++ rest ∧ IsPiece (meanings abbreviations) p v := by
  unfold piece at h
  split at h
  · rename_i tail
    split at h
    · rename_i r hr
      rw [Except.ok.inj h] at hr
      rcases (groupTail_eq_some_iff tail v rest).mp hr with ⟨rfl, hv⟩
      exact ⟨'{' :: v ++ ['}'], by simp, IsPiece.group v hv⟩
    · simp at h
  · rename_i tail
    split at h
    · rename_i r hr
      rw [Except.ok.inj h] at hr
      rcases (quotedTail_eq_some_iff 0 tail v rest).mp hr with ⟨rfl, hv⟩
      exact ⟨'"' :: v ++ ['"'], by simp, IsPiece.quoted v hv⟩
    · simp at h
  · split at h
    · rename_i r hr
      rw [Except.ok.inj h] at hr
      rcases run_sound Char.isDigit s v rest hr with ⟨hs, hv⟩
      exact ⟨v, hs, IsPiece.number v hv⟩
    · rename_i fault hdigits
      split at h
      · rename_i word after hname
        rcases Prod.mk.inj (Except.ok.inj h) with ⟨rfl, rfl⟩
        rcases run_sound isNameChar s word after hname with ⟨rfl, hword⟩
        rcases word with _ | ⟨c, word⟩
        · exact absurd rfl hword.1
        · refine ⟨c :: word, rfl, IsPiece.name c word hword ?_⟩
          -- Had the name begun with a digit, a number would have been read.
          rw [run, List.cons_append] at hdigits
          by_contra hc
          rw [List.takeWhile_cons_of_pos (by simpa using hc)] at hdigits
          simp at hdigits
      · simp at h

/-- A name can begin neither a group nor a quoted text. -/
theorem isNameChar_ne_open (c : Char) (hc : isNameChar c = true) : c ≠ '{' ∧ c ≠ '"' := by
  constructor
  all_goals
    rintro rfl
    exact absurd hc (by decide)

theorem piece_eq_of_isNameChar (abbreviations : Abbreviations) (c : Char) (s : List Char)
    (hc : isNameChar c = true) :
    piece abbreviations (c :: s) =
      match run Char.isDigit (c :: s) with
      | .ok r => .ok r
      | .error _ =>
        match name (c :: s) with
        | .ok (word, rest) => .ok (expand abbreviations word, rest)
        | .error fault => .error fault := by
  rcases isNameChar_ne_open c hc with ⟨hbrace, hquote⟩
  unfold piece
  split
  · rename_i heq
    exact absurd (List.cons.inj heq).1 hbrace
  · rename_i heq
    exact absurd (List.cons.inj heq).1 hquote
  · rfl

theorem piece_complete (abbreviations : Abbreviations) (p v rest : List Char)
    (h : IsPiece (meanings abbreviations) p v) (hrest : Stops isNameChar rest) :
    piece abbreviations (p ++ rest) = .ok (v, rest) := by
  cases h with
  | group _ hi =>
      have hr := (groupTail_eq_some_iff (v ++ '}' :: rest) v rest).mpr ⟨rfl, hi⟩
      simp [piece, hr]
  | quoted _ hi =>
      have hr := (quotedTail_eq_some_iff 0 (v ++ '"' :: rest) v rest).mpr ⟨rfl, hi⟩
      simp [piece, hr]
  | number _ hp =>
      rcases p with _ | ⟨c, s⟩
      · exact absurd rfl hp.1
      · have hc := isNameChar_of_isDigit c (hp.2 c List.mem_cons_self)
        have hr := run_append Char.isDigit (c :: s) rest hp (hrest.mono isNameChar_of_isDigit)
        rw [List.cons_append] at hr ⊢
        rw [piece_eq_of_isNameChar abbreviations c (s ++ rest) hc, hr]
  | name c s hp hc =>
      -- Digits are tried first, and there is none in front of a name.
      have hr := run_append isNameChar (c :: s) rest hp hrest
      have hdigits : run Char.isDigit (c :: (s ++ rest)) = .error ⟨.run, c :: (s ++ rest)⟩ := by
        rw [run, List.takeWhile_cons_of_neg (by simp [hc])]
        rfl
      rw [List.cons_append] at hr ⊢
      rw [piece_eq_of_isNameChar abbreviations c (s ++ rest) (hp.2 c List.mem_cons_self), hdigits]
      dsimp only
      rw [name, hr]
      rfl

/-- A value that no `#` follows ends with its first piece. -/
theorem value_last (abbreviations : Abbreviations) (s part rest : List Char)
    (hp : piece abbreviations (skipGap s) = .ok (part, rest))
    (hr : ∀ next, skipGap rest ≠ '#' :: next) :
    value abbreviations s = .ok (part, skipGap rest) := by
  rw [value]
  split
  · rename_i hp'
    rw [hp] at hp'
    simp at hp'
  · rename_i part' rest' hp'
    rw [hp] at hp'
    rcases Prod.mk.inj (Except.ok.inj hp') with ⟨rfl, rfl⟩
    split
    · rename_i next hnext
      exact absurd hnext (hr next)
    · rfl

/-- A value that does not begin with a piece is none. -/
theorem value_fault (abbreviations : Abbreviations) (s : List Char) (fault : Fault)
    (hp : piece abbreviations (skipGap s) = .error fault) :
    value abbreviations s = .error fault := by
  rw [value]
  split
  · rename_i hp'
    rw [hp] at hp'
    rw [Except.error.inj hp']
  · rename_i hp'
    rw [hp] at hp'
    simp at hp'

/-- A value goes on behind a `#`, and is one if what comes there is. -/
theorem value_next (abbreviations : Abbreviations) (s part rest next : List Char)
    (hp : piece abbreviations (skipGap s) = .ok (part, rest)) (hr : skipGap rest = '#' :: next) :
    value abbreviations s = (value abbreviations next).map fun r => (part ++ r.1, r.2) := by
  rw [value]
  split
  · rename_i hp'
    rw [hp] at hp'
    simp at hp'
  · rename_i part' rest' hp'
    rw [hp] at hp'
    rcases Prod.mk.inj (Except.ok.inj hp') with ⟨rfl, rfl⟩
    split
    · rename_i next' hnext
      rw [hr] at hnext
      rcases (List.cons.inj hnext).2 with rfl
      dsimp only
      cases value abbreviations next <;> rfl
    · rename_i hno
      exact absurd hr (hno next)

theorem value_joined (abbreviations : Abbreviations) (s part rest next more tail : List Char)
    (hp : piece abbreviations (skipGap s) = .ok (part, rest)) (hr : skipGap rest = '#' :: next)
    (hn : value abbreviations next = .ok (more, tail)) :
    value abbreviations s = .ok (part ++ more, tail) := by
  rw [value_next abbreviations s part rest next hp hr, hn]
  rfl

theorem value_sound (abbreviations : Abbreviations) (s v rest : List Char)
    (h : value abbreviations s = .ok (v, rest)) :
    ∃ e, s = e ++ rest ∧ IsValue (meanings abbreviations) e v := by
  fun_induction value abbreviations s generalizing v rest with
  | case1 => simp at h
  | case2 => simp at h
  -- A `#` comes, and what is behind it is a value again.
  | case3 s part after hp next hnext _ more tail hmore ih =>
      rcases Prod.mk.inj (Except.ok.inj h) with ⟨rfl, rfl⟩
      rcases exists_gap s with ⟨a, ha, hs⟩
      rcases piece_sound abbreviations (skipGap s) part after hp with ⟨p, hsp, hpiece⟩
      rcases exists_gap after with ⟨b, hb, hafter⟩
      rcases ih more tail hmore with ⟨e, rfl, he⟩
      refine ⟨a ++ p ++ b ++ '#' :: e, ?_, IsValue.joined a p b part e more ha hpiece hb he⟩
      rw [hs, hsp, hafter, hnext]
      simp only [List.append_assoc, List.cons_append]
  -- The piece is the last one. The gap behind it belongs to the value.
  | case4 s part after hp hno =>
      rcases Prod.mk.inj (Except.ok.inj h) with ⟨rfl, rfl⟩
      rcases exists_gap s with ⟨a, ha, hs⟩
      rcases piece_sound abbreviations (skipGap s) part after hp with ⟨p, hsp, hpiece⟩
      rcases exists_gap after with ⟨b, hb, hafter⟩
      refine ⟨a ++ p ++ b, ?_, IsValue.last a p b part ha hpiece hb⟩
      rw [hs, hsp]
      simp only [List.append_assoc]
      rw [← hafter]

/-- Behind the blanks, the comma of the next field comes or the brace that
    closes the block. A value is always followed by such a text. -/
def EndsValue (s : List Char) : Prop :=
  ∃ t, skipGap s = ',' :: t ∨ skipGap s = '}' :: t

theorem EndsValue.stops_isNameChar {s : List Char} (hs : EndsValue s) : Stops isNameChar s := by
  rcases exists_gap s with ⟨a, ha, hsplit⟩
  rw [hsplit]
  refine stops_gap_append isNameChar isNameChar_of_isGap a _ ha ?_
  rcases hs with ⟨t, ht | ht⟩
  · rw [ht]
    exact stops_cons isNameChar ',' t (by decide)
  · rw [ht]
    exact stops_cons isNameChar '}' t (by decide)

/-- No piece begins with a blank. -/
theorem IsPiece.stops_isGap {m : Meanings} {p v : List Char} (h : IsPiece m p v)
    (s : List Char) : Stops isGap (p ++ s) := by
  cases h with
  | group _ _ => exact stops_cons isGap '{' _ (by decide)
  | quoted _ _ => exact stops_cons isGap '"' _ (by decide)
  | number _ hp =>
      have hname : IsRun isNameChar p := ⟨hp.1, fun c hc => isNameChar_of_isDigit c (hp.2 c hc)⟩
      exact hname.stops_isGap s
  | name c p hp _ => exact hp.stops_isGap s

theorem value_complete (abbreviations : Abbreviations) (e v rest : List Char)
    (h : IsValue (meanings abbreviations) e v) (hrest : EndsValue rest) :
    value abbreviations (e ++ rest) = .ok (v, skipGap rest) := by
  induction h with
  | last a p b v ha hp hb =>
      have hgap : skipGap (a ++ p ++ b ++ rest) = p ++ (b ++ rest) := by
        simp only [List.append_assoc]
        rw [skipGap_append a _ ha, skipGap_of_stops _ (hp.stops_isGap _)]
      have hpiece : piece abbreviations (p ++ (b ++ rest)) = .ok (v, b ++ rest) :=
        piece_complete abbreviations p v (b ++ rest) hp
          (stops_gap_append isNameChar isNameChar_of_isGap b rest hb hrest.stops_isNameChar)
      rw [← hgap] at hpiece
      -- Neither a comma nor a brace is the mark that goes on with the value.
      rw [value_last abbreviations _ v (b ++ rest) hpiece, skipGap_append b rest hb]
      intro next hnext
      rw [skipGap_append b rest hb] at hnext
      rcases hrest with ⟨t, ht | ht⟩
      · rw [ht] at hnext
        exact absurd (List.cons.inj hnext).1 (by decide)
      · rw [ht] at hnext
        exact absurd (List.cons.inj hnext).1 (by decide)
  | joined a p b v e w ha hp hb _ ih =>
      have hgap : skipGap (a ++ p ++ b ++ '#' :: e ++ rest) = p ++ (b ++ '#' :: (e ++ rest)) := by
        simp only [List.append_assoc, List.cons_append]
        rw [skipGap_append a _ ha, skipGap_of_stops _ (hp.stops_isGap _)]
      have hmark : skipGap (b ++ '#' :: (e ++ rest)) = '#' :: (e ++ rest) := by
        rw [skipGap_append b _ hb, skipGap_of_stops _ (stops_cons isGap '#' _ (by decide))]
      have hpiece : piece abbreviations (p ++ (b ++ '#' :: (e ++ rest))) =
          .ok (v, b ++ '#' :: (e ++ rest)) :=
        piece_complete abbreviations p v _ hp
          (stops_gap_append isNameChar isNameChar_of_isGap b _ hb
            (stops_cons isNameChar '#' _ (by decide)))
      rw [← hgap] at hpiece
      exact value_joined abbreviations _ v _ (e ++ rest) w (skipGap rest) hpiece hmark ih

end Bibtex

end CiteRender
