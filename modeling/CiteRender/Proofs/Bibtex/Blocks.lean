import CiteRender.Proofs.Bibtex.Values

/-!
# Reading Blocks

The readers from fields up to whole blocks against the grammar. What they add
to `Values` is only bookkeeping of blanks: a reader passes over blanks as soon
as it can, so a blank that the grammar puts at the start of a field list is
gone before the list is read, and one that it puts at the end is passed over
by whoever reads the closing brace. The lemmas on gaps say that the grammar
does not mind.

## Theorems

* `normalise_eq_plainText`: The normal form of a value is its plain text.
* `field_sound`, `field_complete`: One field.
* `fields_sound`, `fields_complete`: The fields of a record.
* `block_sound`, `block_complete`: One block.
-/

namespace CiteRender

namespace Bibtex

theorem normalise_eq_plainText (v : List Char) : normalise v = plainText v :=
  Text.collapse_trim _

theorem isGap_append (a b : List Char) (ha : IsGap a) (hb : IsGap b) : IsGap (a ++ b) := by
  intro c hc
  rcases List.mem_append.mp hc with hc | hc
  · exact ha c hc
  · exact hb c hc

theorem stops_skipGap (s : List Char) : Stops isGap (skipGap s) :=
  stops_dropWhile isGap s

theorem skipGap_skipGap (s : List Char) : skipGap (skipGap s) = skipGap s :=
  dropWhile_of_stops isGap (skipGap s) (stops_skipGap s)

theorem IsField.gap_append {m : Meanings} {f : List Char} {pair : List Char × List Char}
    (h : IsField m f pair) (g : List Char) (hg : IsGap g) : IsField m (g ++ f) pair := by
  cases h with
  | mk a word b e v ha hw hb he =>
      have hf := IsField.mk (g ++ a) word b e v (isGap_append g a hg ha) hw hb he
      simpa only [List.append_assoc] using hf

theorem AreFields.gap_append {m : Meanings} {s : List Char}
    {pairs : List (List Char × List Char)} (h : AreFields m s pairs) (g : List Char)
    (hg : IsGap g) : AreFields m (g ++ s) pairs := by
  cases h with
  | none a ha => exact AreFields.none (g ++ s) (isGap_append g s hg ha)
  | comma a b ha hb =>
      have hs := AreFields.comma (m := m) (g ++ a) b (isGap_append g a hg ha) hb
      simpa only [List.append_assoc] using hs
  | cons a f s pair pairs ha hf hs =>
      have hall := AreFields.cons (g ++ a) f s pair pairs (isGap_append g a hg ha) hf hs
      simpa only [List.append_assoc] using hall

theorem AreFields.append_gap {m : Meanings} {s : List Char}
    {pairs : List (List Char × List Char)} (h : AreFields m s pairs) (g : List Char)
    (hg : IsGap g) : AreFields m (s ++ g) pairs := by
  induction h with
  | none a ha => exact AreFields.none (a ++ g) (isGap_append a g ha hg)
  | comma a b ha hb =>
      have hs := AreFields.comma (m := m) a (b ++ g) ha (isGap_append b g hb hg)
      simpa only [List.append_assoc, List.cons_append] using hs
  | cons a f s pair pairs ha hf _ ih =>
      have hall := AreFields.cons a f (s ++ g) pair pairs ha hf ih
      simpa only [List.append_assoc, List.cons_append] using hall

theorem field_sound (abbreviations : Abbreviations) (s rest : List Char)
    (pair : List Char × List Char) (h : field abbreviations s = .ok (pair, rest)) :
    ∃ f, s = f ++ rest ∧ IsField (meanings abbreviations) f pair := by
  unfold field at h
  split at h
  · simp at h
  · rename_i word after hname
    split at h
    · simp at h
    · rename_i after' hsymbol
      split at h
      · simp at h
      · rename_i v tail hvalue
        rcases Prod.mk.inj (Except.ok.inj h) with ⟨rfl, rfl⟩
        rcases exists_gap s with ⟨a, ha, hs⟩
        rcases run_sound isNameChar (skipGap s) word after hname with ⟨hword, hw⟩
        rcases exists_gap after with ⟨b, hb, hafter⟩
        rcases value_sound abbreviations after' v tail hvalue with ⟨e, rfl, he⟩
        rw [normalise_eq_plainText]
        refine ⟨a ++ word ++ b ++ '=' :: e, ?_, IsField.mk a word b e v ha hw hb he⟩
        rw [hs, hword, hafter, symbol_sound '=' (skipGap after) (e ++ tail) hsymbol]
        simp only [List.append_assoc, List.cons_append]

theorem field_complete (abbreviations : Abbreviations) (f rest : List Char)
    (pair : List Char × List Char) (h : IsField (meanings abbreviations) f pair)
    (hrest : EndsValue rest) : field abbreviations (f ++ rest) = .ok (pair, skipGap rest) := by
  cases h with
  | mk a word b e v ha hw hb he =>
      have hstop : Stops isNameChar (b ++ '=' :: (e ++ rest)) :=
        stops_gap_append isNameChar isNameChar_of_isGap b _ hb
          (stops_cons isNameChar '=' _ (by decide))
      have hname : name (word ++ (b ++ '=' :: (e ++ rest))) = .ok (word, b ++ '=' :: (e ++ rest)) :=
        run_append isNameChar word _ hw hstop
      simp only [List.append_assoc, List.cons_append]
      rw [field, skipGap_append a _ ha, skipGap_of_stops _ (hw.stops_isGap _), hname]
      dsimp only
      rw [skipGap_append b _ hb, skipGap_of_stops _ (stops_cons isGap '=' _ (by decide)), symbol_cons]
      dsimp only
      rw [value_complete abbreviations e v rest he hrest]
      dsimp only
      rw [normalise_eq_plainText]

/-- The brace that closes a block ends the value before it. -/
theorem endsValue_brace (a s : List Char) (ha : IsGap a) : EndsValue (a ++ '}' :: s) :=
  ⟨s, Or.inr (by rw [skipGap_append a _ ha, skipGap_of_stops _ (stops_cons isGap '}' s rfl)])⟩

theorem endsValue_comma (a s : List Char) (ha : IsGap a) : EndsValue (a ++ ',' :: s) :=
  ⟨s, Or.inl (by rw [skipGap_append a _ ha, skipGap_of_stops _ (stops_cons isGap ',' s rfl)])⟩

/-- No comma comes: there are no fields. -/
theorem fields_none (abbreviations : Abbreviations) (s : List Char)
    (hs : ∀ rest, skipGap s ≠ ',' :: rest) : fields abbreviations s = .ok ([], skipGap s) := by
  rw [fields]
  split
  · rename_i rest hrest
    exact absurd hrest (hs rest)
  · rfl

/-- A comma comes, and then the closing brace. -/
theorem fields_comma (abbreviations : Abbreviations) (s rest tail : List Char)
    (hs : skipGap s = ',' :: rest) (hr : skipGap rest = '}' :: tail) :
    fields abbreviations s = .ok ([], '}' :: tail) := by
  rw [fields]
  split
  · rename_i rest' hrest
    rw [hs] at hrest
    rcases (List.cons.inj hrest).2 with rfl
    split
    · rename_i tail' htail
      rw [hr] at htail
      rw [(List.cons.inj htail).2]
    · rename_i hno
      exact absurd hr (hno tail)
  · rename_i hno
    exact absurd hs (hno rest)

/-- Behind a comma that is not the last one a field is read. -/
theorem fields_behind (abbreviations : Abbreviations) (s rest : List Char)
    (hs : skipGap s = ',' :: rest) (hr : ∀ tail, skipGap rest ≠ '}' :: tail) :
    fields abbreviations s =
      match field abbreviations (skipGap rest) with
      | .error fault => .error fault
      | .ok (pair, next) => (fields abbreviations next).map fun r => (pair :: r.1, r.2) := by
  rw [fields]
  split
  · rename_i rest' hrest
    rw [hs] at hrest
    rcases (List.cons.inj hrest).2 with rfl
    split
    · rename_i tail htail
      exact absurd htail (hr tail)
    · split
      · rename_i fault hfield
        rw [hfield]
      · rename_i pair next hfield
        simp only [hfield]
        cases fields abbreviations next <;> rfl
  · rename_i hno
    exact absurd hs (hno rest)

/-- A comma comes, and then something that is no field. -/
theorem fields_fault (abbreviations : Abbreviations) (s rest : List Char) (fault : Fault)
    (hs : skipGap s = ',' :: rest) (hr : ∀ tail, skipGap rest ≠ '}' :: tail)
    (hf : field abbreviations (skipGap rest) = .error fault) :
    fields abbreviations s = .error fault := by
  rw [fields_behind abbreviations s rest hs hr, hf]

/-- A comma comes, and then a field. The fields go on behind it. -/
theorem fields_next (abbreviations : Abbreviations) (s rest next : List Char)
    (pair : List Char × List Char) (hs : skipGap s = ',' :: rest)
    (hr : ∀ tail, skipGap rest ≠ '}' :: tail)
    (hf : field abbreviations (skipGap rest) = .ok (pair, next)) :
    fields abbreviations s = (fields abbreviations next).map fun r => (pair :: r.1, r.2) := by
  rw [fields_behind abbreviations s rest hs hr, hf]

theorem fields_cons (abbreviations : Abbreviations) (s rest next after : List Char)
    (pair : List Char × List Char) (pairs : List (List Char × List Char))
    (hs : skipGap s = ',' :: rest) (hr : ∀ tail, skipGap rest ≠ '}' :: tail)
    (hf : field abbreviations (skipGap rest) = .ok (pair, next))
    (hn : fields abbreviations next = .ok (pairs, after)) :
    fields abbreviations s = .ok (pair :: pairs, after) := by
  rw [fields_next abbreviations s rest next pair hs hr hf, hn]
  rfl

theorem fields_sound (abbreviations : Abbreviations) (s rest : List Char)
    (pairs : List (List Char × List Char)) (h : fields abbreviations s = .ok (pairs, rest)) :
    ∃ t, s = t ++ rest ∧ AreFields (meanings abbreviations) t pairs := by
  fun_induction fields abbreviations s generalizing pairs rest with
  | case1 s after hs tail hr =>
      -- A comma with the closing brace behind it is the one that may come last.
      rcases Prod.mk.inj (Except.ok.inj h) with ⟨rfl, rfl⟩
      rcases exists_gap s with ⟨a, ha, hsa⟩
      rcases exists_gap after with ⟨b, hb, hafter⟩
      refine ⟨a ++ ',' :: b, ?_, AreFields.comma a b ha hb⟩
      rw [hsa, hs, hafter, hr]
      simp only [List.append_assoc, List.cons_append]
  | case2 => simp at h
  | case3 => simp at h
  | case4 s after hs pair next pairs tail htail hno hfield _ ih =>
      -- Blanks behind the comma belong to the field that follows.
      rcases Prod.mk.inj (Except.ok.inj h) with ⟨rfl, rfl⟩
      rcases exists_gap s with ⟨a, ha, hsa⟩
      rcases exists_gap after with ⟨b, hb, hafter⟩
      rcases field_sound abbreviations (skipGap after) next pair hfield with ⟨f, hsplit, hf⟩
      rcases ih tail pairs htail with ⟨t, rfl, ht⟩
      refine ⟨a ++ ',' :: (b ++ f) ++ t, ?_,
        AreFields.cons a (b ++ f) t pair pairs ha (hf.gap_append b hb) ht⟩
      rw [hsa, hs, hafter, hsplit]
      simp only [List.append_assoc, List.cons_append]
  | case5 s =>
      rcases Prod.mk.inj (Except.ok.inj h) with ⟨rfl, rfl⟩
      rcases exists_gap s with ⟨a, ha, hsa⟩
      exact ⟨a, hsa, AreFields.none a ha⟩

/-- What follows a field ends its value. -/
theorem AreFields.endsValue {m : Meanings} {t : List Char}
    {pairs : List (List Char × List Char)} (h : AreFields m t pairs) (s : List Char) :
    EndsValue (t ++ '}' :: s) := by
  cases h with
  | none a ha => exact endsValue_brace t s ha
  | comma a b ha _ =>
      simp only [List.append_assoc, List.cons_append]
      exact endsValue_comma a _ ha
  | cons a f t pair pairs ha _ _ =>
      simp only [List.append_assoc, List.cons_append]
      exact endsValue_comma a _ ha

/-- A field behind blanks does not look like the end of the fields. -/
theorem IsField.skipGap_ne {m : Meanings} {f : List Char} {pair : List Char × List Char}
    (h : IsField m f pair) (s tail : List Char) : skipGap (f ++ s) ≠ '}' :: tail := by
  cases h with
  | mk a word b e v ha hw hb he =>
      simp only [List.append_assoc]
      rw [skipGap_append a _ ha, skipGap_of_stops _ (hw.stops_isGap _)]
      rcases word with _ | ⟨c, word⟩
      · exact absurd rfl hw.1
      · intro heq
        have hc := hw.2 c List.mem_cons_self
        rw [(List.cons.inj heq).1] at hc
        exact absurd hc (by decide)

theorem fields_complete (abbreviations : Abbreviations) (t rest : List Char)
    (pairs : List (List Char × List Char)) (h : AreFields (meanings abbreviations) t pairs) :
    ∀ s, skipGap s = skipGap (t ++ '}' :: rest) →
      fields abbreviations s = .ok (pairs, '}' :: rest) := by
  have hbrace : skipGap ('}' :: rest) = '}' :: rest :=
    skipGap_of_stops _ (stops_cons isGap '}' rest rfl)
  have hcomma (s : List Char) : skipGap (',' :: s) = ',' :: s :=
    skipGap_of_stops _ (stops_cons isGap ',' s rfl)
  induction h with
  | none a ha =>
      intro s hs
      rw [skipGap_append a _ ha, hbrace] at hs
      rw [fields_none abbreviations s, hs]
      intro after hafter
      rw [hs] at hafter
      exact absurd (List.cons.inj hafter).1 (by decide)
  | comma a b ha hb =>
      -- The reader looks past the blanks for a brace before it tries a field.
      intro s hs
      simp only [List.append_assoc, List.cons_append] at hs
      rw [skipGap_append a _ ha, hcomma] at hs
      exact fields_comma abbreviations s _ rest hs (by rw [skipGap_append b _ hb, hbrace])
  | cons a f t pair pairs ha hf ht ih =>
      intro s hs
      simp only [List.append_assoc, List.cons_append] at hs
      rw [skipGap_append a _ ha, hcomma] at hs
      -- What comes next ends the value of the field, so no more than it is read.
      have hfield : field abbreviations (skipGap (f ++ (t ++ '}' :: rest))) =
          .ok (pair, skipGap (t ++ '}' :: rest)) := by
        rw [field, skipGap_skipGap, ← field]
        exact field_complete abbreviations f _ pair hf (ht.endsValue rest)
      exact fields_cons abbreviations s _ _ _ pair pairs hs (hf.skipGap_ne _) hfield
        (ih _ (skipGap_skipGap _))

theorem abbreviationBody_sound (abbreviations : Abbreviations) (s rest : List Char) (b : Block)
    (h : abbreviationBody abbreviations s = .ok (b, rest)) :
    ∃ f c pair, s = '{' :: f ++ c ++ ['}'] ++ rest ∧ IsField (meanings abbreviations) f pair ∧
      IsGap c ∧ b = .abbreviation pair.1 pair.2 := by
  rw [abbreviationBody] at h
  rcases (bind_ok_iff _ _ _).mp h with ⟨⟨_, inside⟩, hopen, h⟩
  rcases (bind_ok_iff _ _ _).mp h with ⟨⟨pair, after⟩, hfield, h⟩
  rcases (bind_ok_iff _ _ _).mp h with ⟨⟨_, behind⟩, hclose, h⟩
  rcases Prod.mk.inj (Except.ok.inj h) with ⟨rfl, rfl⟩
  rcases field_sound abbreviations inside after pair hfield with ⟨f, rfl, hf⟩
  rcases exists_gap after with ⟨c, hc, hafter⟩
  refine ⟨f, c, pair, ?_, hf, hc, rfl⟩
  rw [symbol_sound '{' s (f ++ after) hopen, hafter, symbol_sound '}' (skipGap after) _ hclose]
  simp only [List.append_assoc, List.cons_append, List.nil_append]

theorem abbreviationBody_complete (abbreviations : Abbreviations) (f c rest : List Char)
    (pair : List Char × List Char) (hf : IsField (meanings abbreviations) f pair) (hc : IsGap c) :
    abbreviationBody abbreviations ('{' :: (f ++ (c ++ '}' :: rest))) =
      .ok (.abbreviation pair.1 pair.2, rest) := by
  -- Reading the field takes the blanks before the brace with it.
  have hfield := field_complete abbreviations f (c ++ '}' :: rest) pair hf (endsValue_brace c rest hc)
  have hbrace : skipGap (c ++ '}' :: rest) = '}' :: rest := by
    rw [skipGap_append c _ hc, skipGap_of_stops _ (stops_cons isGap '}' rest rfl)]
  rw [hbrace] at hfield
  refine (bind_ok_iff _ _ _).mpr ⟨((), _), symbol_cons '{' _, ?_⟩
  refine (bind_ok_iff _ _ _).mpr ⟨(pair, '}' :: rest), hfield, ?_⟩
  refine (bind_ok_iff _ _ _).mpr ⟨((), rest), ?_, rfl⟩
  rw [skipGap_of_stops _ (stops_cons isGap '}' rest rfl), symbol_cons]

theorem recordBody_sound (abbreviations : Abbreviations) (kind s rest : List Char) (b : Block)
    (h : recordBody abbreviations kind s = .ok (b, rest)) :
    ∃ c key t pairs, s = '{' :: c ++ key ++ t ++ ['}'] ++ rest ∧ IsGap c ∧ IsRun isNameChar key ∧
      AreFields (meanings abbreviations) t pairs ∧
      b = .record ⟨String.ofList kind, String.ofList key, pairs.map pairOfChars⟩ := by
  rw [recordBody] at h
  rcases (bind_ok_iff _ _ _).mp h with ⟨⟨_, inside⟩, hopen, h⟩
  rcases (bind_ok_iff _ _ _).mp h with ⟨⟨key, after⟩, hname, h⟩
  rcases (bind_ok_iff _ _ _).mp h with ⟨⟨pairs, behind⟩, hfields, h⟩
  rcases (bind_ok_iff _ _ _).mp h with ⟨⟨_, tail⟩, hclose, h⟩
  rcases Prod.mk.inj (Except.ok.inj h) with ⟨rfl, rfl⟩
  rcases exists_gap inside with ⟨c, hc, hinside⟩
  rcases run_sound isNameChar (skipGap inside) key after hname with ⟨hsplit, hkey⟩
  rcases exists_gap after with ⟨d, hd, hafter⟩
  rcases fields_sound abbreviations (skipGap after) behind pairs hfields with ⟨t, htail, ht⟩
  rcases exists_gap behind with ⟨e, he, hbehind⟩
  -- The blanks on both sides of the fields count as theirs.
  refine ⟨c, key, d ++ t ++ e, pairs, ?_, hc, hkey, (ht.gap_append d hd).append_gap e he, rfl⟩
  rw [symbol_sound '{' s inside hopen, hinside, hsplit, hafter, htail, hbehind,
    symbol_sound '}' (skipGap behind) _ hclose]
  simp only [List.append_assoc, List.cons_append, List.nil_append]

theorem recordBody_complete (abbreviations : Abbreviations) (kind c key t rest : List Char)
    (pairs : List (List Char × List Char)) (hc : IsGap c) (hkey : IsRun isNameChar key)
    (ht : AreFields (meanings abbreviations) t pairs) :
    recordBody abbreviations kind ('{' :: (c ++ (key ++ (t ++ '}' :: rest)))) =
      .ok (.record ⟨String.ofList kind, String.ofList key, pairs.map pairOfChars⟩, rest) := by
  have hname : name (skipGap (c ++ (key ++ (t ++ '}' :: rest)))) = .ok (key, t ++ '}' :: rest) := by
    rw [skipGap_append c _ hc, skipGap_of_stops _ (hkey.stops_isGap _)]
    exact run_append isNameChar key _ hkey (ht.endsValue rest).stops_isNameChar
  have hfields := fields_complete abbreviations t rest pairs ht _ (skipGap_skipGap _)
  refine (bind_ok_iff _ _ _).mpr ⟨((), _), symbol_cons '{' _, ?_⟩
  refine (bind_ok_iff _ _ _).mpr ⟨(key, t ++ '}' :: rest), hname, ?_⟩
  refine (bind_ok_iff _ _ _).mpr ⟨(pairs, '}' :: rest), hfields, ?_⟩
  refine (bind_ok_iff _ _ _).mpr ⟨((), rest), ?_, rfl⟩
  rw [skipGap_of_stops _ (stops_cons isGap '}' rest rfl), symbol_cons]

theorem group_sound (s inner rest : List Char) (h : group s = .ok (inner, rest)) :
    s = '{' :: inner ++ ['}'] ++ rest ∧ Balanced inner := by
  unfold group at h
  split at h
  · rename_i tail
    split at h
    · rename_i r hr
      rw [Except.ok.inj h] at hr
      rcases (groupTail_eq_some_iff tail inner rest).mp hr with ⟨rfl, hi⟩
      exact ⟨by simp, hi⟩
    · simp at h
  · simp at h

theorem group_complete (inner rest : List Char) (hi : Balanced inner) :
    group ('{' :: (inner ++ '}' :: rest)) = .ok (inner, rest) := by
  have hr := (groupTail_eq_some_iff (inner ++ '}' :: rest) inner rest).mpr ⟨rfl, hi⟩
  simp [group, hr]

theorem block_sound (abbreviations : Abbreviations) (s rest : List Char) (b : Block)
    (h : block abbreviations s = .ok (b, rest)) :
    ∃ t, s = t ++ rest ∧ IsBlock (meanings abbreviations) t b := by
  rw [block] at h
  rcases (bind_ok_iff _ _ _).mp h with ⟨⟨_, start⟩, hat, h⟩
  rcases (bind_ok_iff _ _ _).mp h with ⟨⟨word, after⟩, hrun, h⟩
  rcases exists_gap start with ⟨a, ha, hstart⟩
  rcases run_sound Char.isAlphanum (skipGap start) word after hrun with ⟨hsplit, hw⟩
  rcases exists_gap after with ⟨g, hg, hafter⟩
  -- The head of the block is the same for all types.
  have hs : s = '@' :: a ++ word ++ g ++ skipGap after := by
    rw [symbol_sound '@' s start hat, hstart, hsplit, hafter]
    simp only [List.append_assoc, List.cons_append, skipGap_append g _ hg, skipGap_skipGap]
  dsimp only at h
  split at h
  · rename_i hpass
    rcases (bind_ok_iff _ _ _).mp h with ⟨⟨inner, tail⟩, hgroup, h⟩
    rcases Prod.mk.inj (Except.ok.inj h) with ⟨rfl, rfl⟩
    rcases group_sound (skipGap after) inner tail hgroup with ⟨hinner, hi⟩
    refine ⟨_, ?_, IsBlock.skipped a word g inner ha hw hpass hg hi⟩
    rw [hs, hinner]
    simp only [List.append_assoc, List.cons_append]
  · rename_i hpass
    split at h
    · rename_i hkind
      rcases abbreviationBody_sound abbreviations (skipGap after) rest b h with
        ⟨f, c, pair, hbody, hf, hc, rfl⟩
      refine ⟨_, ?_, IsBlock.abbreviation a word g f c pair ha hw hkind hg hf hc⟩
      rw [hs, hbody]
      simp only [List.append_assoc, List.cons_append]
    · rename_i hkind
      rcases recordBody_sound abbreviations (Text.lower word) (skipGap after) rest b h with
        ⟨c, key, t, pairs, hbody, hc, hkey, ht, rfl⟩
      refine ⟨_, ?_, IsBlock.record a word g c key t pairs ha hw hpass hkind hg hc hkey ht⟩
      rw [hs, hbody]
      simp only [List.append_assoc, List.cons_append]

/-- The type of a block is read up to the blanks before its brace, and what
    follows is left to the reader that the type decides on. -/
theorem block_header (abbreviations : Abbreviations) (a word b s : List Char) (ha : IsGap a)
    (hw : IsRun Char.isAlphanum word) (hb : IsGap b) :
    block abbreviations ('@' :: (a ++ (word ++ (b ++ '{' :: s)))) =
      if IsPassedOver (Text.lower word) then
        (group ('{' :: s)).map fun r => (.skipped, r.2)
      else if Text.lower word = "string".toList then abbreviationBody abbreviations ('{' :: s)
      else recordBody abbreviations (Text.lower word) ('{' :: s) := by
  -- A type is also a name, so what is known of names holds of it.
  have hname : IsRun isNameChar word := ⟨hw.1, fun c hc => isNameChar_of_isAlphanum c (hw.2 c hc)⟩
  have hstop : Stops Char.isAlphanum (b ++ '{' :: s) :=
    (stops_gap_append isNameChar isNameChar_of_isGap b _ hb
      (stops_cons isNameChar '{' s (by decide))).mono isNameChar_of_isAlphanum
  have hrun : run Char.isAlphanum (skipGap (a ++ (word ++ (b ++ '{' :: s)))) =
      .ok (word, b ++ '{' :: s) := by
    rw [skipGap_append a _ ha, skipGap_of_stops _ (hname.stops_isGap _)]
    exact run_append Char.isAlphanum word _ hw hstop
  have hbrace : skipGap (b ++ '{' :: s) = '{' :: s := by
    rw [skipGap_append b _ hb, skipGap_of_stops _ (stops_cons isGap '{' s rfl)]
  simp only [block, symbol_cons, hrun, hbrace, bind, Except.bind, pure, Except.pure]
  by_cases hpass : IsPassedOver (Text.lower word)
  · rw [if_pos hpass]
    rw [IsPassedOver] at hpass
    rw [if_pos hpass]
    cases group ('{' :: s) with
    | error fault => rfl
    | ok r => rfl
  · rw [if_neg hpass]
    rw [IsPassedOver] at hpass
    rw [if_neg hpass]

theorem block_complete (abbreviations : Abbreviations) (t rest : List Char) (b : Block)
    (h : IsBlock (meanings abbreviations) t b) :
    block abbreviations (t ++ rest) = .ok (b, rest) := by
  cases h with
  | skipped a word g inner ha hw hpass hg hi =>
      simp only [List.append_assoc, List.cons_append, List.nil_append]
      rw [block_header abbreviations a word g _ ha hw hg, if_pos hpass,
        group_complete inner rest hi]
      rfl
  | abbreviation a word g f c pair ha hw hkind hg hf hc =>
      -- No type is both passed over and read.
      have hpass : ¬ IsPassedOver (Text.lower word) := by
        rw [hkind]
        decide
      simp only [List.append_assoc, List.cons_append, List.nil_append]
      rw [block_header abbreviations a word g _ ha hw hg, if_neg hpass, if_pos hkind]
      exact abbreviationBody_complete abbreviations f c rest pair hf hc
  | record a word g c key s pairs ha hw hpass hkind hg hc hkey hs =>
      simp only [List.append_assoc, List.cons_append, List.nil_append]
      rw [block_header abbreviations a word g _ ha hw hg, if_neg hpass, if_neg hkind]
      exact recordBody_complete abbreviations (Text.lower word) c key s rest pairs hc hkey hs

end Bibtex

end CiteRender
