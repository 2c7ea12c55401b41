import CiteRender.Html.Parse
import CiteRender.Html.Printer
import CiteRender.Proofs.Text.LetterCase

/-!
# Tags and the Names of Attributes

What the reader of tags can give, and what it gives for a tag that was printed.

The name of an attribute that was read is not empty, has no capitals, no blank,
no slash, no angle that ends a tag and no NUL, and an equals sign at most as its
first character. Any such name comes back when it is written into a tag, and no
other name ever does. Values do not matter: a quote in one is written as a
reference, so the value ends where it should.

## Main definitions

* `Html.isAttributeName`: The names that attributes can be read with.
* `Html.Token.IsNamed`: A token whose attributes have such names.
* `Html.writeAttributes`: Attributes as they stand in a tag.

## Theorems

* `isNamed_of_readTokens`: All tokens of a text are named.
* `readTag_write`: A tag that was written is read.
-/

namespace CiteRender

namespace Html

/-- Whether a character can stand in the name of an attribute that was read. -/
def isKeptChar (c : Char) : Bool :=
  !endsTagName c && c != '\x00' && !c.isUpper

/-- Whether an attribute can be read with this name. -/
def isAttributeName : List Char → Bool
  | [] => false
  | c :: s => isKeptChar c && s.all fun d => isKeptChar d && d != '='

/-- A tag whose attributes have names that can be read. -/
def StartTag.IsNamed (tag : StartTag) : Prop :=
  ∀ a ∈ tag.attributes, isAttributeName a.1.toList = true

/-- A token whose attributes have names that can be read. -/
def Token.IsNamed : Token → Prop
  | .start tag => tag.IsNamed
  | _ => True

/-- A character as it is kept in a name. -/
def nameChar (c : Char) : Char :=
  (if c = '\x00' then replacement else c).toLower

theorem nameText_toList (s : List Char) : (nameText s).toList = s.map nameChar := by
  rw [nameText, String.toList_ofList, Text.lower, replaceNul, List.map_map]
  rfl

theorem isKeptChar_of_isLower (c : Char) (hc : c.isLower = true) :
    isKeptChar c = true ∧ c ≠ '=' := by
  have hne (d : Char) (hd : d.isLower = false) : c ≠ d := by
    rintro rfl
    rw [hc] at hd
    exact absurd hd (by decide)
  have hupper : c.isUpper = false := by
    simp only [Char.isLower, Bool.and_eq_true, decide_eq_true_eq, ge_iff_le,
      UInt32.le_iff_toNat_le, Char.reduceVal, UInt32.reduceToNat] at hc
    simp only [Char.isUpper, decide_eq_false_iff_not, ge_iff_le, UInt32.le_iff_toNat_le,
      Char.reduceVal, UInt32.reduceToNat]
    omega
  refine ⟨?_, hne '=' (by decide)⟩
  simp [isKeptChar, endsTagName, isSpace, hupper, hne ' ' (by decide), hne '\t' (by decide),
    hne '\n' (by decide), hne '\x0c' (by decide), hne '\r' (by decide), hne '/' (by decide),
    hne '>' (by decide), hne '\x00' (by decide)]

theorem isKeptChar_nameChar (c : Char) (hc : endsTagName c = false) :
    isKeptChar (nameChar c) = true ∧ (c ≠ '=' → nameChar c ≠ '=') := by
  rw [nameChar]
  by_cases hnul : c = '\x00'
  · rw [if_pos hnul]
    exact ⟨by decide, fun _ => by decide⟩
  · rw [if_neg hnul]
    by_cases hupper : c.isUpper = true
    · have hkept := isKeptChar_of_isLower c.toLower (by simp [Char.isAlpha, hupper])
      exact ⟨hkept.1, fun _ => hkept.2⟩
    · rw [Bool.not_eq_true] at hupper
      rw [Char.toLower_eq_of_not_isUpper (by simp [hupper])]
      exact ⟨by simp [isKeptChar, hc, hnul, hupper], id⟩

/-- A name that can be read is kept as it is. -/
theorem nameChar_of_isKeptChar (c : Char) (hc : isKeptChar c = true) : nameChar c = c := by
  simp only [isKeptChar, Bool.and_eq_true, Bool.not_eq_true', bne_iff_ne] at hc
  rw [nameChar, if_neg hc.1.2, Char.toLower_eq_of_not_isUpper (by simp [hc.2])]

theorem nameText_of_isAttributeName (name : String) (h : isAttributeName name.toList = true) :
    nameText name.toList = name := by
  rw [← String.toList_inj, nameText_toList]
  cases hname : name.toList with
  | nil => rfl
  | cons c s =>
      rw [hname, isAttributeName, Bool.and_eq_true, List.all_eq_true] at h
      rw [List.map_cons, nameChar_of_isKeptChar c h.1]
      congr 1
      refine (List.map_congr_left fun d hd => ?_).trans (List.map_id s)
      exact nameChar_of_isKeptChar d ((Bool.and_eq_true _ _).mp (h.2 d hd)).1

/-! What the reader gives. -/

theorem isAttributeName_readAttributeName (c : Char) (s : List Char)
    (hc : endsTagName c = false) :
    isAttributeName (readAttributeName (c :: s)).1.toList = true := by
  -- Behind its first character a name goes on to the first that ends it.
  have htail : ((s.takeWhile fun c => !endsAttributeName c).map nameChar).all
      (fun d => isKeptChar d && d != '=') = true := by
    rw [List.all_eq_true]
    intro d hd
    rcases List.mem_map.mp hd with ⟨e, he, rfl⟩
    have hends := List.all_eq_true.mp List.all_takeWhile e he
    simp only [endsAttributeName, Bool.not_eq_true', Bool.or_eq_false_iff, beq_eq_false_iff_ne]
      at hends
    have hkept := isKeptChar_nameChar e hends.1
    simp [hkept.1, hkept.2 hends.2]
  have hhead := (isKeptChar_nameChar c hc).1
  by_cases heq : c = '='
  · subst heq
    rw [readAttributeName]
    dsimp only
    rw [nameText_toList, List.map_cons, isAttributeName, hhead, htail]
    rfl
  · have hread : readAttributeName (c :: s) =
        (nameText (c :: s.takeWhile fun c => !endsAttributeName c),
          s.dropWhile fun c => !endsAttributeName c) := by
      have hgoes : (!endsAttributeName c) = true := by simp [endsAttributeName, hc, heq]
      rw [readAttributeName]
      · simp only [List.takeWhile_cons, List.dropWhile_cons, hgoes, if_true]
      · exact fun rest hrest => heq (List.cons.inj hrest).1
    rw [hread, nameText_toList, List.map_cons, isAttributeName, hhead, htail]
    rfl

/-- The attributes of a tag have names that can be read. -/
theorem isAttributeName_of_readAttributes (fuel : Nat) :
    ∀ (s : List Char) (r : List (String × String) × Bool × List Char),
      readAttributes fuel s = some r → ∀ a ∈ r.1, isAttributeName a.1.toList = true := by
  induction fuel with
  | zero => simp [readAttributes]
  | succ fuel ih =>
      intro s r h
      rw [readAttributes] at h
      split at h
      · simp at h
      · rw [← Option.some.inj h]
        simp
      · rw [← Option.some.inj h]
        simp
      · exact ih _ r h
      · next hnil hangle _ hslash =>
          -- What is left begins with a character that a name can begin with.
          rcases hstart : s.dropWhile isSpace with _ | ⟨c, start⟩
          · exact absurd hstart hnil
          · have hname : isAttributeName (readAttributeName (c :: start)).1.toList = true := by
              refine isAttributeName_readAttributeName c start ?_
              have hspace : isSpace c = false := by
                simpa [hstart] using List.head?_dropWhile_not isSpace s
              have hc : c ≠ '>' := fun hc => hangle start (hc ▸ hstart)
              have hc' : c ≠ '/' := fun hc => hslash start (hc ▸ hstart)
              simp [endsTagName, hspace, hc, hc']
            rw [hstart] at h
            dsimp only at h
            split at h
            · split at h
              · simp at h
              · rcases Option.map_eq_some_iff.mp h with ⟨r', hr', rfl⟩
                exact List.forall_mem_cons.mpr ⟨hname, ih _ r' hr'⟩
            · rcases Option.map_eq_some_iff.mp h with ⟨r', hr', rfl⟩
              exact List.forall_mem_cons.mpr ⟨hname, ih _ r' hr'⟩

theorem mem_of_mem_firstOfEachName (attributes : List (String × String)) (a : String × String)
    (h : a ∈ firstOfEachName attributes) : a ∈ attributes := by
  rw [firstOfEachName, List.mem_reverse] at h
  have hfold (kept rest : List (String × String))
      (ha : a ∈ rest.foldl (fun kept a => if kept.any (fun k => k.1 = a.1) then kept
        else a :: kept) kept) : a ∈ kept ∨ a ∈ rest := by
    induction rest generalizing kept with
    | nil => exact Or.inl ha
    | cons b rest ih =>
        rw [List.foldl_cons] at ha
        rcases ih _ ha with hkept | hrest
        · split at hkept
          · exact Or.inl hkept
          · rcases List.mem_cons.mp hkept with rfl | hkept
            · exact Or.inr List.mem_cons_self
            · exact Or.inl hkept
        · exact Or.inr (List.mem_cons_of_mem _ hrest)
  exact (hfold [] attributes h).resolve_left List.not_mem_nil

theorem isNamed_of_readTag (s : List Char) (r : StartTag × List Char) (h : readTag s = some r) :
    r.1.IsNamed := by
  rw [readTag] at h
  rcases Option.map_eq_some_iff.mp h with ⟨read, hread, rfl⟩
  exact fun a ha =>
    isAttributeName_of_readAttributes _ _ read hread a (mem_of_mem_firstOfEachName _ a ha)

/-- A run of text is no tag. -/
theorem isCharacters_of_mem_runs (cs : List Char) : ∀ t ∈ runs cs, isCharacters t = true := by
  induction cs with
  | nil => simp [runs]
  | cons c cs ih =>
      change ∀ t ∈ consRun c (runs cs), isCharacters t = true
      generalize runs cs = tokens at ih
      unfold consRun
      split
      · exact List.forall_mem_cons.mpr ⟨rfl, ih⟩
      · split <;> split
        all_goals
          simp only [List.forall_mem_cons] at ih ⊢
          exact ⟨rfl, by first | exact ih.2 | exact ih⟩

theorem isNamed_of_isCharacters (t : Token) (h : isCharacters t = true) : t.IsNamed := by
  cases t with
  | start tag => simp [isCharacters] at h
  | _ => trivial

theorem isNamed_of_mem_runs (cs : List Char) : ∀ t ∈ runs cs, t.IsNamed :=
  fun t ht => isNamed_of_isCharacters t (isCharacters_of_mem_runs cs t ht)

/-- A text with references has no tags. -/
theorem isCharacters_of_mem_referencedRuns (s : List Char) :
    ∀ t ∈ referencedRuns s, isCharacters t = true ∨ t = .slip := by
  intro t ht
  unfold referencedRuns at ht
  split at ht
  · split at ht
    · rcases List.mem_cons.mp ht with rfl | ht
      · exact Or.inr rfl
      · exact Or.inl (isCharacters_of_mem_runs _ t ht)
    · exact Or.inl (isCharacters_of_mem_runs _ t ht)
  · exact Or.inl (isCharacters_of_mem_runs _ t ht)

theorem isNamed_of_mem_referencedRuns (s : List Char) : ∀ t ∈ referencedRuns s, t.IsNamed := by
  intro t ht
  rcases isCharacters_of_mem_referencedRuns s t ht with h | rfl
  · exact isNamed_of_isCharacters t h
  · trivial

theorem isNamed_readSystemId (needed : Bool) (d : Doctype) (s : List Char) :
    (readSystemId needed d s).1.IsNamed := by
  unfold readSystemId
  split
  · trivial
  · trivial
  · split
    · dsimp only
      split
      · unfold readDoctypeEnd
        split <;> trivial
      · trivial
    · trivial

theorem isNamed_readPublicId (d : Doctype) (s : List Char) : (readPublicId d s).1.IsNamed := by
  unfold readPublicId
  split
  · split
    · dsimp only
      split
      · exact isNamed_readSystemId _ _ _
      · trivial
    · trivial
  · trivial

theorem isNamed_readDoctype (s : List Char) : (readDoctype s).1.IsNamed := by
  unfold readDoctype
  split
  · trivial
  · trivial
  · dsimp only
    split
    · trivial
    · trivial
    · split
      · exact isNamed_readPublicId _ _
      · split
        · exact isNamed_readSystemId _ _ _
        · trivial

theorem isNamed_readComment (s : List Char) : (readComment s).1.IsNamed := by
  unfold readComment
  split
  · trivial
  · trivial
  · split <;> trivial

theorem isNamed_of_readDeclaration (inForeign : Bool) (s : List Char) :
    ∀ t ∈ (readDeclaration inForeign s).1, t.IsNamed := by
  unfold readDeclaration
  split
  · simpa using isNamed_readComment _
  · split
    · simpa using isNamed_readDoctype _
    · split
      · exact isNamed_of_mem_runs _
      · simp [readBogusComment, Token.IsNamed]

theorem isNamed_of_readClose (s : List Char) : ∀ t ∈ (readClose s).1, t.IsNamed := by
  unfold readClose
  split
  · simp [Token.IsNamed]
  · simp [Token.IsNamed]
  · split
    · split
      · next hread =>
          rw [readEndTag] at hread
          rcases Option.map_eq_some_iff.mp hread with ⟨r, -, hr⟩
          rw [← (Prod.mk.inj hr).1]
          simp [Token.IsNamed]
      · simp [brokenOff]
    · simp [readBogusComment, Token.IsNamed]

theorem isNamed_of_readAngle (inForeign : Bool) (s : List Char) :
    ∀ t ∈ (readAngle inForeign s).1, t.IsNamed := by
  unfold readAngle
  split
  · exact isNamed_of_readDeclaration _ _
  · exact isNamed_of_readClose _
  · simp [readBogusComment, Token.IsNamed]
  · split
    · split
      · next hread =>
          rw [readStartTag] at hread
          rcases Option.map_eq_some_iff.mp hread with ⟨r, hr, hpair⟩
          rw [← (Prod.mk.inj hpair).1]
          exact List.forall_mem_singleton.mpr (isNamed_of_readTag _ r hr)
      · simp [brokenOff]
    · simp [Token.IsNamed]

/-- The tokens of a text have names that can be read. -/
theorem isNamed_of_readTokens (inForeign : Bool) (s rest : List Char) (tokens : List Token)
    (h : readTokens inForeign s = some (tokens, rest)) : ∀ t ∈ tokens, t.IsNamed := by
  unfold readTokens at h
  split at h
  · simp at h
  · rw [← (Prod.mk.inj (Option.some.inj h)).1]
    exact isNamed_of_readAngle _ _
  · rw [← (Prod.mk.inj (Option.some.inj h)).1]
    exact isNamed_of_mem_referencedRuns _

/-! What was written. -/

/-- Attributes as they stand in a tag, each with its value in quotes. -/
def writeAttributes (pairs : List (List Char × List Char)) : List Char :=
  pairs.flatMap fun a => ' ' :: a.1 ++ '=' :: '"' :: a.2 ++ ['"']

/-- Attributes that come back when they are read. -/
def Writable (pairs : List (List Char × List Char)) : Prop :=
  ∀ a ∈ pairs, isAttributeName a.1 = true ∧ '"' ∉ a.2

theorem endsTagName_of_isKeptChar (c : Char) (hc : isKeptChar c = true) : endsTagName c = false := by
  simp only [isKeptChar, Bool.and_eq_true, Bool.not_eq_true'] at hc
  exact hc.1.1

theorem readAttributeName_write (c : Char) (name rest : List Char)
    (h : isAttributeName (c :: name) = true) :
    readAttributeName (c :: name ++ '=' :: rest) = (String.ofList (c :: name), '=' :: rest) := by
  have hname : nameText (c :: name) = String.ofList (c :: name) := by
    simpa using nameText_of_isAttributeName (String.ofList (c :: name)) (by simpa using h)
  rw [isAttributeName, Bool.and_eq_true, List.all_eq_true] at h
  have hgoes (d : Char) (hd : d ∈ name) : (!endsAttributeName d) = true := by
    have hkept := (Bool.and_eq_true _ _).mp (h.2 d hd)
    simpa [endsAttributeName, endsTagName_of_isKeptChar d hkept.1] using hkept.2
  have htake : (name ++ '=' :: rest).takeWhile (fun c => !endsAttributeName c) = name := by
    rw [List.takeWhile_append_of_pos hgoes, List.takeWhile_cons_of_neg (by decide), List.append_nil]
  have hdrop : (name ++ '=' :: rest).dropWhile (fun c => !endsAttributeName c) = '=' :: rest := by
    rw [List.dropWhile_append_of_pos hgoes, List.dropWhile_cons_of_neg (by decide)]
  rw [List.cons_append]
  -- An equals sign in front is part of the name.
  by_cases heq : c = '='
  · subst heq
    rw [readAttributeName, htake, hdrop, hname]
  · have hc : (!endsAttributeName c) = true := by
      simp [endsAttributeName, endsTagName_of_isKeptChar c h.1, heq]
    rw [readAttributeName]
    · simp only [List.takeWhile_cons, List.dropWhile_cons, hc, if_true, htake, hdrop, hname]
    · exact fun rest hrest => heq (List.cons.inj hrest).1

theorem readValue_write (value rest : List Char) (h : '"' ∉ value) :
    readValue ('"' :: value ++ '"' :: rest) = some (valueText value, rest) := by
  have hgoes (d : Char) (hd : d ∈ value) : (d != '"') = true := by
    simpa using fun heq : d = '"' => h (heq ▸ hd)
  have htake : (value ++ '"' :: rest).takeWhile (· != '"') = value := by
    rw [List.takeWhile_append_of_pos hgoes, List.takeWhile_cons_of_neg (by decide), List.append_nil]
  have hdrop : (value ++ '"' :: rest).dropWhile (· != '"') = '"' :: rest := by
    rw [List.dropWhile_append_of_pos hgoes, List.dropWhile_cons_of_neg (by decide)]
  rw [List.cons_append, readValue, List.dropWhile_cons_of_neg (by decide)]
  simp only [readQuotedValue, htake, hdrop]

/-- Attributes that were written are read. -/
theorem readAttributes_write (rest : List Char) (pairs : List (List Char × List Char)) :
    ∀ fuel, Writable pairs → pairs.length < fuel →
      readAttributes fuel (writeAttributes pairs ++ '>' :: rest) =
        some (pairs.map fun a => (String.ofList a.1, valueText a.2), false, rest) := by
  induction pairs with
  | nil =>
      intro fuel _ hfuel
      rcases Nat.exists_eq_add_one.mpr hfuel with ⟨fuel, rfl⟩
      rfl
  | cons a pairs ih =>
      intro fuel hpairs hfuel
      rcases Nat.exists_eq_add_one.mpr (Nat.zero_lt_of_lt hfuel) with ⟨fuel, rfl⟩
      rcases a with ⟨name, value⟩
      rw [Writable, List.forall_mem_cons] at hpairs
      rcases hpairs with ⟨⟨hname, hvalue⟩, hpairs⟩
      have hrest := ih fuel hpairs (by simpa using hfuel)
      cases name with
      | nil => simp [isAttributeName] at hname
      | cons c name =>
          have hc := endsTagName_of_isKeptChar c ((Bool.and_eq_true _ _).mp hname).1
          simp only [endsTagName, Bool.or_eq_false_iff, beq_eq_false_iff_ne] at hc
          -- One attribute comes first, and no other sign that a list of attributes may end with.
          have hwrite : writeAttributes ((c :: name, value) :: pairs) ++ '>' :: rest =
              ' ' :: (c :: name ++ '=' :: ('"' :: value ++ '"' :: (writeAttributes pairs ++
                '>' :: rest))) := by
            simp [writeAttributes]
          have hdrop (s : List Char) : (' ' :: c :: s).dropWhile isSpace = c :: s := by
            rw [List.dropWhile_cons_of_pos (by decide), List.dropWhile_cons_of_neg (by simp [hc.1.1])]
          rw [hwrite, readAttributes, List.cons_append, hdrop, ← List.cons_append]
          split
          · next h => exact absurd h (by simp)
          · next h => exact absurd (List.cons.inj h).1 hc.2
          · next h => exact absurd (List.cons.inj h).1 hc.1.2
          · next h => exact absurd (List.cons.inj h).1 hc.1.2
          · have hread := readValue_write value (writeAttributes pairs ++ '>' :: rest) hvalue
            dsimp only
            rw [readAttributeName_write c name _ hname, List.dropWhile_cons_of_neg (by decide)]
            simp only [hread, hrest, Option.map_some, List.map_cons]

theorem length_le_writeAttributes (pairs : List (List Char × List Char)) :
    pairs.length ≤ (writeAttributes pairs).length := by
  induction pairs with
  | nil => exact Nat.le_refl 0
  | cons a pairs ih =>
      rw [writeAttributes, List.flatMap_cons, List.length_append, ← writeAttributes]
      simp
      omega

/-- A tag that was written is read. -/
theorem readTag_write (name rest : List Char) (pairs : List (List Char × List Char))
    (hname : ∀ c ∈ name, endsTagName c = false) (hpairs : Writable pairs) :
    readTag (name ++ writeAttributes pairs ++ '>' :: rest) =
      some (⟨nameText name,
        firstOfEachName (pairs.map fun a => (String.ofList a.1, valueText a.2)), false⟩, rest) := by
  -- Behind the name stands the space before an attribute, or the end of the tag.
  have hstop : ∃ c s, writeAttributes pairs ++ '>' :: rest = c :: s ∧ endsTagName c = true := by
    cases pairs with
    | nil => exact ⟨'>', rest, rfl, by decide⟩
    | cons a pairs => exact ⟨' ', _, rfl, by decide⟩
  rcases hstop with ⟨c, s, hs, hc⟩
  have hgoes (d : Char) (hd : d ∈ name) : (!endsTagName d) = true := by rw [hname d hd]; rfl
  have hlength := length_le_writeAttributes pairs
  rw [List.append_assoc, readTag, hs, List.takeWhile_append_of_pos hgoes,
    List.takeWhile_cons_of_neg (by simp [hc]),
    List.append_nil, List.dropWhile_append_of_pos hgoes, List.dropWhile_cons_of_neg (by simp [hc]),
    ← hs, readAttributes_write rest pairs _ hpairs (by simp; omega)]
  rfl

end Html

end CiteRender
