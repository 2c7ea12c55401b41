import CiteRender.Proofs.Html.Origin.Operations

/-!
# Reading Printed Tags

A start tag that was printed is read as the tag of the same name, whose
attributes have the same names. Line ends are unified before a text is read,
which may change the values, as a value may hold a carriage return that came
from a reference, but not where they end.

## Main definitions

* `Html.isTagText`: The names of tags that come back when they are read.

## Theorems

* `unifyLines_append`: Line ends are unified part by part.
* `readTokens_printStart`: A printed start tag is read.
-/

namespace CiteRender

namespace Html

/-! Line ends. -/

theorem unifyLines_cons (c : Char) (s : List Char) (hc : c ≠ '\r') :
    unifyLines (c :: s) = c :: unifyLines s := by
  rw [unifyLines]
  · exact fun _ hreturn => absurd hreturn hc
  · exact hc

/-- Line ends are unified part by part, if no line end has a share in two. -/
theorem unifyLines_append (xs ys : List Char) (c : Char) (hc : c ≠ '\n') :
    unifyLines (xs ++ c :: ys) = unifyLines xs ++ unifyLines (c :: ys) := by
  induction xs using unifyLines.induct with
  | case1 rest ih =>
      rw [List.cons_append, List.cons_append, unifyLines, unifyLines, ih, List.cons_append]
  | case2 rest hrest ih =>
      rw [List.cons_append, unifyLines, unifyLines, ih, List.cons_append]
      · exact hrest
      · intro more hmore
        cases rest with
        | nil => exact hc (List.cons.inj hmore).1
        | cons d rest => exact hrest rest (by rw [(List.cons.inj hmore).1])
  | case3 d rest _ hd ih =>
      rw [List.cons_append, unifyLines_cons d _ hd, unifyLines_cons d _ hd, ih, List.cons_append]
  | case4 => rfl

theorem unifyLines_append_of_notMem (xs ys : List Char) (hxs : '\r' ∉ xs) :
    unifyLines (xs ++ ys) = xs ++ unifyLines ys := by
  induction xs with
  | nil => rfl
  | cons c xs ih =>
      rw [List.mem_cons, not_or] at hxs
      rw [List.cons_append, unifyLines_cons c _ (Ne.symm hxs.1), ih hxs.2, List.cons_append]

theorem mem_unifyLines (xs : List Char) (c : Char) (hc : c ≠ '\n') (h : c ∈ unifyLines xs) :
    c ∈ xs := by
  induction xs using unifyLines.induct with
  | case1 rest ih =>
      rw [unifyLines, List.mem_cons] at h
      exact List.mem_cons_of_mem _ (List.mem_cons_of_mem _ (ih (h.resolve_left hc)))
  | case2 rest hrest ih =>
      rw [unifyLines, List.mem_cons] at h
      swap
      · exact hrest
      exact List.mem_cons_of_mem _ (ih (h.resolve_left hc))
  | case3 d rest _ hd ih =>
      rw [unifyLines_cons d _ hd, List.mem_cons] at h
      exact List.mem_cons.mpr (h.imp_right ih)
  | case4 => exact h

/-! Attributes. -/

theorem notMem_escapeValue (cs : List Char) : '"' ∉ escapeValue cs := by
  rw [escapeValue, List.mem_flatMap]
  rintro ⟨c, -, hc⟩
  rw [escapeValueChar] at hc
  split at hc
  · exact absurd hc (by decide)
  · next hquote =>
      rw [escapeTextChar] at hc
      split at hc
      · exact absurd hc (by decide)
      · split at hc
        · exact absurd hc (by decide)
        · split at hc
          · exact absurd hc (by decide)
          · split at hc
            · exact absurd hc (by decide)
            · exact hquote (List.mem_singleton.mp hc).symm

theorem endsTagName_of_isAttributeName (name : List Char) (h : isAttributeName name = true) :
    ∀ c ∈ name, endsTagName c = false := by
  cases name with
  | nil => exact fun _ hc => absurd hc List.not_mem_nil
  | cons d name =>
      rw [isAttributeName, Bool.and_eq_true, List.all_eq_true] at h
      exact List.forall_mem_cons.mpr ⟨endsTagName_of_isKeptChar d h.1, fun c hc =>
        endsTagName_of_isKeptChar c ((Bool.and_eq_true _ _).mp (h.2 c hc)).1⟩

theorem notMem_of_isAttributeName (name : List Char) (c : Char) (hc : endsTagName c = true)
    (h : isAttributeName name = true) : c ∉ name := by
  intro hmem
  rw [endsTagName_of_isAttributeName name h c hmem] at hc
  exact absurd hc (by simp)

/-- The attributes of a printed tag, as they stand in the text that is read. -/
def writtenPairs (attributes : List Attribute) : List (List Char × List Char) :=
  attributes.map fun a => (a.name.toList, unifyLines (escapeValue a.value.toList))

theorem writable_writtenPairs (attributes : List Attribute)
    (h : ∀ a ∈ attributes, IsReadable a) : Writable (writtenPairs attributes) := by
  intro pair hpair
  rcases List.mem_map.mp hpair with ⟨a, ha, rfl⟩
  exact ⟨(h a ha).2, fun hmem => notMem_escapeValue _ (mem_unifyLines _ _ (by decide) hmem)⟩

theorem unifyLines_printAttributes (rest : List Char) (attributes : List Attribute)
    (h : ∀ a ∈ attributes, IsReadable a) :
    unifyLines (attributes.flatMap printAttribute ++ '>' :: rest) =
      writeAttributes (writtenPairs attributes) ++ '>' :: unifyLines rest := by
  induction attributes with
  | nil => exact unifyLines_cons _ _ (by decide)
  | cons a attributes ih =>
      rw [List.forall_mem_cons] at h
      have hprint : (a :: attributes).flatMap printAttribute ++ '>' :: rest =
          (' ' :: a.name.toList ++ ['=', '"']) ++ (escapeValue a.value.toList ++
            '"' :: (attributes.flatMap printAttribute ++ '>' :: rest)) := by
        simp [printAttribute, spaceMark, h.1.1]
      have hname : '\r' ∉ ' ' :: a.name.toList ++ ['=', '"'] := by
        simpa using notMem_of_isAttributeName _ '\r' (by decide) h.1.2
      rw [hprint, unifyLines_append_of_notMem _ _ hname, unifyLines_append _ _ _ (by decide),
        unifyLines_cons _ _ (by decide), ih h.2]
      simp [writtenPairs, writeAttributes]

/-! Tags. -/

/-- Whether a name begins with a letter and is kept as it is. -/
def isTagText (name : List Char) : Bool :=
  name.head?.any Char.isAlpha && isAttributeName name

theorem exists_foldl_first (name : String) (attributes : List (String × String)) :
    ∀ kept : List (String × String),
      ((∃ a ∈ kept, a.1 = name) ∨ ∃ a ∈ attributes, a.1 = name) →
      ∃ a ∈ attributes.foldl (fun kept a =>
        if kept.any (fun k => k.1 = a.1) then kept else a :: kept) kept, a.1 = name := by
  induction attributes with
  | nil => exact fun _ h => h.resolve_right (by simp)
  | cons a attributes ih =>
      intro kept h
      refine ih _ ?_
      rcases h with ⟨k, hk, hname⟩ | ⟨k, hk, hname⟩
      · left
        dsimp only
        split
        · exact ⟨k, hk, hname⟩
        · exact ⟨k, List.mem_cons_of_mem _ hk, hname⟩
      · -- An attribute is dropped only if an earlier one of its name was kept.
        rcases List.mem_cons.mp hk with rfl | hk
        · left
          dsimp only
          split
          · next hany =>
              rcases List.any_eq_true.mp hany with ⟨first, hfirst, hsame⟩
              exact ⟨first, hfirst, (of_decide_eq_true hsame).trans hname⟩
          · exact ⟨k, List.mem_cons_self, hname⟩
        · exact Or.inr ⟨k, hk, hname⟩

/-- A name is among the first ones if it is among all. -/
theorem exists_firstOfEachName (attributes : List (String × String)) (name : String)
    (h : ∃ a ∈ attributes, a.1 = name) : ∃ a ∈ firstOfEachName attributes, a.1 = name := by
  rcases exists_foldl_first name attributes [] (Or.inr h) with ⟨a, ha, hname⟩
  exact ⟨a, List.mem_reverse.mpr ha, hname⟩

theorem readAngle_letter (inForeign : Bool) (c : Char) (s : List Char) (hc : c.isAlpha = true)
    (token : Token) (rest : List Char) (h : readStartTag (c :: s) = some (token, rest)) :
    readAngle inForeign (c :: s) = ([token], rest) := by
  have hne (d : Char) (hd : d.isAlpha = false) : c ≠ d := by
    rintro rfl
    rw [hc] at hd
    exact absurd hd (by decide)
  rw [readAngle]
  · rw [List.head?_cons, Option.any_some, hc, if_pos rfl, h]
  · exact fun _ heq => hne '!' (by decide) (List.cons.inj heq).1
  · exact fun _ heq => hne '/' (by decide) (List.cons.inj heq).1
  · exact fun _ heq => hne '?' (by decide) (List.cons.inj heq).1

/-- A printed start tag is read as a tag of the same name, with attributes of
    the same names. -/
theorem readTokens_printStart (inForeign : Bool) (tag : Tag) (attributes : List Attribute)
    (rest : List Char) (htag : isTagText tag.name.toList = true)
    (h : ∀ a ∈ attributes, IsReadable a) :
    ∃ start : StartTag, start.name = tag.name ∧ start.selfClosing = false ∧
      (∀ a ∈ attributes, ∃ b ∈ start.attributes, b.1 = a.name) ∧
      readTokens inForeign (unifyLines (printStart tag attributes ++ rest)) =
        some ([.start start], unifyLines rest) := by
  rw [isTagText, Bool.and_eq_true] at htag
  have hends := endsTagName_of_isAttributeName _ htag.2
  have hreturn : '\r' ∉ '<' :: tag.name.toList := by
    simpa using notMem_of_isAttributeName _ '\r' (by decide) htag.2
  have hread := readTag_write tag.name.toList (unifyLines rest) (writtenPairs attributes) hends
    (writable_writtenPairs attributes h)
  rcases hname : tag.name.toList with _ | ⟨c, name⟩
  · rw [hname] at htag
    exact absurd htag.1 (by simp)
  refine ⟨⟨nameText tag.name.toList, firstOfEachName ((writtenPairs attributes).map fun a =>
    (String.ofList a.1, valueText a.2)), false⟩, nameText_of_isAttributeName tag.name htag.2, rfl,
    fun a ha => ?_, ?_⟩
  · exact exists_firstOfEachName _ a.name ⟨_, List.mem_map.mpr ⟨_, List.mem_map.mpr
      ⟨a, ha, rfl⟩, rfl⟩, String.ofList_toList⟩
  · have hprint : printStart tag attributes ++ rest =
        ('<' :: tag.name.toList) ++ (attributes.flatMap printAttribute ++ '>' :: rest) := by
      simp [printStart]
    -- Up to the values of the attributes this is the tag that was written.
    have htoken : readStartTag (tag.name.toList ++ writeAttributes (writtenPairs attributes) ++
        '>' :: unifyLines rest) = some (.start ⟨nameText tag.name.toList,
          firstOfEachName ((writtenPairs attributes).map fun a =>
            (String.ofList a.1, valueText a.2)), false⟩, unifyLines rest) := by
      rw [readStartTag, hread]
      rfl
    rw [hname] at htag htoken
    rw [hprint, unifyLines_append_of_notMem _ _ hreturn, unifyLines_printAttributes rest attributes h,
      hname, List.cons_append, readTokens, ← List.append_assoc]
    rw [List.cons_append, List.cons_append] at htoken ⊢
    rw [readAngle_letter inForeign c _ (by simpa using htag.1) _ _ htoken]

end Html

end CiteRender
