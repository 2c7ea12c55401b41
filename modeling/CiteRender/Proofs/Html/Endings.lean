import CiteRender.Proofs.Html.Printed

/-!
# Where Printed Parts End

A printed part is read back as one part if it ends where it was meant to. For an
end tag and for blanks that is always so. A comment may hold the end of a
comment, though, and a raw text the end tag of its element, so these have to be
asked whether reading them by themselves comes to their own end.

Nothing that stands behind a part has a say in where the part ends. Reading goes
from left to right, and the few characters that it looks ahead are all there
while the end is still to come. That is what the inductions below are about: the
end of a text stays where it is when a text follows.

## Main definitions

* `Html.isWholeComment`: A comment that ends where it was meant to.
* `Html.isWholeName`: The name of a doctype that ends where it was meant to.
* `Html.isWholeText`: A raw text that ends at the end tag of its element.

## Theorems

* `readTokens_blanks`, `readTokens_close`, `readTokens_comment`,
  `readTokens_doctype`: Printed parts are read.
* `behindText_append`: Raw text is read up to its end tag.
-/

namespace CiteRender

/-! What is printed. -/

namespace Node

variable {ι : Type}

theorem print_text (s : String) : (text (ι := ι) s).print false false = Html.escapeText s.toList :=
  rfl

theorem print_comment (s : String) : (comment (ι := ι) s).print false false =
    "<!--".toList ++ s.toList ++ "-->".toList :=
  rfl

theorem print_doctype (name : String) : (doctype (ι := ι) name).print false false =
    "<!DOCTYPE ".toList ++ name.toList ++ ['>'] :=
  rfl

/-- The children of an element stand between its tags, unless it is a template
    or has no end tag. -/
theorem print_element (label : ι) (tag : Tag) (attributes : List Attribute)
    (contents children : List (Node ι)) (htemplate : tag.isNamed "template" = false)
    (hvoid : Html.isVoid tag = false) :
    (element label tag attributes contents children).print false false =
      Html.printStart tag attributes ++ printAll (Html.isRaw tag) false children ++
        Html.printClose tag := by
  have hprint : (element label tag attributes contents children).print false false =
      if Html.isVoid tag then Html.printStart tag attributes ++
        (if tag.isNamed "template" then printAll (Html.isRaw tag) false contents
          else printAll (Html.isRaw tag) (false || Html.isVoid tag) children)
      else Html.printStart tag attributes ++
        (if tag.isNamed "template" then printAll (Html.isRaw tag) false contents
          else printAll (Html.isRaw tag) (false || Html.isVoid tag) children) ++
        Html.printClose tag := rfl
  rw [hprint, htemplate, hvoid, if_neg (by simp), if_neg (by simp), Bool.or_false]

/-- An element without content is printed as its start tag. -/
theorem print_void (label : ι) (tag : Tag) (attributes : List Attribute) (contents : List (Node ι))
    (htemplate : tag.isNamed "template" = false) (hvoid : Html.isVoid tag = true) :
    (element label tag attributes contents []).print false false = Html.printStart tag attributes := by
  have hprint : (element label tag attributes contents []).print false false =
      if Html.isVoid tag then Html.printStart tag attributes ++
        (if tag.isNamed "template" then printAll (Html.isRaw tag) false contents else [])
      else Html.printStart tag attributes ++
        (if tag.isNamed "template" then printAll (Html.isRaw tag) false contents else []) ++
        Html.printClose tag := rfl
  rw [hprint, htemplate, hvoid, if_pos rfl, if_neg (by simp), List.append_nil]

theorem printAll_cons (raw bare : Bool) (node : Node ι) (rest : List (Node ι)) :
    printAll raw bare (node :: rest) = node.print raw bare ++ printAll raw bare rest :=
  rfl

theorem printAll_append (raw bare : Bool) (nodes rest : List (Node ι)) :
    printAll raw bare (nodes ++ rest) = printAll raw bare nodes ++ printAll raw bare rest := by
  induction nodes with
  | nil => rfl
  | cons node nodes ih =>
      rw [List.cons_append, printAll_cons, printAll_cons, ih, List.append_assoc]

end Node

namespace Html

/-! Blanks. -/

theorem ne_of_isSpace (c d : Char) (hc : isSpace c = true) (hd : isSpace d = false) : c ≠ d := by
  rintro rfl
  rw [hc] at hd
  exact absurd hd (by simp)

/-- Blanks make one run. -/
theorem runs_blanks (c : Char) (s : List Char) (h : ∀ d ∈ c :: s, isSpace d = true) :
    runs (c :: s) = [.blanks (c :: s)] := by
  induction s generalizing c with
  | nil =>
      have hc := h c List.mem_cons_self
      rw [runs, List.foldr_cons, List.foldr_nil, consRun, if_neg (ne_of_isSpace c _ hc (by decide)),
        hc, if_pos rfl]
      all_goals simp
  | cons d s ih =>
      have hc := h c List.mem_cons_self
      have hrest := ih d fun e he => h e (List.mem_cons_of_mem _ he)
      rw [runs, List.foldr_cons]
      rw [runs] at hrest
      rw [hrest, consRun, if_neg (ne_of_isSpace c _ hc (by decide)), hc, if_pos rfl]

theorem decodeWith_of_notMem (inValue : Bool) (fuel : Nat) :
    ∀ s : List Char, '&' ∉ s → decodeWith inValue fuel s = s := by
  induction fuel with
  | zero => exact fun _ _ => rfl
  | succ fuel ih =>
      intro s hs
      cases s with
      | nil => rfl
      | cons c s =>
          rw [List.mem_cons, not_or] at hs
          rw [decodeWith, if_neg (Ne.symm hs.1), ih s hs.2]

/-- Blanks up to a tag are read as one token. -/
theorem readTokens_blanks (inForeign : Bool) (c : Char) (s rest : List Char)
    (h : ∀ d ∈ c :: s, isSpace d = true) :
    readTokens inForeign (c :: s ++ '<' :: rest) = some ([.blanks (c :: s)], '<' :: rest) := by
  have hangle : ∀ d ∈ c :: s, (d != '<') = true := fun d hd =>
    bne_iff_ne.mpr (ne_of_isSpace d _ (h d hd) (by decide))
  have hreference : '&' ∉ c :: s := fun hmem => absurd (h _ hmem) (by decide)
  have hc := h c List.mem_cons_self
  have hfirst : c ≠ '<' := ne_of_isSpace c _ hc (by decide)
  rw [List.cons_append, readTokens]
  · rw [← List.cons_append, List.takeWhile_append_of_pos hangle,
      List.dropWhile_append_of_pos hangle, List.takeWhile_cons_of_neg (by simp),
      List.dropWhile_cons_of_neg (by simp), List.append_nil, referencedRuns,
      decodeReferences, decodeWith_of_notMem false _ _ hreference, runs_blanks c s h]
    exact fun _ heq => hreference (heq ▸ List.mem_cons_self)
  · exact fun heq => absurd heq (by simp)
  · exact fun _ heq => hfirst (List.cons.inj heq).1

/-! End tags. -/

/-- A printed end tag is read. -/
theorem readTokens_close (inForeign : Bool) (name : String) (rest : List Char)
    (hname : isTagText name.toList = true) :
    readTokens inForeign ('<' :: '/' :: name.toList ++ '>' :: rest) =
      some ([.close name], rest) := by
  rw [isTagText, Bool.and_eq_true] at hname
  have hread := readTag_write name.toList rest [] (endsTagName_of_isAttributeName _ hname.2)
    (fun _ h => absurd h List.not_mem_nil)
  have hend : readEndTag (name.toList ++ '>' :: rest) = some (.close name, rest) := by
    rw [writeAttributes, List.flatMap_nil, List.append_nil] at hread
    rw [readEndTag, hread]
    simp [nameText_of_isAttributeName name hname.2]
  -- What follows the slash is a letter, so it is a name and not a comment.
  rw [List.cons_append, List.cons_append, readTokens, readAngle]
  rcases hcs : name.toList with _ | ⟨c, cs⟩
  · rw [hcs] at hname
    exact absurd hname.1 (by simp)
  · rw [hcs] at hend hname
    have hc : c.isAlpha = true := by simpa using hname.1
    rw [List.cons_append] at hend ⊢
    rw [readClose]
    · rw [if_pos hc, hend]
    · rintro rfl
      exact absurd hc (by decide)

/-! Comments. -/

theorem commentBody_cons (c : Char) (s : List Char)
    (hangle : ∀ rest, c = '-' → s = '-' :: '>' :: rest → False)
    (hmark : ∀ rest, c = '-' → s = '-' :: '!' :: '>' :: rest → False) :
    commentBody (c :: s) = (commentBody s).map fun r => (c :: r.1, r.2) := by
  rw [commentBody]
  · exact hangle
  · exact hmark

/-- A comment that ends has at least its end. -/
theorem length_of_commentBody (s : List Char) :
    ∀ r, commentBody s = some r → 3 ≤ s.length := by
  induction s using commentBody.induct with
  | case1 => exact fun _ h => absurd h (by simp [commentBody])
  | case2 s => exact fun _ _ => Nat.le_add_left _ _
  | case3 s => exact fun _ _ => Nat.le_add_left _ _
  | case4 c s hangle hmark ih =>
      intro r h
      rw [commentBody_cons c s hangle hmark, Option.map_eq_some_iff] at h
      rcases h with ⟨more, hmore, -⟩
      exact Nat.le_succ_of_le (ih more hmore)

/-- What follows a comment does not change where it ends. -/
theorem commentBody_append (s rest : List Char) :
    ∀ r, commentBody s = some r → commentBody (s ++ rest) = some (r.1, r.2 ++ rest) := by
  induction s using commentBody.induct with
  | case1 => exact fun _ h => absurd h (by simp [commentBody])
  | case2 s =>
      intro r h
      rw [commentBody] at h
      obtain rfl := Option.some.inj h
      rfl
  | case3 s =>
      intro r h
      rw [commentBody] at h
      obtain rfl := Option.some.inj h
      rfl
  | case4 c s hangle hmark ih =>
      intro r h
      rw [commentBody_cons c s hangle hmark, Option.map_eq_some_iff] at h
      rcases h with ⟨more, hmore, rfl⟩
      have hlength := length_of_commentBody s more hmore
      -- The characters that are looked at are all in the text.
      match s, hlength with
      | d :: e :: f :: s, _ =>
        rw [List.cons_append, commentBody_cons, ih more hmore]
        · rfl
        · intro tail hc heq
          simp only [List.cons_append, List.cons.injEq] at heq
          exact hangle (f :: s) hc (by rw [heq.1, heq.2.1])
        · intro tail hc heq
          simp only [List.cons_append, List.cons.injEq] at heq
          exact hmark s hc (by rw [heq.1, heq.2.1, heq.2.2.1])

/-- Whether a comment ends where it was meant to. -/
def isWholeComment (s : List Char) : Bool :=
  !(['>'].isPrefixOf s || ['-', '>'].isPrefixOf s) &&
    (commentBody (s ++ ['-', '-', '>'])).any fun r => r.2.isEmpty

/-- A printed comment is read if it ends where it was meant to. -/
theorem readTokens_comment (inForeign : Bool) (s rest : List Char) (h : isWholeComment s = true) :
    ∃ body, readTokens inForeign ("<!--".toList ++ (s ++ ("-->".toList ++ rest))) =
      some ([.comment body], rest) := by
  rw [isWholeComment, Bool.and_eq_true, Bool.not_eq_true', Bool.or_eq_false_iff,
    Option.any_eq_true] at h
  rcases h with ⟨⟨hangle, hdash⟩, ⟨body, left⟩, hbody, hleft⟩
  obtain rfl : left = [] := List.isEmpty_iff.mp hleft
  have happend := commentBody_append _ rest _ hbody
  rw [List.append_assoc] at happend
  refine ⟨replaceNul body, ?_⟩
  show some (readDeclaration inForeign ('-' :: '-' :: (s ++ ('-' :: '-' :: '>' :: rest)))) = _
  rw [readDeclaration, readComment]
  · rw [show s ++ '-' :: '-' :: '>' :: rest = s ++ (['-', '-', '>'] ++ rest) from rfl, happend]
    rfl
  · -- The two short forms of a comment begin in ways that a whole one does not.
    intro tail heq
    cases s with
    | nil => exact absurd (List.cons.inj heq).1 (by decide)
    | cons c s => simp [(List.cons.inj heq).1] at hangle
  · intro tail heq
    rcases s with _ | ⟨c, _ | ⟨d, s⟩⟩
    · exact absurd (List.cons.inj (List.cons.inj heq).2).1 (by decide)
    · exact absurd (List.cons.inj (List.cons.inj heq).2).1 (by decide)
    · simp [(List.cons.inj heq).1, (List.cons.inj (List.cons.inj heq).2).1] at hdash

/-! Doctypes. -/

/-- Whether the name of a doctype ends where it was meant to. -/
def isWholeName (name : List Char) : Bool :=
  name.all fun c => !(isSpace c || c == '>')

/-- A printed doctype is read. -/
theorem readTokens_doctype (inForeign : Bool) (name rest : List Char)
    (h : isWholeName name = true) :
    ∃ d, readTokens inForeign ("<!DOCTYPE ".toList ++ (name ++ '>' :: rest)) =
      some ([.doctype d], rest) := by
  rw [isWholeName, List.all_eq_true] at h
  have hname : (name ++ '>' :: rest).dropWhile (fun c => !(isSpace c || c == '>')) =
      '>' :: rest := by
    rw [List.dropWhile_append_of_pos h, List.dropWhile_cons_of_neg (by simp)]
  have hstart : (name ++ '>' :: rest).dropWhile isSpace = name ++ '>' :: rest := by
    rcases name with _ | ⟨c, name⟩
    · rw [List.nil_append, List.dropWhile_cons_of_neg (by decide)]
    · have hc := h c List.mem_cons_self
      rw [Bool.not_eq_true', Bool.or_eq_false_iff] at hc
      rw [List.cons_append, List.dropWhile_cons_of_neg (by simp [hc.1])]
  -- The name ends at the bracket, and it may be empty.
  have hread : ∃ d, readDoctype (' ' :: (name ++ '>' :: rest)) = (.doctype d, rest) := by
    rw [readDoctype, List.dropWhile_cons_of_pos (by decide), hstart]
    split
    · next heq => exact absurd heq (by simp)
    · next tail heq =>
        cases name with
        | nil => exact ⟨_, by rw [(List.cons.inj heq).2]⟩
        | cons c name =>
            have hc := h c List.mem_cons_self
            simp [(List.cons.inj heq).1] at hc
    · dsimp only
      rw [hname, List.dropWhile_cons_of_neg (by decide)]
      exact ⟨_, rfl⟩
  rcases hread with ⟨d, hd⟩
  refine ⟨d, ?_⟩
  show some (readDeclaration inForeign ("DOCTYPE".toList ++ ' ' :: (name ++ '>' :: rest))) = _
  rw [readDeclaration]
  · have hword : beginsWith "doctype" ("DOCTYPE".toList ++ ' ' :: (name ++ '>' :: rest)) = true := by
      rw [beginsWith, List.take_left' (by decide)]
      decide
    rw [if_pos hword, List.drop_left' (by decide : "DOCTYPE".toList.length = 7), hd]
  · exact fun _ heq => absurd (List.cons.inj heq).1 (by decide)

/-! Raw text. -/

theorem tagNameHere_append (name : String) (s rest : List Char) (h : name.length + 1 ≤ s.length) :
    tagNameHere name (s ++ rest) = tagNameHere name s := by
  have hne : s.drop name.length ≠ [] := by
    rw [Ne, List.drop_eq_nil_iff]
    omega
  rw [tagNameHere, tagNameHere, beginsWith, beginsWith, List.take_append_of_le_length (by omega),
    List.drop_append_of_le_length (by omega), List.head?_append_of_ne_nil _ hne]

theorem closesHere_append (name : String) (s rest : List Char) (h : name.length + 2 ≤ s.length) :
    closesHere name (s ++ rest) = closesHere name s := by
  cases s with
  | nil => simp at h
  | cons c s =>
      rw [List.cons_append]
      by_cases hc : c = '/'
      · subst hc
        exact tagNameHere_append name s rest (by simpa using h)
      · rw [closesHere, closesHere]
        · exact fun _ heq => hc (List.cons.inj heq).1
        · exact fun _ heq => hc (List.cons.inj heq).1

theorem length_readRaw (name : String) (s : List Char) :
    (readRaw name s).2.length ≤ s.length := by
  induction s with
  | nil => exact Nat.le_refl _
  | cons c s ih =>
      rw [readRaw]
      split
      · exact Nat.le_refl _
      · exact Nat.le_succ_of_le ih

/-- Raw text is read up to the same end whatever follows, if the end is as long
    as an end tag. -/
theorem readRaw_append (name : String) (last rest : List Char) (hlast : name.length + 3 ≤ last.length)
    (s : List Char) : (readRaw name s).2 = last → (readRaw name (s ++ rest)).2 = last ++ rest := by
  induction s with
  | nil =>
      intro h
      rw [← h] at hlast
      exact absurd hlast (by simp [readRaw])
  | cons c s ih =>
      intro h
      -- What is left is at least as long as an end tag, so a place that closes did so before.
      have hlength := length_readRaw name (c :: s)
      rw [h, List.length_cons] at hlength
      rw [List.cons_append, readRaw, closesHere_append name s rest (by omega)]
      rw [readRaw] at h
      split
      · next hclose =>
          rw [if_pos hclose] at h
          rw [← h]
          rfl
      · next hclose =>
          rw [if_neg hclose] at h
          exact ih h

theorem length_readScript (s : List Char) :
    ∀ state, (readScript state s).2.length ≤ s.length := by
  induction s with
  | nil => exact fun _ => Nat.le_refl _
  | cons c s ih =>
      intro state
      rw [readScript]
      split
      · exact Nat.le_refl _
      · exact Nat.le_succ_of_le (ih _)

theorem ScriptState.next_append (state : ScriptState) (c : Char) (s rest : List Char)
    (h : 8 ≤ s.length) : state.next c (s ++ rest) = state.next c s := by
  have hcomment : "!--".toList.isPrefixOf (s ++ rest) = "!--".toList.isPrefixOf s := by
    match s, h with
    | _ :: _ :: _ :: _, _ => rfl
  cases state with
  | outside => rw [next, next, hcomment]
  | comment n => rw [next, next, tagNameHere_append "script" s rest (Nat.le_of_succ_le h)]
  | nested n => rw [next, next, closesHere_append "script" s rest h]

/-- A script is read up to the same end whatever follows. -/
theorem readScript_append (last rest : List Char) (hlast : 9 ≤ last.length) (s : List Char) :
    ∀ state, (readScript state s).2 = last → (readScript state (s ++ rest)).2 = last ++ rest := by
  induction s with
  | nil =>
      intro state h
      rw [← h] at hlast
      exact absurd hlast (by simp [readScript])
  | cons c s ih =>
      intro state h
      -- The state looks ahead too, but not beyond what is left when the script ends.
      have hlength := length_readScript (c :: s) state
      rw [h, List.length_cons] at hlength
      have hlong : 8 ≤ s.length := by omega
      rw [List.cons_append, readScript, closesHere_append "script" s rest hlong,
        state.next_append c s rest hlong]
      rw [readScript] at h
      split
      · next hclose =>
          rw [if_pos hclose] at h
          rw [← h]
          rfl
      · next hclose =>
          rw [if_neg hclose] at h
          exact ih _ h

/-- What is left of a text when the inside of a raw-text element is read. -/
def behindText (name : String) (s : List Char) : List Char :=
  if name = "script" then (readScript .outside s).2 else (readRaw name s).2

/-- Whether a raw text ends at the end tag of its element. -/
def isWholeText (tag : Tag) (s : List Char) : Bool :=
  behindText tag.name (s ++ printClose tag) = printClose tag

/-- A raw text that ends at its end tag does so whatever follows. -/
theorem behindText_append (tag : Tag) (s rest : List Char) (h : isWholeText tag s = true) :
    behindText tag.name (s ++ (printClose tag ++ rest)) = printClose tag ++ rest := by
  have hlength : tag.name.length + 3 = (printClose tag).length := by
    rw [printClose, List.length_append, List.length_cons, List.length_cons, List.length_singleton,
      String.length_toList]
  rw [isWholeText, decide_eq_true_eq, behindText] at h
  rw [behindText, ← List.append_assoc]
  split
  · next hscript =>
      rw [if_pos hscript] at h
      rw [hscript] at hlength
      exact readScript_append _ rest (Nat.le_of_eq hlength) _ _ h
  · next hscript =>
      rw [if_neg hscript] at h
      exact readRaw_append tag.name _ rest (Nat.le_of_eq hlength) _ h

end Html

end CiteRender
