import CiteRender.Proofs.Html.Parts

/-!
# Reading a Pair of Tags

What the parser makes of a start tag and an end tag with nothing between them
and nothing around them. The tags are read in lower case, so the trees depend
on the lowered name alone, however it was written. Behind the start tag the
parser may be in a raw text, which ends at once as the end tag is its own; only
`plaintext` has no end, and takes the end tag for text.

The rules name about a hundred elements. A name that none of them mentions
goes one way through all the rules, which is followed here step by step with
the name left open; those that are mentioned are finitely many closed cases.

## Main definitions

* `Html.tagPair`: A start tag and an end tag of one name.
* `Html.Builder.behindStart`, `Html.Builder.behindPair`: The state behind them.
* `Html.namesInRules`: The names that the rules mention.

## Theorems

* `run_tagPair`: What reading the two tags amounts to.
* `parse_tagPair`: The trees of a pair of tags, unless it is `plaintext`.
* `parse_tagPair_plaintext`: The trees of a pair of `plaintext` tags.
* `behindPair_unknown`: The state behind a pair that no rule mentions.
-/

namespace CiteRender

namespace Html

/-- A start tag and an end tag of a name, with nothing between them. -/
def tagPair (tag : List Char) : List Char :=
  '<' :: (tag ++ '>' :: '<' :: '/' :: (tag ++ ['>']))

/-! Names of tags. -/

section TagName

variable {tag : List Char} (htag : Document.isTagName tag = true)

include htag

/-- A character that is no letter, digit or hyphen is not in the name of a tag. -/
theorem ne_of_isTagName (d : Char) (hd : (d.isAlphanum || d == '-') = false) : ∀ c ∈ tag, c ≠ d := by
  rintro c hc rfl
  rw [Document.isTagName, Bool.and_eq_true, List.all_eq_true] at htag
  exact absurd (htag.2 c hc) (by simp [hd])

theorem endsTagName_of_isTagName : ∀ c ∈ tag, endsTagName c = false := by
  intro c hc
  have hne (d : Char) (hd : (d.isAlphanum || d == '-') = false) : c ≠ d :=
    ne_of_isTagName htag d hd c hc
  simp [endsTagName, isSpace, hne ' ' (by decide), hne '\t' (by decide), hne '\n' (by decide),
    hne '\x0c' (by decide), hne '\r' (by decide), hne '/' (by decide), hne '>' (by decide)]

theorem exists_of_isTagName : ∃ c rest, tag = c :: rest ∧ c.isAlpha = true := by
  rw [Document.isTagName, Bool.and_eq_true] at htag
  cases tag with
  | nil => exact absurd htag.1 (by simp)
  | cons c rest => exact ⟨c, rest, rfl, by simpa using htag.1⟩

/-- The name of a tag is kept in lower case. -/
theorem nameText_of_isTagName : nameText tag = String.ofList (Text.lower tag) := by
  have hnul : replaceNul tag = tag := by
    refine (List.map_congr_left fun c hc => ?_).trans (List.map_id tag)
    rw [if_neg (ne_of_isTagName htag '\x00' (by decide) c hc), id]
  rw [nameText, hnul]

theorem readTag_tagName (rest : List Char) :
    readTag (tag ++ '>' :: rest) = some (⟨String.ofList (Text.lower tag), [], false⟩, rest) := by
  have hread := readTag_write tag rest [] (endsTagName_of_isTagName htag)
    (fun _ h => absurd h List.not_mem_nil)
  rw [nameText_of_isTagName htag] at hread
  simpa [writeAttributes, firstOfEachName] using hread

end TagName

/-! The text of the two tags. -/

/-- Whether the end tag of a name ends a text. -/
def TextMode.isEndedBy (name : String) : TextMode → Bool
  | .markup => true
  | .withReferences other => other = name
  | .raw other => other = name
  | .script => name = "script"
  | .plain => false

namespace Builder

/-- The state behind a start tag that begins a document. -/
def behindStart (name : String) : Builder :=
  ({} : Builder).process (.start { name })

/-- The state behind a pair of tags that makes a document. -/
def behindPair (name : String) : Builder :=
  { ({ behindStart name with textMode := .markup, readsAnew := false } : Builder).process
      (.close name) with readsAnew := false }

/-- Whether the text behind a start tag ends with the end tag, and no other text
    begins there. -/
def pairEnds (name : String) : Bool :=
  (behindStart name).textMode.isEndedBy name && (behindPair name).textMode = .markup

end Builder

/-- The end tag of a name stands where it stands in any letter case. -/
theorem closesHere_endTag (tag : List Char) :
    closesHere (String.ofList (Text.lower tag)) ('/' :: (tag ++ ['>'])) = true := by
  have hlength : (String.ofList (Text.lower tag)).length = tag.length := by
    rw [String.length_ofList, Text.lower, List.length_map]
  rw [closesHere, tagNameHere, beginsWith, hlength, List.take_left, List.drop_left]
  simp [endsTagName]

theorem readRaw_endTag (tag : List Char) :
    readRaw (String.ofList (Text.lower tag)) ('<' :: '/' :: (tag ++ ['>'])) =
      ([], '<' :: '/' :: (tag ++ ['>'])) := by
  rw [readRaw, if_pos ⟨rfl, closesHere_endTag tag⟩]

/-- A text ends at once at its end tag, which is read as markup. -/
theorem Builder.run_text (b : Builder) (fuel : Nat) (tag : List Char)
    (h : b.textMode.isEndedBy (String.ofList (Text.lower tag)) = true) (hmarkup : b.textMode ≠ .markup) :
    run (fuel + 1) b ('<' :: '/' :: (tag ++ ['>'])) =
      run fuel { b with textMode := .markup } ('<' :: '/' :: (tag ++ ['>'])) := by
  rw [run]
  -- Each of the texts looks for its end tag before it takes a character.
  rcases hmode : b.textMode with _ | other | other | _ | _
  · exact absurd hmode hmarkup
  · rw [hmode, TextMode.isEndedBy, decide_eq_true_eq] at h
    subst h
    dsimp only
    rw [readRaw_endTag tag]
    rfl
  · rw [hmode, TextMode.isEndedBy, decide_eq_true_eq] at h
    subst h
    dsimp only
    rw [readRaw_endTag tag]
    rfl
  · rw [hmode, TextMode.isEndedBy, decide_eq_true_eq] at h
    have hcloses := closesHere_endTag tag
    rw [h] at hcloses
    dsimp only
    rw [readScript, if_pos ⟨rfl, rfl, hcloses⟩]
    rfl
  · rw [hmode] at h
    exact absurd h (by simp [TextMode.isEndedBy])

section TagName

variable {tag : List Char} (htag : Document.isTagName tag = true)

include htag

theorem readTokens_startTag (inForeign : Bool) (rest : List Char) :
    readTokens inForeign ('<' :: (tag ++ '>' :: rest)) =
      some ([.start { name := String.ofList (Text.lower tag) }], rest) := by
  have hread := readTag_tagName htag rest
  rcases exists_of_isTagName htag with ⟨c, name, rfl, hc⟩
  rw [List.cons_append] at hread ⊢
  rw [readTokens, readAngle_letter inForeign c _ hc]
  rw [readStartTag, hread]
  rfl

theorem readTokens_endTag (inForeign : Bool) :
    readTokens inForeign ('<' :: '/' :: (tag ++ ['>'])) =
      some ([.close (String.ofList (Text.lower tag))], []) := by
  have hread := readTag_tagName htag []
  rcases exists_of_isTagName htag with ⟨c, name, rfl, hc⟩
  rw [List.cons_append] at hread ⊢
  rw [readTokens, readAngle, readClose]
  · rw [if_pos hc, readEndTag, hread]
    rfl
  · rintro rfl
    exact absurd hc (by decide)

/-- Behind the end tag nothing is left to read. -/
theorem Builder.run_endTag (b : Builder) (fuel : Nat) (hmarkup : b.textMode = .markup)
    (hclosed : (b.process (.close (String.ofList (Text.lower tag)))).textMode = .markup) :
    run (fuel + 2) b ('<' :: '/' :: (tag ++ ['>'])) =
      { b.process (.close (String.ofList (Text.lower tag))) with readsAnew := false } := by
  have hrest (b : Builder) : b.restFor [] = [] := ite_self _
  rw [run, hmarkup]
  dsimp only
  rw [readTokens_endTag htag]
  dsimp only
  rw [List.foldl_cons, List.foldl_nil, hrest, run, hclosed]
  rfl

end TagName

/-! Names that no rule mentions. -/

/-- The names that some rule mentions, of those that apply to a pair of tags. -/
def namesInRules : List String :=
  ["html", "head", "body", "frameset", "image", "noscript", "pre", "listing", "form", "li", "dd",
    "dt", "plaintext", "table", "hr", "xmp", "a", "nobr", "button", "applet", "marquee", "object",
    "area", "br", "embed", "img", "keygen", "wbr", "input", "param", "source", "track", "textarea",
    "iframe", "noembed", "select", "option", "optgroup", "rb", "rtc", "rp", "rt", "math", "svg"] ++
  headNames ++ misplacedNames ++ blockNames ++ headingNames ++ formattingNames ++ blockCloseNames

/-- A document whose body has nothing but one element. -/
def treesAround (tag : Tag) (children : List (Node Unit)) : List (Node Unit) :=
  [.element () (.html "html") [] [] [.element () (.html "head") [] [] [],
    .element () (.html "body") [] [] [.element () tag [] [] children]]]

/-- The nodes of such a document while it is read, if the element is empty. -/
def cellsAround (name : String) : Scaffold :=
  #[{ kind := .root, children := [1] },
    { kind := .element (.html "html") [] none, parent := some 0, children := [2, 3] },
    { kind := .element (.html "head") [] none, parent := some 1 },
    { kind := .element (.html "body") [] none, parent := some 1, children := [4] },
    { kind := .element (.html name) [] none, parent := some 3 }]

namespace Builder

/-! The states that a tag passes through on its way into the body. -/

/-- The state once it is clear that there is no doctype. -/
def unrooted : Builder :=
  { mode := .beforeHtml, oldLayout := true }

/-- The state in a document that the text does not open. -/
def inImpliedRoot : Builder :=
  unrooted.openRoot { name := "html" }

/-- The state in a head that the text does not open. -/
def inImpliedHead : Builder :=
  inImpliedRoot.openHead { name := "head" }

/-- The state behind it. -/
def behindImpliedHead : Builder :=
  { inImpliedHead.pop with mode := .afterHead }

/-- The state in a body that the text does not open. -/
def inImpliedBody : Builder :=
  { behindImpliedHead.insertImplied "body" with mode := .inBody }

section Unknown

variable {name : String} (hname : name ∉ namesInRules)

include hname

theorem ne_of_unknown (other : String) (hother : other ∈ namesInRules) : name ≠ other :=
  fun heq => hname (heq ▸ hother)

theorem contains_of_unknown (names : List String) (h : names ⊆ namesInRules) :
    names.contains name = false := by
  simpa using fun hmem => hname (h hmem)

theorem process_start_unknown :
    ({} : Builder).process (.start { name }) = inImpliedBody.insert { name } := by
  have hne (other : String) (h : other ∈ namesInRules) := ne_of_unknown hname other h
  have hnot (names : List String) (h : names ⊆ namesInRules) := contains_of_unknown hname names h
  -- Each mode opens what the text has left out and passes the tag on, up to the body.
  have hroot : unrooted.rules (.start { name }) = .again inImpliedRoot :=
    if_neg (hne "html" (by decide))
  have hhead : inImpliedRoot.rules (.start { name }) = .again inImpliedHead := by
    show inImpliedRoot.beforeHead (.start { name }) = _
    simp only [beforeHead, if_neg (hne "html" (by decide)), if_neg (hne "head" (by decide))]
    rfl
  have hleave : inImpliedHead.rules (.start { name }) = .again behindImpliedHead := by
    show inImpliedHead.inHead (.start { name }) = _
    simp only [inHead, hne "html" (by decide), hnot headVoidNames (by decide),
      hne "title" (by decide), hnot ["noframes", "style", "noscript"] (by decide),
      hne "script" (by decide), hne "template" (by decide), hne "head" (by decide), if_false,
      Bool.false_eq_true]
    rfl
  have hbody : behindImpliedHead.rules (.start { name }) = .again inImpliedBody := by
    show behindImpliedHead.afterHead (.start { name }) = _
    simp only [afterHead, hne "html" (by decide), hne "body" (by decide),
      hne "frameset" (by decide), hnot headNames (by decide), hne "head" (by decide), if_false,
      Bool.false_eq_true]
    rfl
  have hinsert : inImpliedBody.rules (.start { name }) = .done (inImpliedBody.insert { name }) := by
    show inImpliedBody.bodyStart { name } = _
    have hblock : inImpliedBody.blockStart { name } = none := by
      simp only [blockStart, hnot blockNames (by decide), hnot headingNames (by decide),
        hnot ["pre", "listing"] (by decide), hne "form" (by decide), hne "li" (by decide),
        hnot ["dd", "dt"] (by decide), hne "plaintext" (by decide), hne "table" (by decide),
        hne "hr" (by decide), hne "xmp" (by decide), if_false, Bool.false_eq_true]
    have hinline : inImpliedBody.inlineStart { name } = none := by
      simp only [inlineStart, hne "a" (by decide), hnot formattingNames (by decide),
        hne "nobr" (by decide), hne "button" (by decide),
        hnot ["applet", "marquee", "object"] (by decide),
        hnot ["area", "br", "embed", "img", "keygen", "wbr"] (by decide), hne "input" (by decide),
        hnot ["param", "source", "track"] (by decide), hne "textarea" (by decide),
        hne "iframe" (by decide), hnot ["noembed", "noscript"] (by decide),
        hne "select" (by decide), hne "option" (by decide), hne "optgroup" (by decide),
        hnot ["rb", "rtc"] (by decide), hnot ["rp", "rt"] (by decide), hne "math" (by decide),
        hne "svg" (by decide), if_false, Bool.false_eq_true]
    simp only [bodyStart, hne "image" (by decide), hne "html" (by decide),
      hnot headNames (by decide), hne "body" (by decide), hne "frameset" (by decide),
      hnot misplacedNames (by decide), hblock, hinline, if_false, Bool.false_eq_true]
    rfl
  show apply (.start { name }) 32 ({} : Builder) = _
  rw [apply_again _ _ unrooted rfl rfl, apply_again _ _ inImpliedRoot rfl hroot,
    apply_again _ _ inImpliedHead rfl hhead, apply_again _ _ behindImpliedHead rfl hleave,
    apply_again _ _ inImpliedBody rfl hbody, apply_done _ _ _ rfl hinsert]

theorem insert_unknown : inImpliedBody.insert { name } =
    { inImpliedBody with nodes := cellsAround name, opened := [4, 3, 1] } := by
  have htemplate : (Tag.html name).isNamed "template" = false := by
    simp [Tag.isNamed, Tag.html, ne_of_unknown hname "template" (by decide)]
  rw [Builder.insert, openElement, addElement, Builder.createElement, htemplate, if_neg (by simp)]
  rfl

theorem behindStart_unknown : behindStart name =
    { inImpliedBody with nodes := cellsAround name, opened := [4, 3, 1] } :=
  (process_start_unknown hname).trans (insert_unknown hname)

/-- The end tag closes the element, and the body is open again. -/
theorem behindPair_unknown : behindPair name =
    { inImpliedBody with nodes := cellsAround name } := by
  have hne (other : String) (h : other ∈ namesInRules) := ne_of_unknown hname other h
  have hnot (names : List String) (h : names ⊆ namesInRules) := contains_of_unknown hname names h
  have hclose (b : Builder) : b.elementClose name = b.closeAny name := by
    simp only [elementClose, hne "template" (by decide), hnot blockCloseNames (by decide),
      hne "form" (by decide), hne "p" (by decide), hne "li" (by decide),
      hnot ["dd", "dt"] (by decide), hnot headingNames (by decide),
      hnot ("a" :: "nobr" :: formattingNames) (by decide),
      hnot ["applet", "marquee", "object"] (by decide), hne "br" (by decide), if_false,
      Bool.false_eq_true]
  have hself : (Tag.html name).isNamed name = true := by simp [Tag.isNamed, Tag.html]
  have hone : (Tag.html name).isOneOf [name] = true := by simp [Tag.isOneOf, Tag.html]
  rw [behindPair, behindStart_unknown hname]
  set opened : Builder := { inImpliedBody with nodes := cellsAround name, opened := [4, 3, 1] }
    with hopened
  -- The element of the name is the innermost one, so nothing else is closed with it.
  have hany : opened.closeAny name = { inImpliedBody with nodes := cellsAround name } := by
    have htag : opened.tag 4 = .html name := rfl
    have hfound : opened.findPlain name opened.opened = true := by
      show ((opened.tag 4).isNamed name || _) = true
      rw [htag, hself, Bool.true_or]
    rw [closeAny, if_pos hfound, closeUntil]
    show { opened with opened := (List.dropWhile _ (4 :: [3, 1])).drop 1 } = _
    rw [List.dropWhile_cons_of_neg (by rw [htag, hone]; simp)]
    rfl
  have hrules : opened.rules (.close name) = .done { inImpliedBody with nodes := cellsAround name } := by
    show opened.bodyClose name = _
    rw [bodyClose, if_neg (hne "body" (by decide)), if_neg (hne "html" (by decide)), hclose, hany]
  show { apply (.close name) (8 * 3 + 32) opened with readsAnew := false } = _
  rw [apply_done _ _ _ rfl hrules]
  rfl

theorem pairEnds_unknown : pairEnds name = true := by
  rw [pairEnds, behindStart_unknown hname, behindPair_unknown hname]
  rfl

/-- An element of a name that no rule mentions stands alone in the body. -/
theorem trees_unknown :
    ((behindPair name).process .stop).nodes.trees = treesAround (.html name) [] := by
  rw [behindPair_unknown hname]
  rfl

end Unknown

end Builder

/-- A text without blanks is one run. -/
theorem runs_text (c : Char) (s : List Char) (h : ∀ d ∈ c :: s, isSpace d = false ∧ d ≠ '\x00') :
    runs (c :: s) = [.text (c :: s)] := by
  induction s generalizing c with
  | nil =>
      rcases h c List.mem_cons_self with ⟨hspace, hnul⟩
      simp [runs, consRun, hspace, hnul]
  | cons d s ih =>
      rcases h c List.mem_cons_self with ⟨hspace, hnul⟩
      have hrest := ih d fun e he => h e (List.mem_cons_of_mem _ he)
      rw [runs] at hrest
      rw [runs, List.foldr_cons, hrest]
      simp [consRun, hspace, hnul]

/-! Trees. -/

section TagName

variable {tag : List Char} (htag : Document.isTagName tag = true)

include htag

theorem unifyLines_tagPair : unifyLines (dropMark (tagPair tag)) = tagPair tag := by
  have hreturn : '\r' ∉ tag := fun hmem => ne_of_isTagName htag '\r' (by decide) _ hmem rfl
  have hall : '\r' ∉ tagPair tag := by simp [tagPair, hreturn]
  have hmark : dropMark (tagPair tag) = tagPair tag := (isFrontText_angle _).dropMark
  have hunify := unifyLines_append_of_notMem (tagPair tag) [] hall
  rw [hmark]
  simpa [unifyLines] using hunify

/-- Behind the start tag, reading goes on with the end tag. -/
theorem run_tagPair (fuel : Nat) : Builder.run (fuel + 1) {} (tagPair tag) =
    Builder.run fuel { Builder.behindStart (String.ofList (Text.lower tag)) with readsAnew := false }
      ('<' :: '/' :: (tag ++ ['>'])) := by
  rw [tagPair, Builder.run]
  dsimp only
  rw [readTokens_startTag htag]
  dsimp only
  rw [List.foldl_cons, List.foldl_nil, Builder.restFor_frontText _ _ (isFrontText_angle _)]
  rfl

/-- The trees of a pair of tags depend on the lowered name alone, if the end
    tag ends what the start tag begins. -/
theorem parse_tagPair (hends : Builder.pairEnds (String.ofList (Text.lower tag)) = true) :
    parse (tagPair tag) =
      ((Builder.behindPair (String.ofList (Text.lower tag))).process .stop).nodes.trees := by
  rw [Builder.pairEnds, Bool.and_eq_true, decide_eq_true_eq] at hends
  have hfuel : ∃ fuel, 2 * (tagPair tag).length + 2 = fuel + 4 := by
    refine ⟨2 * (tagPair tag).length - 2, ?_⟩
    have hlength : 3 ≤ (tagPair tag).length := by
      simp only [tagPair, List.length_cons, List.length_append]
      omega
    omega
  rcases hfuel with ⟨fuel, hfuel⟩
  rw [parse, unifyLines_tagPair htag]
  rw [hfuel, run_tagPair htag]
  set start : Builder :=
    { Builder.behindStart (String.ofList (Text.lower tag)) with readsAnew := false } with hstart
  -- A text takes one step more than markup does, to find that it is empty.
  by_cases hmarkup : start.textMode = .markup
  · have hsame : { start with textMode := .markup } = start := by rw [← hmarkup]
    rw [Builder.run_endTag htag start (fuel + 1) hmarkup (hsame ▸ hends.2), ← hsame]
    rfl
  · rw [Builder.run_text start (fuel + 2) tag hends.1 hmarkup,
      Builder.run_endTag htag { start with textMode := .markup } fuel rfl hends.2]
    rfl

/-- A `plaintext` element takes the end tag for text. -/
theorem parse_tagPair_plaintext (hname : String.ofList (Text.lower tag) = "plaintext") :
    parse (tagPair tag) =
      treesAround (.html "plaintext") [.text (String.ofList ('<' :: '/' :: (tag ++ ['>'])))] := by
  have hplain : ∀ c ∈ '<' :: '/' :: (tag ++ ['>']), isSpace c = false ∧ c ≠ '\x00' := by
    intro c hc
    simp only [List.mem_cons, List.mem_append, List.not_mem_nil, or_false] at hc
    rcases hc with rfl | rfl | hc | rfl
    · decide
    · decide
    · have hends := endsTagName_of_isTagName htag c hc
      rw [endsTagName, Bool.or_eq_false_iff, Bool.or_eq_false_iff] at hends
      exact ⟨hends.1.1, ne_of_isTagName htag '\x00' (by decide) c hc⟩
    · decide
  have hnul : replaceNul ('<' :: '/' :: (tag ++ ['>'])) = '<' :: '/' :: (tag ++ ['>']) := by
    refine (List.map_congr_left fun c hc => ?_).trans (List.map_id _)
    rw [if_neg (hplain c hc).2, id]
  rw [parse, unifyLines_tagPair htag, run_tagPair htag, hname]
  -- No end tag ends this element, so the one that follows is text in it.
  have hmode : (Builder.behindStart "plaintext").textMode = .plain := rfl
  rw [Builder.run]
  dsimp only
  rw [hmode]
  dsimp only
  rw [hnul, runs_text _ _ hplain, List.foldl_cons, List.foldl_nil]
  generalize '<' :: '/' :: (tag ++ ['>']) = text
  refine Eq.trans (b := treesAround (.html "plaintext") [.text (String.ofList [text].flatten)]) rfl ?_
  rw [List.flatten_singleton]

end TagName

end Html

end CiteRender
