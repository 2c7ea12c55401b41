import CiteRender.Proofs.Document.Edits
import CiteRender.Proofs.Html.TagPair

/-!
# Created Elements

An element is created by parsing a pair of its tags as a document and taking
what a selector of that name finds there. Whether something is found, and what
is in it, is up to the parser. Here this is settled for every name.

Three things stand in the way of a bare element. The parser drops the tags of
table parts and frames, which have no place in a body, and renames `image`, so
nothing is found. The `html` element comes with a head and a body, and
`plaintext` has no end tag, so the one that was written is its text. And the
name of an element of SVG or MathML is looked for as it was written, while the
parser has lowered it, so `SVG` does not find its own element.

The names that the rules of the parser mention are gone through one by one, in
a single check of a list. All other names take one way through the rules.

## Main definitions

* `Document.isBuildable`: Whether an element can be created.
* `Document.built`, `Document.builtChildren`: A created element, and what is in it.
* `Document.isFoundBy`: Whether a name finds an element.

## Theorems

* `Css.readSelectors_tagName`: The name of a tag is a selector.
* `isPlain_of_mem`: The names that the rules mention.
* `parsedElement?_number`: What is found for every name of a tag.
* `createElement_eq`: What creating an element does.
* `createElement_built`: What is created, and that all else stays.
-/

namespace CiteRender

open Html Node

/-! The selector that a name of a tag is. -/

namespace Css

/-- A name that stands alone is read to its end. -/
theorem readNameWith_plain (fuel : Nat) :
    ∀ s : List Char, s.length < fuel → (∀ c ∈ s, isNameChar c = true) →
      readNameWith fuel s = (s, []) := by
  induction fuel with
  | zero => exact fun _ h => absurd h (Nat.not_lt_zero _)
  | succ fuel ih =>
      intro s hlength hs
      cases s with
      | nil => rfl
      | cons c s =>
          rw [List.forall_mem_cons] at hs
          rw [readNameWith, if_pos hs.1, ih s (Nat.lt_of_succ_lt_succ hlength) hs.2]

theorem isNameChar_of_isTagName {tag : List Char} (htag : Document.isTagName tag = true) :
    ∀ c ∈ tag, isNameChar c = true := by
  intro c hc
  rw [Document.isTagName, Bool.and_eq_true, List.all_eq_true] at htag
  rcases Bool.or_eq_true_iff.mp (htag.2 c hc) with h | h <;> simp [isNameChar, h]

/-- The name of a tag is one token. -/
theorem tokens_tagName {tag : List Char} (htag : Document.isTagName tag = true) :
    tokens tag = [.name tag] := by
  have hname := readNameWith_plain (tag.length + 1) tag (Nat.lt_succ_self _)
    (isNameChar_of_isTagName htag)
  rcases exists_of_isTagName htag with ⟨c, rest, rfl, hc⟩
  have hne (d : Char) (hd : d.isAlpha = false) : c ≠ d := by
    rintro rfl
    rw [hc] at hd
    exact absurd hd (by decide)
  -- A letter begins a name and nothing else, so every other kind of token is ruled out.
  have hstart : startsName (c :: rest) = true := by
    rw [startsName]
    · simp [isNameStart, hc]
    · exact hne '-' (by decide)
    · exact hne '\\' (by decide)
  have hdigit : startsUnsigned (c :: rest) = false := by
    rw [startsUnsigned]
    · exact Text.isDigit_of_isAlpha c hc
    · exact fun _ _ hdot _ => hne '.' (by decide) hdot
  have hread : readToken c rest = (.name (c :: rest), []) := by
    rw [readToken, if_neg (by simp [hne '"' (by decide), hne '\x27' (by decide)]),
      if_neg (hne '#' (by decide)), if_neg (by simp [hne '+' (by decide)]),
      if_neg (by simp [hne '-' (by decide)]), if_neg (by simp [hdigit]),
      if_neg (by simp [(hne '-' (by decide)).symm]), if_pos hstart, readNamed, readName, hname]
  have hblank : isBlank c = false := by
    simp [isBlank, hne ' ' (by decide), hne '\t' (by decide), hne '\n' (by decide),
      hne '\r' (by decide), hne '\x0c' (by decide)]
  rw [tokens, tokensWith, if_neg (by simp [hblank])]
  · rw [hread]
    rfl
  · exact fun _ hslash _ => hne '/' (by decide) hslash

/-- The name of a tag is a selector for elements of that name. -/
theorem readSelectors_tagName {tag : List Char} (htag : Document.isTagName tag = true) :
    readSelectors tag = some [.compound [.named tag]] := by
  rw [readSelectors, tokens_tagName htag]
  rfl

end Css

namespace Document

/-! What is built. -/

/-- A name in lower case. -/
def lowered (tag : String) : String :=
  String.ofList (Text.lower tag.toList)

/-- The elements that have no place in a body, less `head`, and the one that is
    renamed there. -/
def unplacedNames : List String :=
  ["caption", "col", "colgroup", "frame", "image", "tbody", "td", "tfoot", "th", "thead", "tr"]

/-- The vocabulary that the tag of a name in lower case opens. -/
def vocabularyOf (name : String) : Space :=
  if name = "svg" then .svg else if name = "math" then .mathml else .html

/-- Whether an element can be created. The name of one that is not of HTML is
    looked for as it is written, and so has to be written in lower case. -/
def isBuildable (tag : String) : Bool :=
  isTagName tag.toList && !unplacedNames.contains (lowered tag) &&
    (vocabularyOf (lowered tag) = .html || lowered tag = tag)

/-- What is in a created element. -/
def builtChildren (tag : String) : List (Node Unit) :=
  if lowered tag = "html" then
    [.element () (.html "head") [] [] [], .element () (.html "body") [] [] []]
  else if lowered tag = "plaintext" then [.text ("</" ++ tag ++ ">")]
  else []

/-- A created element. -/
def built (tag : String) : Node Unit :=
  .element () ⟨vocabularyOf (lowered tag), lowered tag⟩ [] [] (builtChildren tag)

/-- Whether a name finds an element. -/
def isFoundBy (tag : String) (e : Element Nat) : Bool :=
  e.tag.name = if e.tag.space = .html then lowered tag else tag

theorem anyMatches_tagName (tag : String) (s : Css.Spot Nat) :
    Css.anyMatches [.compound [.named tag.toList]] s = isFoundBy tag s.element := by
  by_cases hspace : s.element.tag.space = .html
  · simp [Css.anyMatches, Css.Complex.matches, Css.allMatch, Css.Simple.matches, Css.nameOn,
      Css.isHtml, isFoundBy, lowered, hspace, ← String.toList_inj]
  · simp [Css.anyMatches, Css.Complex.matches, Css.allMatch, Css.Simple.matches, Css.nameOn,
      Css.isHtml, isFoundBy, hspace, String.toList_inj]

/-- The parsed element is the first of the name among those of the two tags. -/
theorem parsedElement?_eq (tag : String) (htag : isTagName tag.toList = true) :
    parsedElement? tag =
      (elementsIn (numberAll 0 (Html.parse (tagPair tag.toList))).1).find? (isFoundBy tag) := by
  have htext : ("<" ++ tag ++ "></" ++ tag ++ ">").toList = tagPair tag.toList := by
    simp [tagPair]
  rw [parsedElement?, selectFirst, select, Css.readSelectors_tagName htag]
  dsimp only
  rw [matching_eq_filter _ _ _ (anyMatches_tagName tag), parse, htext]
  dsimp only [Except.map]
  rw [List.head?_filter]

/-- The elements of a pair of tags whose name is in lower case. -/
def pairElements (name : String) : List (Element Nat) :=
  elementsIn (numberAll 0 ((Builder.behindPair name).process .stop).nodes.trees).1

/-- Whether a pair of tags makes a bare element of its name, and no other of
    that name; or none at all, if the name has no place. -/
def isPlain (name : String) : Bool :=
  Builder.pairEnds name && (pairElements name).all (fun e => e.tag.space = .html) &&
    if unplacedNames.contains name then (pairElements name).all (fun e => e.tag.name ≠ name)
    else ((pairElements name).find? fun e => e.tag.name = name).any (Element.isBare name)

/-- The names of elements that are more than a bare element of HTML. -/
def oddNames : List String :=
  ["html", "plaintext", "math", "svg"]

/-- The names that the rules mention, one by one. -/
theorem isPlain_of_mem : ∀ name ∈ namesInRules, name ∉ oddNames → isPlain name = true := by
  decide +kernel

/-- In a document of HTML alone a name is looked for in lower case. -/
theorem find?_isFoundBy (tag : String) (elements : List (Element Nat))
    (h : ∀ e ∈ elements, e.tag.space = .html) :
    elements.find? (isFoundBy tag) = elements.find? fun e => e.tag.name = lowered tag := by
  rw [← List.head?_filter, ← List.head?_filter]
  refine congrArg List.head? (List.filter_congr fun e he => ?_)
  rw [isFoundBy, if_pos (h e he)]

/-- A document around one element has four elements. -/
theorem find?_treesAround (tag : String) (inner : Tag) (children : List (Node Unit))
    (hleaf : elementsIn (numberAll 4 children).1 = [])
    (hname : lowered tag ∉ ["html", "head", "body"]) :
    (elementsIn (numberAll 0 (treesAround inner children)).1).find? (isFoundBy tag) =
      [⟨3, inner, [], [], (numberAll 4 children).1⟩].find? (isFoundBy tag) := by
  simp only [List.mem_cons, List.not_mem_nil, or_false, not_or] at hname
  have hnot (name : String) (h : lowered tag ≠ name) (label : Nat) (children : List (Node Nat)) :
      isFoundBy tag ⟨label, .html name, [], [], children⟩ = false := by
    simp [isFoundBy, Tag.html, h.symm]
  simp only [treesAround, numberAll, number, elementsIn_element, hleaf, elementsIn_nil,
    List.append_nil, List.nil_append, List.find?_cons, hnot "html" hname.1,
    hnot "head" hname.2.1, hnot "body" hname.2.2]

section TagName

variable {tag : String} (htag : isTagName tag.toList = true) (n : Nat)

theorem built_of_bare (hodd : lowered tag ∉ oddNames) :
    built tag = .element () (.html (lowered tag)) [] [] [] := by
  simp only [oddNames, List.mem_cons, List.not_mem_nil, or_false, not_or] at hodd
  simp [built, builtChildren, vocabularyOf, hodd, Tag.html]

include htag

theorem isBuildable_of_bare (hodd : lowered tag ∉ oddNames) :
    isBuildable tag = !unplacedNames.contains (lowered tag) := by
  simp only [oddNames, List.mem_cons, List.not_mem_nil, or_false, not_or] at hodd
  simp [isBuildable, htag, vocabularyOf, hodd]

/-- A name that no rule mentions is that of a bare element. -/
theorem parsedElement?_unknown (hunknown : lowered tag ∉ namesInRules) :
    (parsedElement? tag).map (fun e => e.node.number n) = some ((built tag).number n) := by
  have hparse : Html.parse (tagPair tag.toList) = treesAround (.html (lowered tag)) [] :=
    (parse_tagPair htag (Builder.pairEnds_unknown hunknown)).trans (Builder.trees_unknown hunknown)
  have hodd : lowered tag ∉ oddNames := fun h => hunknown ((by decide : oddNames ⊆ namesInRules) h)
  have hname : lowered tag ∉ ["html", "head", "body"] := fun h =>
    hunknown ((by decide : ["html", "head", "body"] ⊆ namesInRules) h)
  have hfound : isFoundBy tag ⟨3, .html (lowered tag), [], [], []⟩ = true := by
    simp [isFoundBy, Tag.html]
  rw [parsedElement?_eq tag htag, hparse, find?_treesAround tag _ [] rfl hname, built_of_bare hodd]
  simp only [numberAll, List.find?_cons, hfound]
  rfl

/-- A name that some rule mentions is that of a bare element, or of none. -/
theorem parsedElement?_known (hodd : lowered tag ∉ oddNames) (hplain : isPlain (lowered tag) = true) :
    (parsedElement? tag).map (fun e => e.node.number n) =
      if unplacedNames.contains (lowered tag) then none else some ((built tag).number n) := by
  simp only [isPlain, Bool.and_eq_true] at hplain
  rcases hplain with ⟨⟨hends, hspace⟩, hfound⟩
  have hparse : (elementsIn (numberAll 0 (Html.parse (tagPair tag.toList))).1) =
      pairElements (lowered tag) := by
    rw [parse_tagPair htag hends]
    rfl
  rw [parsedElement?_eq tag htag, hparse, find?_isFoundBy tag _ fun e he => by
    simpa using List.all_eq_true.mp hspace e he]
  -- The names of the rules were gone through once, and what was found of each is used here.
  split at hfound
  · next hunplaced =>
      have hnone : (pairElements (lowered tag)).find? (fun e => e.tag.name = lowered tag) = none :=
        List.find?_eq_none.mpr fun e he => by simpa using List.all_eq_true.mp hfound e he
      rw [hnone, if_pos hunplaced, Option.map_none]
  · next hplaced =>
      rcases he : (pairElements (lowered tag)).find? (fun e => e.tag.name = lowered tag) with
        _ | ⟨label, name, attributes, contents, children⟩
      · rw [he] at hfound
        simp at hfound
      · rw [he, Option.any_some] at hfound
        simp only [Element.isBare, Bool.and_eq_true, decide_eq_true_eq, List.isEmpty_iff] at hfound
        rcases hfound with ⟨⟨⟨rfl, rfl⟩, rfl⟩, rfl⟩
        rw [he, if_neg hplaced, built_of_bare hodd]
        rfl

/-- An `html` element has the head and the body that the parser puts in. -/
theorem parsedElement?_html (hname : lowered tag = "html") :
    (parsedElement? tag).map (fun e => e.node.number n) = some ((built tag).number n) := by
  have hparse : Html.parse (tagPair tag.toList) = [.element () (.html "html") [] []
      [.element () (.html "head") [] [] [], .element () (.html "body") [] [] []]] := by
    refine (parse_tagPair htag ?_).trans ?_
    · rw [← lowered, hname]
      rfl
    · rw [← lowered, hname]
      rfl
  have hbuilt : built tag = .element () (.html "html") [] []
      [.element () (.html "head") [] [] [], .element () (.html "body") [] [] []] := by
    simp [built, builtChildren, vocabularyOf, hname, Tag.html]
  have hfound (children : List (Node Nat)) :
      isFoundBy tag ⟨0, .html "html", [], [], children⟩ = true := by
    simp [isFoundBy, Tag.html, hname]
  rw [parsedElement?_eq tag htag, hparse, hbuilt]
  simp only [numberAll, number, elementsIn_element, List.find?_cons, hfound]
  rfl

/-- A `plaintext` element has its end tag for text. -/
theorem parsedElement?_plaintext (hname : lowered tag = "plaintext") :
    (parsedElement? tag).map (fun e => e.node.number n) = some ((built tag).number n) := by
  have htext : String.ofList ('<' :: '/' :: (tag.toList ++ ['>'])) = "</" ++ tag ++ ">" := by
    simp [← String.toList_inj]
  have hparse := parse_tagPair_plaintext htag hname
  rw [htext] at hparse
  have hbuilt : built tag = .element () (.html "plaintext") [] [] [.text ("</" ++ tag ++ ">")] := by
    simp [built, builtChildren, vocabularyOf, hname, Tag.html]
  have hfound (children : List (Node Nat)) :
      isFoundBy tag ⟨3, .html "plaintext", [], [], children⟩ = true := by
    simp [isFoundBy, Tag.html, hname]
  rw [parsedElement?_eq tag htag, hparse, find?_treesAround tag _ _ rfl (by simp [hname]), hbuilt]
  simp only [List.find?_cons, hfound]
  rfl

/-- An element of another vocabulary is found if its name is in lower case. -/
theorem parsedElement?_foreign (hname : vocabularyOf (lowered tag) ≠ .html) :
    (parsedElement? tag).map (fun e => e.node.number n) =
      if lowered tag = tag then some ((built tag).number n) else none := by
  have hodd : lowered tag ∈ ["math", "svg"] := by
    rw [vocabularyOf] at hname
    split at hname
    · next hsvg => simp [hsvg]
    · split at hname
      · next hmath => simp [hmath]
      · exact absurd rfl hname
  -- Two names, and what is read of each comes by evaluation.
  have hends : ∀ name ∈ ["math", "svg"], Builder.pairEnds name = true ∧
      name ∉ ["html", "head", "body"] ∧ name ≠ "html" ∧ name ≠ "plaintext" := by
    decide +kernel
  have htrees : ∀ name ∈ ["math", "svg"], ((Builder.behindPair name).process .stop).nodes.trees =
      treesAround ⟨vocabularyOf name, name⟩ [] := by
    simp only [List.forall_mem_cons]
    exact ⟨rfl, rfl, fun _ h => absurd h List.not_mem_nil⟩
  rcases hends _ hodd with ⟨hends, hother, hhtml, hplaintext⟩
  have hparse : Html.parse (tagPair tag.toList) =
      treesAround ⟨vocabularyOf (lowered tag), lowered tag⟩ [] :=
    (parse_tagPair htag hends).trans (htrees _ hodd)
  have hbuilt : built tag = .element () ⟨vocabularyOf (lowered tag), lowered tag⟩ [] [] [] := by
    simp [built, builtChildren, hhtml, hplaintext]
  rw [parsedElement?_eq tag htag, hparse, find?_treesAround tag _ [] rfl hother, hbuilt]
  -- These elements are looked for by the name as it was written, capitals and all.
  by_cases hlower : lowered tag = tag
  · have hfound : isFoundBy tag ⟨3, ⟨vocabularyOf (lowered tag), lowered tag⟩, [], [], []⟩ = true := by
      simp [isFoundBy, hlower]
    simp only [numberAll, List.find?_cons, hfound, if_pos hlower]
    rfl
  · have hfound : isFoundBy tag ⟨3, ⟨vocabularyOf (lowered tag), lowered tag⟩, [], [], []⟩ = false := by
      simp [isFoundBy, hname, hlower]
    simp only [numberAll, List.find?_cons, hfound, if_neg hlower]
    rfl

end TagName

/-- The element that the parser makes of two tags, under new numbers. -/
theorem parsedElement?_number (tag : String) (htag : isTagName tag.toList = true) (n : Nat) :
    (parsedElement? tag).map (fun e => e.node.number n) =
      if isBuildable tag then some ((built tag).number n) else none := by
  by_cases hodd : lowered tag ∈ oddNames
  · -- Two of the odd names are of HTML, the other two are looked for as they are written.
    have hplaced : unplacedNames.contains (lowered tag) = false := by
      simpa using (by decide : ∀ name ∈ oddNames, name ∉ unplacedNames) _ hodd
    by_cases hspace : vocabularyOf (lowered tag) = .html
    · have hbuildable : isBuildable tag = true := by
        rw [isBuildable, htag, hplaced, hspace]
        rfl
      rw [if_pos hbuildable]
      simp only [oddNames, List.mem_cons, List.not_mem_nil, or_false] at hodd
      rcases hodd with hname | hname | hname | hname
      · exact parsedElement?_html htag n hname
      · exact parsedElement?_plaintext htag n hname
      all_goals
        rw [hname] at hspace
        exact absurd hspace (by decide)
    · have hbuildable : isBuildable tag = decide (lowered tag = tag) := by
        rw [isBuildable, htag, hplaced]
        simp [hspace]
      rw [parsedElement?_foreign htag n hspace, hbuildable]
      simp only [decide_eq_true_eq]
  · rw [isBuildable_of_bare htag hodd]
    by_cases hknown : lowered tag ∈ namesInRules
    · rw [parsedElement?_known htag n hodd (isPlain_of_mem _ hknown hodd)]
      cases unplacedNames.contains (lowered tag) <;> rfl
    · have hplaced : unplacedNames.contains (lowered tag) = false := by
        simpa using fun h => hknown ((by decide : unplacedNames ⊆ namesInRules) h)
      rw [parsedElement?_unknown htag n hknown, hplaced]
      rfl

/-- Creating an element puts what its tags make of it among the loose trees. -/
theorem createElement_eq (document : Document) (tag : String) :
    document.createElement tag =
      if isBuildable tag then
        .ok ({ document with
          loose := document.loose ++ [((built tag).number document.next).1]
          next := ((built tag).number document.next).2 }, document.next)
      else .error (.invalidTagName tag) := by
  rw [createElement]
  -- What is no name at all is refused before anything is parsed.
  by_cases htag : isTagName tag.toList = true
  · have hparsed := parsedElement?_number tag htag document.next
    rw [if_pos htag]
    by_cases hbuildable : isBuildable tag = true
    · rw [if_pos hbuildable] at hparsed ⊢
      rcases Option.map_eq_some_iff.mp hparsed with ⟨e, he, hnumber⟩
      rw [he]
      dsimp only
      rw [hnumber]
    · rw [if_neg hbuildable, Option.map_eq_none_iff] at hparsed
      rw [if_neg hbuildable, hparsed]
  · have hbuildable : ¬ isBuildable tag = true := by
      simp [isBuildable, htag]
    rw [if_neg htag, if_neg hbuildable]

/-- A new tree takes the next numbers. -/
theorem numbered_of_number (document : Document) (h : document.Numbered) (node : Node Unit) :
    { document with
      loose := document.loose ++ [(node.number document.next).1]
      next := (node.number document.next).2 : Document }.Numbered := by
  rcases (numbered_iff document).mp h with ⟨hnodup, hbelow⟩
  rcases numberAll_sorted [node] document.next with ⟨hle, hsorted, hbounds⟩
  rw [numberAll] at hle hsorted hbounds
  simp only [numberAll] at hle hsorted hbounds
  refine (numbered_iff _).mpr ?_
  have htrees : labelsOf (document.nodes ++ (document.loose ++ [(node.number document.next).1])) =
      labelsOf document.trees ++ labelsOf [(node.number document.next).1] := by
    rw [trees, ← List.append_assoc, labelsOf_append]
  rw [trees]
  dsimp only
  rw [htrees]
  -- The new numbers begin where the old ones end.
  constructor
  · refine List.nodup_append.mpr ⟨hnodup, hsorted.imp fun hlt => Nat.ne_of_lt hlt, ?_⟩
    rintro old hold new hnew rfl
    exact Nat.not_lt.mpr (hbounds old hnew).1 (hbelow old hold)
  · intro id hid
    rcases List.mem_append.mp hid with hold | hnew
    · exact Nat.lt_of_lt_of_le (hbelow id hold) hle
    · exact (hbounds id hnew).2

theorem builtChildren_eq_nil_iff (tag : String) :
    builtChildren tag = [] ↔ lowered tag ≠ "html" ∧ lowered tag ≠ "plaintext" := by
  rw [builtChildren]
  split
  · next h => simp [h]
  · split
    · next h => simp [h]
    · next hhtml hplaintext => simp [hhtml, hplaintext]

/-- What creating an element gives for every name. -/
theorem createElement_built (document : Document) (h : document.Numbered) (tag : String) :
    (isBuildable tag = true → ∃ (made : Document) (e : Element Nat),
      document.createElement tag = .ok (made, e.label) ∧
      made.nodes = document.nodes ∧ made.loose = document.loose ++ [e.node] ∧ made.Numbered ∧
      e.label ∉ labelsOf document.trees ∧ made.element? e.label = some e ∧
      e.tag = ⟨vocabularyOf (lowered tag), lowered tag⟩ ∧ e.attributes = [] ∧ e.contents = [] ∧
      e.children = (numberAll (e.label + 1) (builtChildren tag)).1 ∧
      (e.children = [] ↔ lowered tag ≠ "html" ∧ lowered tag ≠ "plaintext")) ∧
    (isBuildable tag = false → document.createElement tag = .error (.invalidTagName tag)) := by
  rw [createElement_eq]
  constructor
  · intro hbuildable
    rw [if_pos hbuildable]
    have hmade := numbered_of_number document h (built tag)
    refine ⟨_, ⟨document.next, ⟨vocabularyOf (lowered tag), lowered tag⟩, [], [],
      (numberAll (document.next + 1) (builtChildren tag)).1⟩, rfl, rfl, rfl, hmade, ?_, ?_, rfl, rfl,
      rfl, rfl, ?_⟩
    · -- The number of the new element is the next one, which was free.
      intro hmem
      exact Nat.lt_irrefl _ (((numbered_iff document).mp h).2 _ hmem)
    · refine element?_of_mem _ hmade ⟨document.next, _, _, _, _⟩ ?_
      rw [trees, elementsIn_append, elementsIn_append]
      exact List.mem_append_right _ (List.mem_append_right _ (List.mem_cons_self ..))
    · rw [← builtChildren_eq_nil_iff]
      cases builtChildren tag <;> simp [numberAll]
  · intro hbuildable
    rw [if_neg (by simp [hbuildable])]

/-- A name in capitals gives an element with the name in small letters. -/
theorem createElement_built_capitals :
    (parse "<p>").Numbered ∧ isBuildable "Distill-Header" = true ∧
      ∃ (made : Document) (e : Element Nat),
        (parse "<p>").createElement "Distill-Header" = .ok (made, e.label) ∧
          made.nodes = (parse "<p>").nodes ∧ e.tag = .html "distill-header" ∧ e.children = [] := by
  have hbuildable : isBuildable "Distill-Header" = true := by decide
  have hnumbered := parse_numbered "<p>"
  rcases (createElement_built (parse "<p>") hnumbered "Distill-Header").1 hbuildable with
    ⟨made, e, hcreated, hnodes, -, -, -, -, htag, -, -, -, hchildren⟩
  exact ⟨hnumbered, hbuildable, made, e, hcreated, hnodes, htag, hchildren.mpr (by decide)⟩

/-- The parser has no place for a row outside a table. -/
theorem createElement_refuses_row : isTagName "tr".toList = true ∧
    (parse "").createElement "tr" = .error (.invalidTagName "tr") := by
  have hbuildable : ¬ isBuildable "tr" = true := by decide
  refine ⟨by decide, ?_⟩
  rw [createElement_eq, if_neg hbuildable]

end Document

end CiteRender
