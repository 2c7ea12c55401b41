import CiteRender.Proofs.Render.Blocks
import CiteRender.Proofs.Render.Lockstep
import CiteRender.Proofs.Render.Marking
import CiteRender.Proofs.Render.Survivors

/-!
# Rendering Again

A render reads the tree that it rewrites, so a second render reads what the
first has written. It sees the same blocks and the same keys if no marker holds
a marker or a block, and if nothing that is filled is in a block. Then it comes
to the same ledger, its markers show their texts already, and the body has its
mark. All it does is append one more list, behind the first, and the two lists
differ in the numbers of their elements only.

Blocks are scripts, and scripts of HTML have no elements in them. Those of other
vocabularies do, and without the second condition a second render may find
other entries in a block, or a list where it expects an entry.

## Main definitions

* `Document.KeepsApart`: Markers, placeholders and blocks are apart.

## Theorems

* `markersIn_fillOutermostIn`: Markers that hold no markers are all filled.
* `render_readsAlike`: A rendered document reads as its original.
* `fillMarkers_rendered`: Its markers show their texts.
* `markRendered_marked`: A mark that is there already.
* `number_referenceList`: Lists under different numbers.
* `render_again`: Two renders of one document.
-/

namespace CiteRender

open Node Document

/-- No marker of a document has a marker or a block in it, and no block has a marker or a
    placeholder in it. -/
structure Document.KeepsApart (document : Document) : Prop where
  markers : ∀ m ∈ markersIn document.nodes, ∀ e ∈ elementsIn m.children,
    e.tag.name ≠ "dt-cite" ∧ e.isBlock = false
  blocks : ∀ e ∈ elementsIn document.nodes, e.isBlock = true → ∀ x ∈ elementsIn e.children,
    x.tag.name ≠ "dt-cite" ∧ x.tag.name ≠ "dt-bibliography"

namespace Node

theorem markersIn_eq_nil (nodes : List (Node Nat))
    (h : ∀ e ∈ elementsIn nodes, e.tag.name ≠ "dt-cite") : markersIn nodes = [] := by
  rw [markersIn, List.filter_eq_nil_iff]
  exact fun e he => by simp [h e he]

/-- Markers that hold no markers are all filled, and there are no others. -/
theorem markersIn_fillOutermostIn (ledger : Ledger) (nodes : List (Node Nat))
    (hflat : ∀ m ∈ markersIn nodes, markersIn m.children = []) :
    markersIn (fillOutermostIn ledger nodes) = (markersIn nodes).map (Element.filled ledger) := by
  induction nodes using forestInduction with
  | nil => rfl
  | leaf node rest hleaf ih =>
      rw [markersIn_leaf node rest hleaf] at hflat ⊢
      rw [fillOutermostIn_leaf ledger node rest hleaf, markersIn_leaf node _ hleaf, ih hflat]
  | element label tag attributes contents children rest _ ihchildren ihrest =>
      let e : Element Nat := ⟨label, tag, attributes, contents, children⟩
      have hsplit : markersIn (.element label tag attributes contents children :: rest) = _ :=
        markersIn_element e rest
      rw [hsplit, List.forall_mem_append, List.forall_mem_append] at hflat
      have hrest := ihrest hflat.2.2
      have hchildren := ihchildren hflat.2.1
      have hname' : (e.filled ledger).tag.name = e.tag.name := rfl
      show markersIn (fillOutermostIn ledger (e.node :: rest)) =
        (markersIn (e.node :: rest)).map (Element.filled ledger)
      rw [fillOutermostIn_element, markersIn_element, markersIn_element, hrest, hname',
        List.map_append, List.map_append]
      by_cases hname : e.tag.name = "dt-cite"
      · -- A marker gives way to a text, and there were no markers to lose with the rest.
        have hnone : markersIn e.children = [] := hflat.1 e (by rw [if_pos hname]; simp)
        rw [if_pos hname, if_pos hname, hnone, List.map_singleton,
          e.filled_of_marker ledger hname]
        rfl
      · rw [if_neg hname, if_neg hname, Element.filled, if_neg hname]
        exact congrArg (fun markers => [] ++ (markers ++ _)) hchildren

end Node

section

variable {document : Document} (hapart : document.KeepsApart)

include hapart

/-- A block keeps what is in it when markers are filled. -/
theorem Document.KeepsApart.children_filled (ledger : Ledger) (e : Element Nat)
    (he : e ∈ elementsIn document.nodes) (hblock : e.isBlock = true) :
    (e.filled ledger).children = e.children := by
  have hname : e.tag.name ≠ "dt-cite" := by
    rw [e.name_of_isBlock hblock]
    decide
  rw [Element.filled, if_neg hname]
  exact fillOutermostIn_of_no_markers ledger e.children
    (markersIn_eq_nil _ fun x hx => (hapart.blocks e he hblock x hx).1)

/-- The blocks of a document have the same texts once it has been filled. -/
theorem Document.KeepsApart.blockTexts_filled (h : document.Numbered) (ledger : Ledger) (id : Nat) :
    blockTexts (appendToFirst "dt-bibliography" (referenceList ledger id).node
      (fillOutermostIn ledger document.nodes)) = blockTexts document.nodes := by
  have hnodup := nodup_fillOutermostIn ledger document h
  rw [blockTexts_appendToFirst ledger id _ hnodup fun x hx hblock => ?_,
    blockTexts_fillOutermostIn ledger document.nodes
      (fun m hm => blockTexts_eq_nil _ fun e he => (hapart.markers m hm e he).2)
      fun e he hblock => markersIn_eq_nil _ fun x hx => (hapart.blocks e he hblock x hx).1]
  -- A block of the filled tree is one of the document, with the same in it.
  rcases (mem_fillOutermostIn_iff ledger document.nodes h.nodup_nodes x).mp hx with ⟨e, he, -, rfl⟩
  have hblock' : e.isBlock = true := hblock
  rw [hapart.children_filled ledger e he hblock']
  exact fun y hy => (hapart.blocks e he hblock' y hy).2

/-- A document that is rendered with the default names reads as it did before. -/
theorem render_readsAlike (h : document.Numbered) (verbose : Bool) (ledger : Ledger)
    (hdone : ((Pipeline.standard {}).render verbose (document, ledger)).failure = none) :
    ReadsAlike {} document ((Pipeline.standard {}).render verbose (document, ledger)).state.1 := by
  rcases render_tree verbose document h ledger hdone with
    ⟨rendered, known, filled, body, hstate, -, hnumbered, hnodes, hbody, hrendered, -, hmarkers⟩
  rw [hstate]
  constructor
  · -- No block has a marker in it and no marker a block, so the texts of the blocks stay.
    have hblocks : blockTexts rendered.nodes = blockTexts document.nodes := by
      rw [hrendered, blockTexts_setAttribute_body filled hnumbered body hbody, hnodes]
      exact hapart.blockTexts_filled h known document.next
    rw [show document.select ({} : Config).bibliographyScript = _ from select_blocks document,
      show rendered.select ({} : Config).bibliographyScript = _ from select_blocks rendered]
    exact congrArg Except.ok hblocks.symm
  · -- A filled marker keeps the attribute that names its keys.
    have hkeys : (markersIn rendered.nodes).flatMap markerKeys =
        (markersIn document.nodes).flatMap markerKeys := by
      rw [hmarkers, markersIn_fillOutermostIn known document.nodes fun m hm =>
        markersIn_eq_nil _ fun e he => (hapart.markers m hm e he).1, List.flatMap_map]
      exact congrArg (List.flatMap · _) (funext fun m =>
        markerKeys_of_opensLike _ m (m.filled_opensLike known))
    rw [show document.select ({} : Config).citeTag = _ from select_cite document,
      show rendered.select ({} : Config).citeTag = _ from select_cite rendered]
    exact congrArg Except.ok hkeys.symm

end

/-- Ledgers that cite the same keys and have the same entries are one ledger. -/
theorem Ledger.eq_of_alike (ledger ledger' : Ledger)
    (h : Ledger.Alike (fun _ entry entry' => entry = entry') ledger ledger') : ledger = ledger' := by
  rcases ledger with ⟨cited, bibliography⟩
  rcases ledger' with ⟨cited', bibliography'⟩
  have hcited : cited = cited' := h.cited
  have hentries : bibliography = bibliography' :=
    Std.ExtTreeMap.ext_getElem? fun key => h.entries key
  rw [hcited, hentries]

/-- The markers of a rendered document show their texts, so filling them changes
    nothing. -/
theorem fillMarkers_rendered (ledger : Ledger) (document rendered : Document)
    (h : document.Numbered) (hrendered : rendered.Numbered)
    (hmarkers : markersIn rendered.nodes = markersIn (fillOutermostIn ledger document.nodes)) :
    fillMarkers ledger rendered (markersIn rendered.nodes) = rendered := by
  refine (fillMarkers_eq_self_iff ledger rendered hrendered _ List.filter_sublist).mpr
    fun m hm => ?_
  have hleft : m ∈ markersIn rendered.nodes := hm
  rw [hmarkers] at hleft
  rcases (mem_markersIn_iff _ m).mp hleft with ⟨hmem, hname⟩
  rcases (mem_fillOutermostIn_iff ledger document.nodes h.nodup_nodes m).mp hmem with
    ⟨e, -, -, rfl⟩
  rw [markerText_of_opensLike ledger _ e (e.filled_opensLike ledger),
    e.filled_of_marker ledger hname]
  rfl

/-! Marking. -/

theorem Attribute.set_set (attributes : List Attribute) (name value : String) :
    set (set attributes name value) name value = set attributes name value := by
  induction attributes with
  | nil => rw [set, set, if_pos ⟨rfl, rfl⟩]
  | cons a attributes ih =>
      rw [set]
      by_cases hset : a.space = .plain ∧ a.name = name
      · rw [if_pos hset, set, if_pos hset]
      · rw [if_neg hset, set, if_neg hset, ih]

/-- In some trees, the body of a number has an attribute with a value. -/
def BodyHas (name value : String) (body : Nat) (nodes : List (Node Nat)) : Prop :=
  ∀ e ∈ elementsIn nodes, e.tag.name = "body" → e.label = body →
    Attribute.set e.attributes name value = e.attributes

theorem setAttribute_bodyHas (document : Document) (h : document.Numbered) (body : Nat)
    (name value : String) :
    BodyHas name value body (document.setAttribute body name value).nodes := by
  refine forall_updateIn _ _ _ _ (fun e he hlabel => ⟨fun _ _ => Attribute.set_set .., ?_⟩)
    fun e _ hne _ hlabel => absurd hlabel hne
  -- What is in the body has other numbers.
  intro x hx _ hsame
  have hinside := mem_labelsOf _ x hx
  rw [hsame, ← hlabel] at hinside
  exact absurd hinside (label_not_mem_children document.nodes h.nodup_nodes e he)

theorem fillBibliography_bodyHas (ledger : Ledger) (document filled : Document)
    (h : document.Numbered) (hfilled : fillBibliography {} ledger document = .ok filled)
    (name value : String) (body : Nat) (hbody : BodyHas name value body document.nodes) :
    BodyHas name value body filled.nodes := by
  rw [fillBibliography_default ledger document h] at hfilled
  obtain rfl := Except.ok.inj hfilled
  rcases hfirst : (elementsIn document.nodes).find? fun e => e.tag.name = "dt-bibliography" with
    _ | placeholder
  · rw [hfirst]
    exact hbody
  · rw [hfirst]
    refine forall_updateIn _ _ _ _ (fun e he _ => ⟨hbody e he, fun x hx htag => ?_⟩)
      fun e he _ => hbody e he
    rw [Element.withChildren, elementsIn_append, List.mem_append] at hx
    rcases hx with hx | hx
    · exact hbody x (mem_elementsIn_of_mem_children _ e x he hx) htag
    · -- The list brings no body.
      exact absurd htag (name_of_mem_referenceList ledger _ x hx "body" (by simp) (by simp))

/-- Marking a body that has the mark already. -/
theorem markRendered_marked (document : Document) (h : document.Numbered) (id : Nat)
    (hfirst : (numbersOf "body" document.nodes).head? = some id)
    (hbody : BodyHas "distill-prerendered" "" id document.nodes) :
    Pipeline.markRendered {} document = { state := document } := by
  have hlabel := (label_body? document).trans hfirst
  rcases Option.map_eq_some_iff.mp hlabel with ⟨body, hfound, rfl⟩
  rcases document.mem_of_body? body hfound with ⟨hmem, hname⟩
  have hmarked := hbody body hmem hname rfl
  -- The same mark again changes nothing in the tree, and the body is not loose.
  have hsame : document.setAttribute body.label "distill-prerendered" "" = document := by
    have hnodes := updateIn_eq_self body.label (fun e =>
      { e with attributes := Attribute.set e.attributes "distill-prerendered" "" }) document.nodes
      fun e he hlabel => by
        rw [eq_of_label_eq document.nodes h.nodup_nodes e body he hmem hlabel, hmarked]
    have hloose := updateIn_of_not_mem body.label (fun e =>
      { e with attributes := Attribute.set e.attributes "distill-prerendered" "" }) document.loose
      (h.not_mem_loose _ (mem_labelsOf _ body hmem))
    rw [setAttribute, update, hnodes, hloose]
  rw [Pipeline.markRendered, mark, hfound]
  show Run.mk (document.setAttribute body.label "distill-prerendered" "") [] none = _
  rw [hsame]

/-! Lists. -/

theorem numberAll_listItems (ledger : Ledger) (keys : List String) (id id' n : Nat) :
    numberAll n ((listItems ledger id keys).map Element.node) =
      numberAll n ((listItems ledger id' keys).map Element.node) := by
  induction keys generalizing id id' n with
  | nil => rfl
  | cons key keys ih =>
      have hitem : (listItem ledger id key).node.number n =
          (listItem ledger id' key).node.number n := rfl
      rw [listItems, listItems, List.map_cons, List.map_cons, numberAll, numberAll, hitem,
        ih (id + 1) (id' + 1)]

/-- A list is the same under other numbers: numbering its elements anew gives one tree. -/
theorem number_referenceList (ledger : Ledger) (id id' n : Nat) :
    (referenceList ledger id).node.number n = (referenceList ledger id').node.number n := by
  have hitems := numberAll_listItems ledger ledger.cited (id + 1) (id' + 1) (n + 1)
  rw [referenceList, referenceList, Element.node, Element.node, number, number]
  dsimp only [Element.withChildren, Element.bare, numberAll]
  rw [hitems]

/-- A second extraction, from a document that reads as the first, gives the ledger of the
    first. -/
theorem extract_again (verbose verbose' : Bool) (document rendered : Document)
    (bibliography : Bibliography) (hread : ReadsAlike {} document rendered)
    (hdone : ((Pipeline.standard {}).render verbose (document, { bibliography })).failure = none) :
    let extracted := runStages .extract verbose' rendered (Pipeline.standard {}).extractors
      { bibliography }
    extracted.failure = none ∧
      extracted.state = ((Pipeline.standard {}).render verbose (document, { bibliography })).state.2 := by
  have hfirst := extracted_of_render {} verbose document { bibliography } hdone
  have halike := extract_alike (R := fun _ entry entry' => entry = entry') (fun _ _ => rfl) {}
    verbose verbose' document rendered hread { bibliography } { bibliography } ⟨rfl, fun _ => rfl⟩
  refine ⟨halike.failure.symm.trans hfirst, ?_⟩
  rw [Pipeline.render_ledger]
  exact (Ledger.eq_of_alike _ _ halike.state).symm

/-- A render of a document whose markers show their texts and whose body has its mark. -/
theorem render_of_rendered (verbose : Bool) (rendered : Document) (h : rendered.Numbered)
    (bibliography : Bibliography) (known : Ledger) (body : Nat)
    (hextracted : (runStages .extract verbose rendered (Pipeline.standard {}).extractors
      { bibliography }).failure = none)
    (hknown : (runStages .extract verbose rendered (Pipeline.standard {}).extractors
      { bibliography }).state = known)
    (hshown : fillMarkers known rendered (markersIn rendered.nodes) = rendered)
    (hfirst : (numbersOf "body" rendered.nodes).head? = some body)
    (hbody : BodyHas "distill-prerendered" "" body rendered.nodes) :
    let run := (Pipeline.standard {}).render verbose (rendered, { bibliography })
    run.failure = none ∧ run.state.2 = known ∧
      markersIn run.state.1.nodes = markersIn rendered.nodes ∧
      run.state.1.nodes = appendToFirst "dt-bibliography"
        (referenceList known rendered.next).node rendered.nodes := by
  intro run
  have hsame : fillOutermostIn known rendered.nodes = rendered.nodes := by
    rw [← fillMarkers_nodes known rendered h, hshown]
  rcases render_outcome verbose rendered h { bibliography } with
    ⟨error, hfailed, -⟩ | ⟨-, again, hfilled, hfailure, hstate⟩
  · exact absurd (hextracted.symm.trans hfailed) (by simp)
  · rw [hknown] at hfilled hstate
    rcases fillBibliography_nodes known rendered again h hfilled with ⟨hnumbered, hnodes⟩
    have hmarkers := (markersIn_fillBibliography known rendered again h hfilled).1
    rw [hshown] at hfilled
    -- The list leaves the body first, and its mark on it.
    have hmarked : Pipeline.markRendered {} again = { state := again } := by
      refine markRendered_marked again hnumbered body ?_
        (fillBibliography_bodyHas known rendered again h hfilled _ _ body hbody)
      rw [fillBibliography_numbersOf known rendered again h hfilled "body" (by simp) (by simp)]
      exact hfirst
    rw [hmarked] at hfailure hstate
    rw [hsame] at hnodes hmarkers
    exact ⟨hfailure, by rw [hstate], by rw [hstate]; exact hmarkers, by rw [hstate]; exact hnodes⟩

/-- Rendering again is stable. Of a document whose markers, placeholders and blocks are
    apart, a first render with the default names may succeed. Then a second render of
    what it leaves, that begins with the same bibliography and no citations either,
    succeeds as well. It comes to the same ledger, it leaves the markers as they are, and
    all it does to the document is to append to the first placeholder, if there is one,
    one more list, which is the one that the first render appended but for the numbers of
    its elements. -/
theorem render_again (document : Document) (h : document.Numbered) (hapart : document.KeepsApart)
    (bibliography : Bibliography) (verbose verbose' : Bool)
    (hdone : ((Pipeline.standard {}).render verbose (document, { bibliography })).failure = none) :
    let first := (Pipeline.standard {}).render verbose (document, { bibliography })
    let again := (Pipeline.standard {}).render verbose' (first.state.1, { bibliography })
    let list (id : Nat) := (referenceList first.state.2 id).node
    again.failure = none ∧ again.state.2 = first.state.2 ∧
      markersIn again.state.1.nodes = markersIn first.state.1.nodes ∧
      again.state.1.nodes =
        appendToFirst "dt-bibliography" (list first.state.1.next) first.state.1.nodes ∧
      ((list first.state.1.next).number 0).1 = ((list document.next).number 0).1 ∧
      ∃ (filled : Document) (body : Nat),
        filled.nodes = appendToFirst "dt-bibliography" (list document.next)
          (fillOutermostIn first.state.2 document.nodes) ∧
        first.state.1 = filled.setAttribute body "distill-prerendered" "" := by
  intro first again list
  -- The second extraction reads what the first one read.
  have hread := render_readsAlike hapart h verbose { bibliography } hdone
  have hextracted := extract_again verbose verbose' document _ bibliography hread hdone
  rcases render_tree verbose document h { bibliography } hdone with
    ⟨rendered, known, filled, body, hstate, -, hnumbered, hnodes, hbody, hrendered, -, hmarkers⟩
  rw [hstate] at hextracted
  -- The body is still the first of its name, and it has its mark.
  have hnumbered' : rendered.Numbered := by
    rw [hrendered]
    exact setAttribute_numbered filled hnumbered _ _ _
  have hfirst : (numbersOf "body" rendered.nodes).head? = some body.label := by
    rw [hrendered, setAttribute_numbersOf, numbersOf, ← label_body?, hbody]
    rfl
  have hmarked : BodyHas "distill-prerendered" "" body.label rendered.nodes := by
    rw [hrendered]
    exact setAttribute_bodyHas filled hnumbered _ _ _
  have hagain := render_of_rendered verbose' rendered hnumbered' bibliography known body.label
    hextracted.1 hextracted.2 (fillMarkers_rendered known document rendered h hnumbered' hmarkers)
    hfirst hmarked
  have hlists := congrArg Prod.fst (number_referenceList known rendered.next document.next 0)
  have hfirst_state : first.state = (rendered, known) := hstate
  simp only [again, list, hfirst_state]
  exact ⟨hagain.1, hagain.2.1, hagain.2.2.1, hagain.2.2.2, hlists, filled, body.label, hnodes,
    hrendered⟩

/-- An article with a block, a marker that has a text already, and a place for the list. -/
theorem render_again_article :
    let article := Document.parse
      ("<script type=text/bibliography>@misc\x7ba, title=1\x7d</script>" ++
        "<dt-cite key=a>old</dt-cite><dt-bibliography></dt-bibliography>")
    let first := (Pipeline.standard {}).render false (article, {})
    let again := (Pipeline.standard {}).render true (first.state.1, {})
    let list (id : Nat) := (referenceList first.state.2 id).node
    again.failure = none ∧ again.state.2 = first.state.2 ∧
      markersIn again.state.1.nodes = markersIn first.state.1.nodes ∧
      again.state.1.nodes =
        appendToFirst "dt-bibliography" (list first.state.1.next) first.state.1.nodes ∧
      ((list first.state.1.next).number 0).1 = ((list article.next).number 0).1 ∧
      ∃ (filled : Document) (body : Nat),
        filled.nodes = appendToFirst "dt-bibliography" (list article.next)
          (fillOutermostIn first.state.2 article.nodes) ∧
        first.state.1 = filled.setAttribute body "distill-prerendered" "" :=
  render_again _ (Document.parse_numbered _) ⟨by decide +kernel, by decide +kernel⟩ ∅ false true
    (by decide +kernel)

/-- Blocks of another vocabulary with elements in them. In the first a marker holds the
    entry, and filling it leaves nothing for a second render to read; in the second the
    placeholder gets a list that a second render cannot read. -/
theorem render_again_in_blocks :
    let first (html : String) := (Pipeline.standard {}).render false (Document.parse html, {})
    let again (html : String) := (Pipeline.standard {}).render false ((first html).state.1, {})
    let citing := "<svg><script type=text/bibliography>" ++
      "<dt-cite key=a>@misc\x7ba, title=1\x7d</dt-cite></script></svg>"
    let listing := "<svg><script type=text/bibliography>@misc\x7ba, title=\x7bx@y\x7d\x7d" ++
      "<dt-bibliography></dt-bibliography></script></svg><dt-cite key=a></dt-cite>"
    (∀ html ∈ [citing, listing],
      (markersIn (Document.parse html).nodes).all (fun m => (elementsIn m.children).isEmpty) ∧
        (first html).failure = none) ∧
      (first citing).state.2.bibliography.size = 1 ∧
      (again citing).state.2.bibliography.size = 0 ∧
      (again listing).failure.isSome := by
  decide +kernel

end CiteRender
