import CiteRender.Proofs.Render.Outermost

/-!
# Blocks and Edits

The script blocks that a bibliography is read from, and what a render does to
them. It is made to leave them alone, but a block of another vocabulary than
HTML can have elements in it, and then nothing keeps markers and placeholders out
of it. A block in a marker goes when the marker is filled, a marker in a block
changes the text of the block, and so does a list that is appended in one.

Where none of this is the case the blocks of the rendered document have the
texts they had in the original. The mark on the body does not matter, as texts
do not show attributes.

## Main definitions

* `Element.isBlock`: A script block, by tag and attributes.
* `blockTexts`: The texts of the blocks of some trees.

## Theorems

* `select_blocks`: The blocks are what the default selector finds.
* `blockTexts_fillOutermostIn`: Markers that are apart from blocks.
* `blockTexts_updateIn`: Changes that keep the texts of blocks.
* `blockTexts_appendToFirst`: Placeholders that are in no block.
* `blockTexts_setAttribute_body`: The mark on the body.
-/

namespace CiteRender

open Node Document

/-- Whether an element is a script block of a bibliography, which the default selector
    finds by its tag and attributes. -/
def Element.isBlock (e : Element Nat) : Bool :=
  e.tag.name = "script" &&
    Css.hasAttribute false "type".toList
      (.compares .equal "text/bibliography".toList .insensitiveInHtml) e

theorem Element.name_of_isBlock (e : Element Nat) (h : e.isBlock = true) :
    e.tag.name = "script" := by
  rw [isBlock, Bool.and_eq_true, decide_eq_true_iff] at h
  exact h.1

@[simp] theorem Element.isBlock_withChildren (e : Element Nat) (children : List (Node Nat)) :
    (e.withChildren children).isBlock = e.isBlock := rfl

/-- An element of another name is no block. -/
theorem Element.isBlock_of_name_ne (e : Element Nat) (h : e.tag.name ≠ "script") :
    e.isBlock = false :=
  Bool.eq_false_iff.mpr fun hblock => h (e.name_of_isBlock hblock)

/-- The default selector finds the blocks. -/
theorem select_blocks (document : Document) :
    document.select "script[type=\"text/bibliography\"]" =
      .ok ((elementsIn document.nodes).filter Element.isBlock) := by
  have hread : Css.readSelectors "script[type=\"text/bibliography\"]".toList =
      some [.compound [.named "script".toList, .hasAttribute false "type".toList
        (.compares .equal "text/bibliography".toList .insensitiveInHtml)]] := rfl
  rw [select, hread]
  dsimp only
  rw [document.matching_eq_filter _ Element.isBlock fun s => ?_]
  simp only [Css.anyMatches, Css.Complex.matches, Css.allMatch, Css.Simple.matches,
    nameOn_of_lower s.element "script" (by decide), String.toList_inj, Bool.and_true,
    Bool.or_false]
  rfl

namespace Node

/-- The texts of the blocks of some trees, in document order. -/
def blockTexts (nodes : List (Node Nat)) : List String :=
  ((elementsIn nodes).filter Element.isBlock).map Element.text

theorem blockTexts_leaf (node : Node Nat) (rest : List (Node Nat)) (h : node.asElement? = none) :
    blockTexts (node :: rest) = blockTexts rest := by
  rw [blockTexts, elementsIn_leaf node rest h, blockTexts]

theorem blockTexts_element (e : Element Nat) (rest : List (Node Nat)) :
    blockTexts (e.node :: rest) =
      (if e.isBlock then [e.text] else []) ++ (blockTexts e.children ++ blockTexts rest) := by
  rw [blockTexts, Element.node, elementsIn_element, List.filter_cons, List.filter_append]
  by_cases hblock : e.isBlock = true
  · rw [if_pos hblock, if_pos hblock, List.map_cons, List.map_append]
    rfl
  · rw [if_neg hblock, if_neg hblock, List.map_append]
    rfl

theorem blockTexts_append (nodes more : List (Node Nat)) :
    blockTexts (nodes ++ more) = blockTexts nodes ++ blockTexts more := by
  rw [blockTexts, elementsIn_append, List.filter_append, List.map_append, blockTexts, blockTexts]

theorem blockTexts_eq_nil (nodes : List (Node Nat))
    (h : ∀ e ∈ elementsIn nodes, e.isBlock = false) : blockTexts nodes = [] := by
  rw [blockTexts, List.map_eq_nil_iff, List.filter_eq_nil_iff]
  exact fun e he => by simp [h e he]

/-- Without markers there is nothing to fill. -/
theorem fillOutermostIn_of_no_markers (ledger : Ledger) (nodes : List (Node Nat))
    (h : markersIn nodes = []) : fillOutermostIn ledger nodes = nodes := by
  induction nodes using forestInduction with
  | nil => rfl
  | leaf node rest hleaf ih =>
      rw [markersIn_leaf node rest hleaf] at h
      rw [fillOutermostIn_leaf ledger node rest hleaf, ih h]
  | element label tag attributes contents children rest _ ihchildren ihrest =>
      let e : Element Nat := ⟨label, tag, attributes, contents, children⟩
      have hparts := (markersIn_element e rest).symm.trans h
      rw [List.append_eq_nil_iff, List.append_eq_nil_iff] at hparts
      have hname : e.tag.name ≠ "dt-cite" := fun hname => by simp [hname] at hparts
      show fillOutermostIn ledger (e.node :: rest) = e.node :: rest
      rw [fillOutermostIn_element, Element.filled, if_neg hname, ihchildren hparts.2.1,
        ihrest hparts.2.2]
      rfl

/-- Filling markers keeps the texts of blocks, if no marker has a block in it and no
    block a marker. -/
theorem blockTexts_fillOutermostIn (ledger : Ledger) (nodes : List (Node Nat))
    (hmarkers : ∀ m ∈ markersIn nodes, blockTexts m.children = [])
    (hblocks : ∀ e ∈ elementsIn nodes, e.isBlock = true → markersIn e.children = []) :
    blockTexts (fillOutermostIn ledger nodes) = blockTexts nodes := by
  induction nodes using forestInduction with
  | nil => rfl
  | leaf node rest hleaf ih =>
      rw [markersIn_leaf node rest hleaf] at hmarkers
      rw [elementsIn_leaf node rest hleaf] at hblocks
      rw [fillOutermostIn_leaf ledger node rest hleaf, blockTexts_leaf node _ hleaf,
        blockTexts_leaf node rest hleaf, ih hmarkers hblocks]
  | element label tag attributes contents children rest _ ihchildren ihrest =>
      let e : Element Nat := ⟨label, tag, attributes, contents, children⟩
      have hsplit : markersIn (.element label tag attributes contents children :: rest) = _ :=
        markersIn_element e rest
      rw [hsplit, List.forall_mem_append, List.forall_mem_append] at hmarkers
      rw [elementsIn_element, List.forall_mem_cons, List.forall_mem_append] at hblocks
      have hrest := ihrest hmarkers.2.2 hblocks.2.2
      show blockTexts (fillOutermostIn ledger (e.node :: rest)) = blockTexts (e.node :: rest)
      rw [fillOutermostIn_element, blockTexts_element, blockTexts_element, hrest]
      by_cases hname : e.tag.name = "dt-cite"
      · -- A marker is no block, and it has none to lose.
        have hgone : blockTexts children = [] := hmarkers.1 e (by rw [if_pos hname]; simp)
        have hno : e.isBlock = false := e.isBlock_of_name_ne (by rw [hname]; decide)
        rw [e.filled_of_marker ledger hname]
        show (if e.isBlock then _ else []) ++ (blockTexts [.text _] ++ _) = _
        rw [hno, show blockTexts e.children = [] from hgone]
        rfl
      · have hchildren := ihchildren hmarkers.2.1 hblocks.2.1
        rw [Element.filled, if_neg hname]
        by_cases hblock : e.isBlock = true
        · -- A block has no markers in it, so it is the same.
          rw [fillOutermostIn_of_no_markers ledger e.children (hblocks.1 hblock)]
          rfl
        · rw [Element.isBlock_withChildren, if_neg hblock, if_neg hblock]
          exact congrArg (fun texts => [] ++ (texts ++ blockTexts rest)) hchildren

/-- A change of an element that keeps its text keeps the text of all. -/
theorem textOfAll_updateIn (id : Nat) (f : Element Nat → Element Nat) (nodes : List (Node Nat))
    (hf : ∀ e, textOfAll (f e).children = textOfAll e.children) :
    textOfAll (updateIn id f nodes) = textOfAll nodes := by
  induction nodes using forestInduction with
  | nil => rfl
  | leaf node rest hleaf ih =>
      rw [updateIn_leaf id f node rest hleaf, textOfAll, ih, textOfAll]
  | element label tag attributes contents children rest _ ihchildren ihrest =>
      let e : Element Nat := ⟨label, tag, attributes, contents, children⟩
      show textOfAll (updateIn id f (e.node :: rest)) = textOfAll e.children ++ textOfAll rest
      by_cases hlabel : e.label = id
      · rw [updateIn_node_self id f e rest hlabel, ← ihrest, ← hf e]
        rfl
      · rw [updateIn_node_other id f e rest hlabel, ← ihrest]
        exact congrArg (· ++ textOfAll (updateIn id f rest)) ihchildren

/-- A change of one element keeps the texts of blocks, if the element is a block
    afterwards only if it was one, with the same text, and if what is in blocks keeps
    its text too. -/
theorem blockTexts_updateIn (id : Nat) (f : Element Nat → Element Nat) (nodes : List (Node Nat))
    (hf : ∀ e ∈ elementsIn nodes, e.label = id → (f e).isBlock = e.isBlock ∧
      (e.isBlock = true → (f e).text = e.text) ∧ blockTexts (f e).children = blockTexts e.children)
    (hblocks : ∀ e ∈ elementsIn nodes, e.isBlock = true →
      textOfAll (updateIn id f e.children) = textOfAll e.children) :
    blockTexts (updateIn id f nodes) = blockTexts nodes := by
  induction nodes using forestInduction with
  | nil => rfl
  | leaf node rest hleaf ih =>
      rw [elementsIn_leaf node rest hleaf] at hf hblocks
      rw [updateIn_leaf id f node rest hleaf, blockTexts_leaf node _ hleaf,
        blockTexts_leaf node rest hleaf, ih hf hblocks]
  | element label tag attributes contents children rest _ ihchildren ihrest =>
      let e : Element Nat := ⟨label, tag, attributes, contents, children⟩
      rw [elementsIn_element, List.forall_mem_cons, List.forall_mem_append] at hf hblocks
      have hrest := ihrest hf.2.2 hblocks.2.2
      have hchildren := ihchildren hf.2.1 hblocks.2.1
      show blockTexts (updateIn id f (e.node :: rest)) = blockTexts (e.node :: rest)
      by_cases hlabel : e.label = id
      · rcases hf.1 hlabel with ⟨hblock, htext, hinside⟩
        rw [updateIn_node_self id f e rest hlabel, blockTexts_element, blockTexts_element, hrest,
          hinside, hblock]
        by_cases h : e.isBlock = true
        · rw [if_pos h, if_pos h, htext h]
        · rw [if_neg h, if_neg h]
      · rw [updateIn_node_other id f e rest hlabel, blockTexts_element, blockTexts_element, hrest]
        -- The change may be in a block, but its text does not show it.
        have hsame : (if e.isBlock then [(e.withChildren (updateIn id f children)).text] else []) =
            if e.isBlock then [e.text] else [] := by
          by_cases h : e.isBlock = true
          · rw [if_pos h, if_pos h, Element.text, Element.text]
            exact congrArg (fun text => [String.ofList text]) (hblocks.1 h)
          · rw [if_neg h, if_neg h]
        exact congrArg₂ (fun own inside => own ++ (inside ++ blockTexts rest)) hsame hchildren

end Node

/-- Appending the list keeps the texts of blocks, if no block has a placeholder in it. -/
theorem blockTexts_appendToFirst (ledger : Ledger) (id : Nat) (nodes : List (Node Nat))
    (hnodup : (labelsOf nodes).Nodup)
    (hblocks : ∀ e ∈ elementsIn nodes, e.isBlock = true →
      ∀ x ∈ elementsIn e.children, x.tag.name ≠ "dt-bibliography") :
    blockTexts (appendToFirst "dt-bibliography" (referenceList ledger id).node nodes) =
      blockTexts nodes := by
  rw [appendToFirst, appendToFirstIn?_eq _ _ nodes hnodup]
  rcases hfound : (elementsIn nodes).find? fun e => e.tag.name = "dt-bibliography" with
    _ | placeholder
  · rw [hfound]
    rfl
  · rw [hfound]
    have hmem := List.mem_of_find?_eq_some hfound
    have hname : placeholder.tag.name = "dt-bibliography" := by
      simpa using List.find?_some hfound
    -- No element of the list is a block.
    have hlist : blockTexts [(referenceList ledger id).node] = [] :=
      blockTexts_eq_nil _ fun e he => e.isBlock_of_name_ne
        (name_of_mem_referenceList ledger id e he "script" (by simp) (by simp))
    refine blockTexts_updateIn _ _ nodes (fun e he hlabel => ⟨rfl, fun hblock => ?_, ?_⟩)
      fun e he hblock => ?_
    · -- A placeholder is no block itself, so there is no text to keep.
      have hscript := e.name_of_isBlock hblock
      rw [eq_of_label_eq nodes hnodup e placeholder he hmem hlabel, hname] at hscript
      exact absurd hscript (by decide)
    · rw [Element.withChildren, blockTexts_append, hlist, List.append_nil]
    · -- The number of the placeholder is in no block.
      rw [updateIn_of_not_mem _ _ e.children fun hinside => ?_]
      rcases exists_of_mem_labelsOf _ _ hinside with ⟨x, hx, hlabel⟩
      have hsame := eq_of_label_eq nodes hnodup x placeholder
        (mem_elementsIn_of_mem_children nodes e x he hx) hmem hlabel
      exact hblocks e he hblock x hx (by rw [hsame, hname])

/-- Setting an attribute of the body keeps the texts of blocks. -/
theorem blockTexts_setAttribute_body (document : Document) (h : document.Numbered)
    (body : Element Nat) (hbody : document.body? = some body) (name value : String) :
    blockTexts (document.setAttribute body.label name value).nodes = blockTexts document.nodes := by
  rcases document.mem_of_body? body hbody with ⟨hmem, hname⟩
  refine blockTexts_updateIn _ _ document.nodes (fun e he hlabel => ⟨?_, fun _ => rfl, rfl⟩)
    fun e _ _ => textOfAll_updateIn _ _ _ fun _ => rfl
  have hscript : e.tag.name ≠ "script" := by
    rw [eq_of_label_eq document.nodes h.nodup_nodes e body he hmem hlabel, hname]
    decide
  have hchanged := Element.isBlock_of_name_ne
    { e with attributes := Attribute.set e.attributes name value } hscript
  exact hchanged.trans (e.isBlock_of_name_ne hscript).symm

end CiteRender
