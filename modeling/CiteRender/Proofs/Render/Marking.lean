import CiteRender.Proofs.Document.Marks
import CiteRender.Proofs.Render.Stages

/-!
# Marking

A render marks the body with an attribute of a name that the configuration
gives, and publication leaves the mark where it is. All other names of
attributes come from a text that was read, so of what is marked all names can be
read again if that of the mark can.

## Main definitions

* `Element.IsNamed`, `Document.IsNamed`: Names as the reader of tags gives them.
* `Document.MarkedAs`: A document whose body has a mark.

## Theorems

* `parse_isNamed`: A document that was parsed is named.
* `fillMarkers_isNamed`, `fillBibliography_isNamed`: Filling keeps it named.
* `render_markedAs`: A render marks the body.
* `distillify_markedAs`: Publication keeps the mark.
-/

namespace CiteRender

open Node

/-- An element of HTML has only attributes with names that can be read, and a
    body is an element of HTML. -/
structure Element.IsNamed {ι : Type} (e : Element ι) : Prop where
  readable : e.tag.space = .html → ∀ a ∈ e.attributes, Html.IsReadable a
  body : e.tag.name = "body" → e.tag.space = .html

/-- A document all of whose elements are named. -/
def Document.IsNamed (document : Document) : Prop :=
  ∀ e ∈ elementsIn document.nodes, e.IsNamed

theorem parse_isNamed (html : String) : (Document.parse html).IsNamed := by
  intro e he
  have hmem : (e.tag, e.attributes) ∈ tagsIn (Html.parse html.toList) :=
    tagsIn_numberAll (Html.parse html.toList) 0 ▸ List.mem_map.mpr ⟨e, he, rfl⟩
  rcases List.mem_map.mp hmem with ⟨x, hx, heq⟩
  have hnamed := Html.isNamed_of_mem_parse html.toList x hx
  rw [(Prod.mk.inj heq).1, (Prod.mk.inj heq).2] at hnamed
  exact ⟨hnamed.1, hnamed.2⟩

theorem fillMarkers_isNamed (ledger : Ledger) (document : Document) (h : document.IsNamed)
    (markers : List (Element Nat)) : (fillMarkers ledger document markers).IsNamed := by
  intro e he
  rcases fillMarkers_opensLike ledger document markers e he with ⟨x, hx, -, htag, hattributes⟩
  have hnamed := h x hx
  exact ⟨by rw [htag, hattributes]; exact hnamed.readable, by rw [htag]; exact hnamed.body⟩

/-- The elements in a list of references have no attributes. -/
theorem isNamed_of_mem_listItems (ledger : Ledger) (id : Nat) (keys : List String)
    (e : Element Nat) (he : e ∈ elementsIn ((listItems ledger id keys).map Element.node)) :
    e.IsNamed := by
  induction keys generalizing id with
  | nil => simp [listItems] at he
  | cons key keys ih =>
      rw [listItems, List.map_cons, Element.node, elementsIn_element] at he
      rcases List.mem_cons.mp he with rfl | he
      · exact ⟨fun _ a ha => absurd ha List.not_mem_nil, fun _ => rfl⟩
      · exact ih (id + 1) he

theorem isNamed_of_mem_referenceList (ledger : Ledger) (id : Nat) (e : Element Nat)
    (he : e ∈ elementsIn [(referenceList ledger id).node]) : e.IsNamed := by
  rw [Element.node, elementsIn_element, List.mem_cons, elementsIn_nil, List.append_nil] at he
  rcases he with rfl | he
  · exact ⟨fun _ a ha => absurd ha List.not_mem_nil, fun _ => rfl⟩
  · exact isNamed_of_mem_listItems ledger (id + 1) ledger.cited e he

theorem withReferences_isNamed (ledger : Ledger) (document : Document) (h : document.IsNamed)
    (placeholder : Nat) : (withReferences ledger document placeholder).IsNamed := by
  refine forall_updateIn _ _ _ _ (fun e he _ => ⟨⟨(h e he).readable, (h e he).body⟩, fun x hx => ?_⟩)
    fun e he _ => ⟨(h e he).readable, (h e he).body⟩
  have hchildren : x ∈ elementsIn (e.children ++ [(referenceList ledger document.next).node]) := hx
  rw [elementsIn_append, List.mem_append] at hchildren
  rcases hchildren with hx | hx
  · exact h x (mem_elementsIn_of_mem_children _ e x he hx)
  · exact isNamed_of_mem_referenceList ledger _ x hx

/-- What a render marks is named, as what it was given is. -/
theorem fillBibliography_isNamed (config : Config) (ledger : Ledger) (document filled : Document)
    (hnumbered : document.Numbered) (h : document.IsNamed)
    (hfilled : fillBibliography config ledger document = .ok filled) :
    filled.Numbered ∧ filled.IsNamed := by
  rcases fillBibliography_ok config ledger document filled hnumbered hfilled with
    ⟨hnew, ⟨-, rfl⟩ | ⟨placeholder, -, rfl⟩⟩
  · exact ⟨hnew, h⟩
  · exact ⟨hnew, withReferences_isNamed ledger document h placeholder.label⟩

/-! Marking. -/

theorem hasMark_set (attributes : List Attribute) (name value : String) :
    Html.HasMark name (Attribute.set attributes name value) := by
  induction attributes with
  | nil => exact ⟨_, List.mem_singleton_self _, rfl, rfl⟩
  | cons a attributes ih =>
      rw [Attribute.set]
      split
      · next hset => exact ⟨_, List.mem_cons_self, hset.1, hset.2⟩
      · rcases ih with ⟨b, hb, hmark⟩
        exact ⟨b, List.mem_cons_of_mem _ hb, hmark⟩

theorem isReadable_of_mem_set (attributes : List Attribute) (name value : String)
    (hname : Html.isAttributeName name.toList = true) (h : ∀ a ∈ attributes, Html.IsReadable a) :
    ∀ a ∈ Attribute.set attributes name value, Html.IsReadable a := by
  induction attributes with
  | nil => exact fun a ha => List.mem_singleton.mp ha ▸ ⟨rfl, hname⟩
  | cons b attributes ih =>
      rw [List.forall_mem_cons] at h
      rw [Attribute.set]
      split
      · exact List.forall_mem_cons.mpr ⟨h.1, h.2⟩
      · exact List.forall_mem_cons.mpr ⟨h.1, ih h.2⟩

/-- The number of the body is that of the first element of this name. -/
theorem label_body? (document : Document) :
    document.body?.map Element.label =
      (labelsNamed (fun tag => tag.name = "body") document.nodes).head? := by
  rw [Document.body?, document.matching_named "body" (by decide), labelsNamed, List.head?_map]

/-- A document whose body has a mark. If the name of the mark can be read, so can
    all its elements of HTML. -/
structure Document.MarkedAs (mark : String) (document : Document) : Prop where
  numbered : document.Numbered
  body : ∃ body, document.body? = some body ∧ Html.HasMark mark body.attributes ∧
    body.tag = .html "body"
  named : Html.isAttributeName mark.toList = true → document.IsNamed

/-- Marking a document. -/
theorem mark_markedAs (document marked : Document) (name : String) (hnumbered : document.Numbered)
    (h : document.IsNamed) (hmark : document.mark name = .ok marked) : marked.MarkedAs name := by
  rw [Document.mark] at hmark
  rcases hbody : document.body? with _ | old
  · rw [hbody] at hmark
    exact absurd hmark (by simp)
  · rw [hbody] at hmark
    obtain rfl := Except.ok.inj hmark
    have hnodup := hnumbered.nodup_nodes
    have hlabels := labelsNamed_updateIn (fun tag => tag.name = "body") old.label
      (fun e => { e with attributes := Attribute.set e.attributes name "" })
      (fun _ => ⟨rfl, rfl, rfl⟩) document.nodes
    have hlabel : (document.setAttribute old.label name "").body?.map Element.label =
        some old.label := by
      rw [label_body?, Document.setAttribute, Document.update, hlabels, ← label_body?, hbody]
      rfl
    rcases Option.map_eq_some_iff.mp hlabel with ⟨body, hfound, hsame⟩
    have hmem := (document.setAttribute old.label name "").mem_of_body? body hfound
    -- The element with the number of the body has the mark, and no other has changed.
    let P (e : Element Nat) : Prop := (e.label = old.label → Html.HasMark name e.attributes) ∧
      (e.tag.name = "body" → e.tag.space = .html) ∧
      (Html.isAttributeName name.toList = true → e.tag.space = .html →
        ∀ a ∈ e.attributes, Html.IsReadable a)
    have hall : ∀ e ∈ elementsIn (document.setAttribute old.label name "").nodes, P e := by
      refine forall_updateIn P _ _ _ (fun e he hid => ⟨⟨fun _ => hasMark_set _ _ _, (h e he).body,
        fun hname hspace => isReadable_of_mem_set _ _ _ hname ((h e he).readable hspace)⟩,
        fun x hx => ?_⟩) fun e he hid => ⟨fun hlabel => absurd hlabel hid, (h e he).body,
          fun _ => (h e he).readable⟩
      have hold := h x (mem_elementsIn_of_mem_children _ e x he hx)
      refine ⟨fun hlabel => ?_, hold.body, fun _ => hold.readable⟩
      have hinside := mem_labelsOf e.children x hx
      rw [hlabel, ← hid] at hinside
      exact absurd hinside (label_not_mem_children _ hnodup e he)
    have hbodyP := hall body hmem.1
    refine ⟨Document.setAttribute_numbered document hnumbered _ _ _, ⟨body, hfound, hbodyP.1 hsame,
      ?_⟩, fun hname e he => ⟨(hall e he).2.2 hname, (hall e he).2.1⟩⟩
    exact (congrArg₂ Tag.mk (hbodyP.2.1 hmem.2) hmem.2 :
      (⟨body.tag.space, body.tag.name⟩ : Tag) = .html "body")

/-- What a render leaves has a marked body. -/
theorem render_markedAs (config : Config) (verbose : Bool) (html : String) (ledger known : Ledger)
    (rendered : Document)
    (hdone : ((Pipeline.standard config).render verbose (Document.parse html, ledger)).failure = none)
    (hstate : ((Pipeline.standard config).render verbose (Document.parse html, ledger)).state =
      (rendered, known)) : rendered.MarkedAs config.prerenderedAttribute := by
  rcases render_done config verbose (Document.parse html) ledger hdone with
    ⟨final, seen, markers, filled, hfinal, -, hfilled, hmark⟩
  obtain ⟨rfl, rfl⟩ := Prod.mk.inj (hstate.symm.trans hfinal)
  have hnamed := fillMarkers_isNamed known _ (parse_isNamed html) markers
  have hnumbered := fillMarkers_numbered known _ (Document.parse_numbered html) markers
  have hready := fillBibliography_isNamed config known _ filled hnumbered hnamed hfilled
  exact mark_markedAs filled rendered _ hready.1 hready.2 hmark

/-! Publication. -/

/-- A node at an end of some nodes. -/
def PutsAtEnd (put : Node Nat → List (Node Nat) → List (Node Nat)) : Prop :=
  ∀ node children, put node children = children ++ [node] ∨ put node children = node :: children

theorem PutsAtEnd.mem {put : Node Nat → List (Node Nat) → List (Node Nat)} (h : PutsAtEnd put)
    (id : Nat) (tag : String) (children : List (Node Nat)) (x : Element Nat)
    (hx : x ∈ elementsIn (put (Element.bare id tag).node children)) :
    x = Element.bare id tag ∨ x ∈ elementsIn children := by
  have hnode (rest : List (Node Nat)) : elementsIn ((Element.bare id tag).node :: rest) =
      Element.bare id tag :: elementsIn rest := elementsIn_element ..
  rcases h (Element.bare id tag).node children with heq | heq
  · rw [heq, elementsIn_append, hnode, List.mem_append, elementsIn_nil, List.mem_singleton] at hx
    exact hx.symm
  · rw [heq, hnode] at hx
    exact List.mem_cons.mp hx

theorem PutsAtEnd.labelsNamed {put : Node Nat → List (Node Nat) → List (Node Nat)}
    (h : PutsAtEnd put) (id : Nat) (tag : String) (children : List (Node Nat)) (q : Tag → Bool)
    (hq : q (Tag.html tag) = false) :
    labelsNamed q (put (Element.bare id tag).node children) = labelsNamed q children := by
  have hnode (rest : List (Node Nat)) : Node.labelsNamed q ((Element.bare id tag).node :: rest) =
      Node.labelsNamed q rest := by
    rw [labelsNamed_element, Element.bare, hq]
    rfl
  rcases h (Element.bare id tag).node children with heq | heq
  · rw [heq, labelsNamed_append, hnode]
    exact List.append_nil _
  · rw [heq, hnode]

/-- A new bare element at an end of an element of the document. -/
theorem place_withBare (document : Document) (h : document.Numbered) (tag : String)
    (target : Element Nat) (htarget : target ∈ elementsIn document.nodes)
    (put : Node Nat → List (Node Nat) → List (Node Nat)) (hput : PutsAtEnd put) :
    let placed := (document.withBare tag).place target.label document.next put
    placed.Numbered ∧ placed =
      { document with
        nodes := updateIn target.label (fun x => x.withChildren
          (put (Element.bare document.next tag).node x.children)) document.nodes
        next := document.next + 1 } := by
  -- The element is made loose first, and then put where it belongs.
  let around := { document with next := document.next + 1 }
  have hbare : (around.holding (Element.bare document.next tag)).Numbered :=
    Document.withBare_numbered document h tag
  have hlabel : target.label ∈ labelsOf around.trees :=
    mem_labelsOf _ target (around.mem_trees target htarget)
  have hplaced := Document.place_holding around _ hbare target.label hlabel put
  have hloose := h.not_mem_loose target.label (mem_labelsOf _ target htarget)
  rw [Document.update, updateIn_of_not_mem target.label _ around.loose hloose] at hplaced
  refine ⟨Document.place_numbered around _ hbare target.label hlabel put fun children => ?_,
    hplaced⟩
  rcases hput (Element.bare document.next tag).node children with heq | heq
  · rw [heq]
  · rw [heq, labelsOf_append, ← List.singleton_append, labelsOf_append]
    exact List.perm_append_comm

/-- A new bare element at an end of the body leaves the mark where it is. -/
theorem Document.MarkedAs.addChild {mark : String} {document : Document}
    (h : document.MarkedAs mark) (tag : String) (htag : tag ≠ "body") (body : Element Nat)
    (hbody : document.body? = some body) (put : Node Nat → List (Node Nat) → List (Node Nat))
    (hput : PutsAtEnd put) :
    ((document.withBare tag).place body.label document.next put).MarkedAs mark := by
  rcases h.body with ⟨found, hfound, hmark, hbodytag⟩
  obtain rfl : found = body := Option.some.inj (hfound.symm.trans hbody)
  have hmem := document.mem_of_body? found hfound
  rcases place_withBare document h.numbered tag found hmem.1 put hput with ⟨hnumbered, hplaced⟩
  have hnodes := congrArg Document.nodes hplaced
  generalize (document.withBare tag).place found.label document.next put = placed at hnumbered hnodes ⊢
  -- The body is the element with the same number as before.
  have hlabels := labelsNamed_updateIn (fun tag => tag.name = "body") found.label
    (fun x => x.withChildren (put (Element.bare document.next tag).node x.children))
    (fun x => ⟨rfl, rfl, hput.labelsNamed _ tag x.children _ (decide_eq_false htag)⟩)
    document.nodes
  have hsame : placed.body?.map Element.label = some found.label := by
    rw [label_body?, hnodes, hlabels, ← label_body?, hfound]
    rfl
  rcases Option.map_eq_some_iff.mp hsame with ⟨body, hnew, hnewlabel⟩
  have hnewmem := Document.mem_of_body? _ body hnew
  let P (e : Element Nat) : Prop :=
    (e.label = found.label → Html.HasMark mark e.attributes ∧ e.tag = .html "body") ∧
      (Html.isAttributeName mark.toList = true → e.IsNamed)
  have hold (e : Element Nat) (he : e ∈ elementsIn document.nodes) : P e :=
    ⟨fun hlabel => eq_of_label_eq _ h.numbered.nodup_nodes found e hmem.1 he hlabel.symm ▸
      ⟨hmark, hbodytag⟩, fun hname => h.named hname e he⟩
  have hchanged (e : Element Nat) (he : e ∈ elementsIn document.nodes) (children : List (Node Nat)) :
      P (e.withChildren children) :=
    ⟨(hold e he).1, fun hname => ⟨((hold e he).2 hname).readable, ((hold e he).2 hname).body⟩⟩
  have hall : ∀ e ∈ elementsIn placed.nodes, P e := by
    rw [hnodes]
    refine forall_updateIn P _ _ _ (fun e he _ => ⟨hchanged e he _, fun x hx => ?_⟩)
      fun e he _ => hchanged e he _
    rcases hput.mem _ tag _ x hx with rfl | hx
    · have hbelow := h.numbered.below found.label (List.mem_append_left _ (mem_labelsOf _ found hmem.1))
      exact ⟨fun heq => absurd heq (Nat.ne_of_gt hbelow), fun _ =>
        ⟨fun _ a ha => absurd ha List.not_mem_nil, fun _ => rfl⟩⟩
    · exact hold x (mem_elementsIn_of_mem_children _ e x he hx)
  have hbodyP := (hall body hnewmem.1).1 hnewlabel
  exact ⟨hnumbered, ⟨body, hnew, hbodyP.1, hbodyP.2⟩, fun hname e he => (hall e he).2 hname⟩

/-- An element that is injected leaves the mark where it is. -/
theorem Document.MarkedAs.inject {mark : String} {document : Document} (h : document.MarkedAs mark)
    (tag : String) (htag : tag ≠ "body") (hname : Document.isTagName tag.toList = true)
    (hparsed : (Document.parsedElement? tag).any (Element.isBare tag) = true) (place : End)
    (verbose : Bool) : (inject tag place verbose document).state.MarkedAs mark := by
  rcases h.body with ⟨body, hbody, -⟩
  have hcreated := Document.createElement_bare document tag hname hparsed
  rw [CiteRender.inject]
  rcases document.selectFirst tag with error | _ | found
  · exact h
  · dsimp only
    rw [Document.addToBody, hbody]
    dsimp only
    rw [hcreated]
    cases place with
    | first => exact h.addChild tag htag body hbody _ fun _ _ => Or.inr rfl
    | last => exact h.addChild tag htag body hbody _ fun _ _ => Or.inl rfl
  · exact h

theorem parsedElement_chrome : ∀ tag ∈ ["distill-header", "distill-appendix", "distill-footer"],
    (Document.parsedElement? tag).any (Element.isBare tag) = true := by
  decide +kernel

/-- Publication leaves the mark where it is. -/
theorem distillify_markedAs (config : Config) (verbose : Bool) (mark : String) (ledger : Ledger)
    (document : Document) (h : document.MarkedAs mark) :
    ((Pipeline.standard config).distillify verbose ledger document).state.MarkedAs mark := by
  have hstage (tag : String) (htag : tag ∈ ["distill-header", "distill-appendix", "distill-footer"])
      (place : End) (document : Document) (hdocument : document.MarkedAs mark) :
      (inject tag place verbose document).state.MarkedAs mark := by
    have hnames : tag ≠ "body" ∧ Document.isTagName tag.toList = true :=
      (by decide : ∀ tag ∈ ["distill-header", "distill-appendix", "distill-footer"],
        tag ≠ "body" ∧ Document.isTagName tag.toList = true) tag htag
    exact hdocument.inject tag hnames.1 hnames.2 (parsedElement_chrome tag htag) place verbose
  exact Run.andThen_keeps _ _ _ (hstage "distill-header" (by simp) .first document h)
    fun document hdocument => Run.andThen_keeps _ _ _
      (hstage "distill-appendix" (by simp) .last document hdocument) fun document hdocument =>
        Run.andThen_keeps _ _ _ (hstage "distill-footer" (by simp) .last document hdocument)
          fun _ hdocument => hdocument

end CiteRender
