import CiteRender.Proofs.Html.Parts

/-!
# Plain Fronts

Whether what stands in front of a body is plain can be told from the tree. The
printed front is then read back to the start tag of the body: there the reader
is between head and body, so the tag opens the body. In a head that is not plain
there may be a script that never ends, say, which takes in the start tag of the
body and all that is behind it.

## Main definitions

* `Html.hasPlainFront`: Whether a tree has a plain front.
* `Html.FrontParts`: The parts of a plain front.

## Theorems

* `FrontParts.find?_body`: The body of a plain front is the first in the tree.
* `FrontParts.leadsTo`: Reading comes to the start tag of the body.
-/

namespace CiteRender

namespace Html

section

variable {ι : Type}

/-- The first element behind nodes of a kind, and what stands behind it. -/
def elementBehind (skips : Node ι → Bool) (nodes : List (Node ι)) :
    Option (Element ι × List (Node ι)) :=
  match nodes.dropWhile skips with
  | [] => none
  | node :: rest => node.asElement?.map fun e => (e, rest)

theorem eq_of_elementBehind (skips : Node ι → Bool) (nodes rest : List (Node ι)) (e : Element ι)
    (h : elementBehind skips nodes = some (e, rest)) :
    ∃ before, (∀ node ∈ before, skips node = true) ∧ nodes = before ++ e.node :: rest := by
  refine ⟨nodes.takeWhile skips, fun node hnode => List.mem_takeWhile_imp hnode, ?_⟩
  rw [elementBehind] at h
  split at h
  · exact absurd h (by simp)
  · next node more hmore =>
      rcases Option.map_eq_some_iff.mp h with ⟨found, hfound, heq⟩
      obtain ⟨rfl, rfl⟩ := Prod.mk.inj heq
      cases node with
      | element =>
          obtain rfl := Option.some.inj hfound
          rw [Element.node, ← hmore, List.takeWhile_append_dropWhile]
      | _ => exact absurd hfound (by simp [Node.asElement?])

/-- Whether nodes have a plain front: the head holds plain nodes only, and there
    are only fillers in front of the `html` element, the head and the body. -/
def hasPlainFront (nodes : List (Node ι)) : Bool :=
  (elementBehind isFiller nodes).any fun root =>
    root.1.tag = .html "html" &&
      (elementBehind isFiller root.1.children).any fun head =>
        head.1.tag = .html "head" && head.1.children.all isHeadNode &&
          (elementBehind isFiller head.2).any fun body => body.1.tag = .html "body"

/-- The parts of a plain front. -/
structure FrontParts (nodes : List (Node ι)) where
  outer : List (Node ι)
  root : Element ι
  behindRoot : List (Node ι)
  inner : List (Node ι)
  head : Element ι
  between : List (Node ι)
  body : Element ι
  behindBody : List (Node ι)
  nodes_eq : nodes = outer ++ root.node :: behindRoot
  children_eq : root.children = inner ++ head.node :: (between ++ body.node :: behindBody)
  outer_fillers : ∀ node ∈ outer, isFiller node = true
  inner_fillers : ∀ node ∈ inner, isFiller node = true
  between_fillers : ∀ node ∈ between, isFiller node = true
  head_plain : ∀ node ∈ head.children, isHeadNode node = true
  root_tag : root.tag = .html "html"
  head_tag : head.tag = .html "head"
  body_tag : body.tag = .html "body"

theorem nonempty_frontParts (nodes : List (Node ι)) (h : hasPlainFront nodes = true) :
    Nonempty (FrontParts nodes) := by
  rw [hasPlainFront, Option.any_eq_true] at h
  rcases h with ⟨⟨root, behindRoot⟩, hroot, h⟩
  rw [Bool.and_eq_true, decide_eq_true_eq, Option.any_eq_true] at h
  rcases h with ⟨hroottag, ⟨head, behindHead⟩, hhead, h⟩
  rw [Bool.and_eq_true, Bool.and_eq_true, decide_eq_true_eq, List.all_eq_true, Option.any_eq_true] at h
  rcases h with ⟨⟨hheadtag, hplain⟩, ⟨body, behindBody⟩, hbody, hbodytag⟩
  rcases eq_of_elementBehind _ _ _ _ hroot with ⟨outer, houter, hnodes⟩
  rcases eq_of_elementBehind _ _ _ _ hhead with ⟨inner, hinner, hchildren⟩
  rcases eq_of_elementBehind _ _ _ _ hbody with ⟨between, hbetween, hbehind⟩
  dsimp only at hbehind hchildren
  rw [hbehind] at hchildren
  exact ⟨⟨outer, root, behindRoot, inner, head, between, body, behindBody, hnodes, hchildren, houter,
    hinner, hbetween, hplain, hroottag, hheadtag, of_decide_eq_true hbodytag⟩⟩

namespace FrontParts

variable {nodes : List (Node ι)} (f : FrontParts nodes)

theorem elementsIn_fillers (nodes : List (Node ι)) (h : ∀ node ∈ nodes, isFiller node = true) :
    Node.elementsIn nodes = [] := by
  induction nodes with
  | nil => rfl
  | cons node nodes ih =>
      rw [List.forall_mem_cons] at h
      rw [Node.elementsIn_leaf, ih h.2]
      cases node with
      | element => exact absurd h.1 (by simp [isFiller, isBlankText])
      | _ => rfl

/-- No element of a plain head is a body. -/
theorem name_ne_body (nodes : List (Node ι)) (h : ∀ node ∈ nodes, isHeadNode node = true) :
    ∀ e ∈ Node.elementsIn nodes, e.tag.name ≠ "body" := by
  induction nodes with
  | nil => simp
  | cons node nodes ih =>
      rw [List.forall_mem_cons] at h
      intro e he
      cases node with
      | element label tag attributes contents children =>
          -- Neither kind of element in a head has another inside it.
          have hkind : tag.name ≠ "body" ∧ Node.elementsIn children = [] := by
            have hnode := h.1
            rw [isHeadNode, Bool.or_eq_true, Bool.and_eq_true, Bool.and_eq_true, Bool.and_eq_true] at hnode
            rcases hnode with ⟨hnames, hempty⟩ | ⟨⟨hnames, hempty⟩, -⟩
            · exact ⟨(by decide : ∀ name ∈ headVoidNames, name ≠ "body") _
                (space_of_isOneOf tag _ hnames).2, by rw [List.isEmpty_iff.mp hempty]; rfl⟩
            · exact ⟨(by decide : ∀ name ∈ headTextNames, name ≠ "body") _
                (space_of_isOneOf tag _ hnames).2, List.isEmpty_iff.mp hempty⟩
          rw [Node.elementsIn_element, hkind.2, List.nil_append] at he
          rcases List.mem_cons.mp he with rfl | he
          · exact hkind.1
          · exact ih h.2 e he
      | _ =>
          rw [Node.elementsIn_leaf _ _ rfl] at he
          exact ih h.2 e he

/-- The elements of nodes with a plain front, up to the body. -/
theorem elementsIn_eq : ∃ rest : List (Element ι), Node.elementsIn nodes =
    f.root :: f.head :: (Node.elementsIn f.head.children ++ f.body :: rest) := by
  refine ⟨Node.elementsIn f.body.children ++ Node.elementsIn f.behindBody ++
    Node.elementsIn f.behindRoot, ?_⟩
  have hnode (e : Element ι) (rest : List (Node ι)) : Node.elementsIn (e.node :: rest) =
      e :: (Node.elementsIn e.children ++ Node.elementsIn rest) := Node.elementsIn_element ..
  conv => lhs; rw [f.nodes_eq]
  rw [Node.elementsIn_append, elementsIn_fillers _ f.outer_fillers, List.nil_append, hnode,
    f.children_eq, Node.elementsIn_append, elementsIn_fillers _ f.inner_fillers, List.nil_append,
    hnode, Node.elementsIn_append, elementsIn_fillers _ f.between_fillers, List.nil_append, hnode]
  simp only [List.cons_append, List.append_assoc]

/-- The body of nodes with a plain front is the first element of this name. -/
theorem find?_body :
    (Node.elementsIn nodes).find? (fun e => e.tag.name = "body") = some f.body := by
  have hheads : (Node.elementsIn f.head.children).find? (fun e => e.tag.name = "body") = none :=
    List.find?_eq_none.mpr fun e he => by simpa using name_ne_body _ f.head_plain e he
  rcases f.elementsIn_eq with ⟨rest, heq⟩
  rw [heq, List.find?_cons_of_neg (by rw [f.root_tag]; decide),
    List.find?_cons_of_neg (by rw [f.head_tag]; decide), List.find?_append, hheads, Option.none_or,
    List.find?_cons_of_pos (by rw [f.body_tag]; decide)]

theorem printAll_eq : ∃ rest, Node.printAll false false nodes =
    Node.printAll false false f.outer ++ (printStart f.root.tag f.root.attributes ++
      (Node.printAll false false f.inner ++ (printStart f.head.tag f.head.attributes ++
        (Node.printAll false false f.head.children ++ (printClose f.head.tag ++
          (Node.printAll false false f.between ++
            (printStart f.body.tag f.body.attributes ++ rest))))))) := by
  have hnode (e : Element ι) (htag : e.tag = .html "html" ∨ e.tag = .html "head" ∨
      e.tag = .html "body") : e.node.print false false = printStart e.tag e.attributes ++
        Node.printAll false false e.children ++ printClose e.tag := by
    rw [Element.node]
    rcases htag with htag | htag | htag <;>
    · rw [htag]
      exact Node.print_element _ _ _ _ _ (by decide) (by decide)
  refine ⟨Node.printAll false false f.body.children ++ printClose f.body.tag ++
    Node.printAll false false f.behindBody ++ printClose f.root.tag ++
    Node.printAll false false f.behindRoot, ?_⟩
  conv => lhs; rw [f.nodes_eq]
  rw [Node.printAll_append, Node.printAll_cons, hnode _ (.inl f.root_tag), f.children_eq,
    Node.printAll_append, Node.printAll_cons, hnode _ (.inr (.inl f.head_tag)), Node.printAll_append,
    Node.printAll_cons, hnode _ (.inr (.inr f.body_tag))]
  simp only [List.append_assoc]

/-- The reading of nodes with a plain front comes to the start tag of the body. -/
theorem leadsTo (hreadable : ∀ e ∈ Node.elementsIn nodes, e.tag.space = .html →
      ∀ a ∈ e.attributes, IsReadable a) :
    ∃ html b rest, Builder.IsBetween html b ∧
      Builder.LeadsTo ({}, unifyLines (dropMark (Node.printAll false false nodes)))
        (b, unifyLines (printStart f.body.tag f.body.attributes ++ rest)) := by
  rcases f.elementsIn_eq with ⟨_, helements⟩
  rcases f.printAll_eq with ⟨rest, hprint⟩
  rw [helements, List.forall_mem_cons, List.forall_mem_cons, List.forall_mem_append] at hreadable
  rcases hreadable with ⟨hroot, hhead, hheads, -⟩
  have hfillers {P : Builder → Prop} (hP : Builder.PassesBy P) (nodes : List (Node ι))
      (h : ∀ node ∈ nodes, isFiller node = true) :
      ∀ node ∈ nodes, isBlankText node = true ∨ ReadsNode P node :=
    fun node hnode => reads_filler hP node (h node hnode)
  have houter := hfillers Builder.passesBy_isUnrooted f.outer f.outer_fillers
  have hbeforeHead (html : Nat) : Builder.PassesBy (Builder.IsAhead html .beforeHead [html]) :=
    Builder.IsAhead.passesBy (.inl rfl)
  have hinHead (html head : Nat) : Builder.PassesBy (Builder.IsAhead html .inHead [head, html]) :=
    Builder.IsAhead.passesBy (.inr (.inl rfl))
  have hafterHead (html : Nat) : Builder.PassesBy (Builder.IsAhead html .afterHead [html]) :=
    Builder.IsAhead.passesBy (.inr (.inr rfl))
  have hinner (html : Nat) := hfillers (hbeforeHead html) f.inner f.inner_fillers
  have hheadNodes (html head : Nat) : ∀ node ∈ f.head.children, isBlankText node = true ∨
      ReadsNode (Builder.IsAhead html .inHead [head, html]) node := fun node hnode =>
    reads_headNode node (f.head_plain node hnode) fun e he =>
      hheads e (Node.mem_elementsIn_of_mem _ node hnode e he)
  have hbetween (html : Nat) := hfillers (hafterHead html) f.between f.between_fillers
  rw [f.root_tag] at hroot hprint
  rw [f.head_tag] at hhead hprint
  -- What is left behind a tag begins with blanks and a tag.
  have hfront₃ := isFrontText_printAll f.between (hbetween 0)
    (printStart f.body.tag f.body.attributes) rest rfl
  have hfront₂ := isFrontText_printAll f.head.children (hheadNodes 0 0) (printClose (.html "head"))
    (Node.printAll false false f.between ++ (printStart f.body.tag f.body.attributes ++ rest)) rfl
  have hfront₁ := isFrontText_printAll f.inner (hinner 0) (printStart (.html "head") f.head.attributes)
    (Node.printAll false false f.head.children ++ (printClose (.html "head") ++
      (Node.printAll false false f.between ++ (printStart f.body.tag f.body.attributes ++ rest)))) rfl
  have hfront := isFrontText_printAll f.outer houter (printStart (.html "html") f.root.attributes)
    (Node.printAll false false f.inner ++ (printStart (.html "head") f.head.attributes ++
      (Node.printAll false false f.head.children ++ (printClose (.html "head") ++
        (Node.printAll false false f.between ++ (printStart f.body.tag f.body.attributes ++ rest))))))
    rfl
  rcases leadsTo_part Builder.passesBy_isUnrooted f.outer houter (reads_rootStart _ (hroot rfl)) rfl
    hfront₁ {} Builder.isUnrooted_start rfl with ⟨b₁, ⟨html, hb₁⟩, hanew₁, hleads₁⟩
  rcases leadsTo_part (hbeforeHead html) f.inner (hinner html)
    (reads_headStart _ (hhead rfl)) rfl hfront₂ b₁ hb₁ hanew₁ with ⟨b₂, ⟨head, hb₂⟩, hanew₂, hleads₂⟩
  rcases leadsTo_part (hinHead html head) f.head.children
    (hheadNodes html head) reads_headClose rfl hfront₃ b₂ hb₂ hanew₂ with ⟨b₃, hb₃, hanew₃, hleads₃⟩
  rcases leadsTo_printAll (hafterHead html) f.between (hbetween html)
    (printStart f.body.tag f.body.attributes ++ rest) rfl b₃ hb₃ hanew₃ with ⟨b₄, hb₄, -, hleads₄⟩
  refine ⟨html, b₄, rest, hb₄.isBetween, ?_⟩
  rw [hprint, hfront.dropMark]
  exact ((hleads₁.trans hleads₂).trans hleads₃).trans hleads₄

end FrontParts

end

end Html

end CiteRender
