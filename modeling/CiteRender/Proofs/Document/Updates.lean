import CiteRender.Proofs.Document.Elements

/-!
# Updates of a Tree

What changing one element of a tree does to the others. An update names its
element by number, so its effect is stated through the elements that have this
number: where there are none nothing changes, and where the change is none the
tree is the same.

`forall_updateIn` is the lemma the rest is built for. The elements after an
update are the changed one, what is put into it, and the others, which may see
other children but keep everything else; what is said of all elements is said
of these. The converse, what is left of an element that was there, is
`mem_updateIn_withChildren`.

Taking an element out of its trees is the other change. Everything in it goes
along, and the rest stays in the order it had.

## Main definitions

* `Element.withChildren`: An element with other children.
* `Node.labelsNamed`: The numbers of the elements whose tag passes a test.

## Theorems

* `updateIn_eq_self`, `updateIn_of_not_mem`: Updates that change nothing.
* `forall_updateIn`: What holds of all elements after an update.
* `labelsNamed_updateIn`: Updates that keep the elements of some tags.
* `labelsNamed_updateIn_perm`: The numbers after an update of some children.
* `updateIn_updateIn`: Two updates of one element.
* `mem_updateIn`, `mem_updateIn_withChildren`: The changed element, and the others.
* `updateIn_below`: Nothing changes below the changed element.
* `removeFrom_append_self`: Taking off the last of some trees.
* `labelsOf_removeFrom_perm`, `mem_removeFrom`: What is left when an element is out.
-/

namespace CiteRender

/-- An element with other children. -/
def Element.withChildren {ι : Type} (e : Element ι) (children : List (Node ι)) : Element ι :=
  { e with children }

namespace Node

theorem updateAt_leaf (id : Nat) (f : Element Nat → Element Nat) (node : Node Nat)
    (h : node.asElement? = none) : updateAt id f node = node := by
  cases node with
  | element => simp [asElement?] at h
  | _ => rfl

theorem updateIn_leaf (id : Nat) (f : Element Nat → Element Nat) (node : Node Nat)
    (rest : List (Node Nat)) (h : node.asElement? = none) :
    updateIn id f (node :: rest) = node :: updateIn id f rest := by
  rw [updateIn, updateAt_leaf id f node h]

@[simp] theorem updateIn_text (id : Nat) (f : Element Nat → Element Nat) (s : String) :
    updateIn id f [.text s] = [.text s] := rfl

theorem updateIn_self (id : Nat) (f : Element Nat → Element Nat) (tag : Tag)
    (attributes : List Attribute) (contents children rest : List (Node Nat)) :
    updateIn id f (.element id tag attributes contents children :: rest) =
      (f ⟨id, tag, attributes, contents, children⟩).node :: updateIn id f rest := by
  rw [updateIn, updateAt, if_pos rfl]

theorem updateIn_other (id label : Nat) (f : Element Nat → Element Nat) (tag : Tag)
    (attributes : List Attribute) (contents children rest : List (Node Nat)) (h : label ≠ id) :
    updateIn id f (.element label tag attributes contents children :: rest) =
      .element label tag attributes contents (updateIn id f children) :: updateIn id f rest := by
  rw [updateIn, updateAt, if_neg h]

theorem updateIn_node_self (id : Nat) (f : Element Nat → Element Nat) (e : Element Nat)
    (rest : List (Node Nat)) (h : e.label = id) :
    updateIn id f (e.node :: rest) = (f e).node :: updateIn id f rest := by
  subst h
  exact updateIn_self ..

theorem updateIn_node_other (id : Nat) (f : Element Nat → Element Nat) (e : Element Nat)
    (rest : List (Node Nat)) (h : e.label ≠ id) :
    updateIn id f (e.node :: rest) =
      (e.withChildren (updateIn id f e.children)).node :: updateIn id f rest :=
  updateIn_other _ _ _ _ _ _ _ _ h

theorem updateIn_append (id : Nat) (f : Element Nat → Element Nat) (nodes more : List (Node Nat)) :
    updateIn id f (nodes ++ more) = updateIn id f nodes ++ updateIn id f more := by
  induction nodes with
  | nil => rfl
  | cons node nodes ih => rw [List.cons_append, updateIn, updateIn, ih, List.cons_append]

theorem updateIn_eq_map (id : Nat) (f : Element Nat → Element Nat) (nodes : List (Node Nat)) :
    updateIn id f nodes = nodes.map (updateAt id f) := by
  induction nodes with
  | nil => rfl
  | cons node nodes ih => rw [updateIn, ih, List.map_cons]

/-- An update that changes nothing where it applies changes nothing. -/
theorem updateIn_eq_self (id : Nat) (f : Element Nat → Element Nat) (nodes : List (Node Nat))
    (h : ∀ e ∈ elementsIn nodes, e.label = id → f e = e) : updateIn id f nodes = nodes := by
  induction nodes using forestInduction with
  | nil => rfl
  | leaf node rest hleaf ih =>
      rw [elementsIn_leaf node rest hleaf] at h
      rw [updateIn_leaf id f node rest hleaf, ih h]
  | element label tag attributes contents children rest _ ihchildren ihrest =>
      rw [elementsIn_element, List.forall_mem_cons, List.forall_mem_append] at h
      by_cases hlabel : label = id
      · subst hlabel
        rw [updateIn_self, h.1 rfl, ihrest h.2.2]
        rfl
      · rw [updateIn_other id label f tag attributes contents children rest hlabel,
          ihchildren h.2.1, ihrest h.2.2]

theorem updateIn_of_not_mem (id : Nat) (f : Element Nat → Element Nat) (nodes : List (Node Nat))
    (h : id ∉ labelsOf nodes) : updateIn id f nodes = nodes := by
  refine updateIn_eq_self id f nodes fun e he hlabel => absurd ?_ h
  rw [← hlabel]
  exact mem_labelsOf nodes e he

theorem updateAt_of_not_mem (id : Nat) (f : Element Nat → Element Nat) (node : Node Nat)
    (h : id ∉ labelsOf [node]) : updateAt id f node = node := by
  have hsame := updateIn_of_not_mem id f [node] h
  rw [updateIn, updateIn] at hsame
  exact List.singleton_inj.mp hsame

/-- All elements have a property after an update if the changed element has it
    with all that is in it, and if the others have it with what the update makes
    of their children. -/
theorem forall_updateIn (P : Element Nat → Prop) (id : Nat) (f : Element Nat → Element Nat)
    (nodes : List (Node Nat))
    (hself : ∀ e ∈ elementsIn nodes, e.label = id →
      P (f e) ∧ ∀ x ∈ elementsIn (f e).children, P x)
    (hother : ∀ e ∈ elementsIn nodes, e.label ≠ id → P (e.withChildren (updateIn id f e.children))) :
    ∀ e ∈ elementsIn (updateIn id f nodes), P e := by
  induction nodes using forestInduction with
  | nil =>
      intro e he
      simp [updateIn] at he
  | leaf node rest hleaf ih =>
      rw [elementsIn_leaf node rest hleaf] at hself hother
      rw [updateIn_leaf id f node rest hleaf, elementsIn_leaf node _ hleaf]
      exact ih hself hother
  | element label tag attributes contents children rest _ ihchildren ihrest =>
      rw [elementsIn_element, List.forall_mem_cons, List.forall_mem_append] at hself hother
      -- The changed element is not searched any further, as the update stops there.
      have hrest := ihrest hself.2.2 hother.2.2
      by_cases hlabel : label = id
      · subst hlabel
        rw [updateIn_self, Element.node, elementsIn_element, List.forall_mem_cons,
          List.forall_mem_append]
        exact ⟨(hself.1 rfl).1, (hself.1 rfl).2, hrest⟩
      · rw [updateIn_other id label f tag attributes contents children rest hlabel,
          elementsIn_element, List.forall_mem_cons, List.forall_mem_append]
        exact ⟨hother.1 hlabel, ihchildren hself.2.1 hother.2.1, hrest⟩

/-- The numbers of the elements whose tag passes a test, in document order. -/
def labelsNamed (q : Tag → Bool) (nodes : List (Node Nat)) : List Nat :=
  ((elementsIn nodes).filter fun e => q e.tag).map Element.label

theorem labelsNamed_leaf (q : Tag → Bool) (node : Node Nat) (rest : List (Node Nat))
    (h : node.asElement? = none) : labelsNamed q (node :: rest) = labelsNamed q rest := by
  rw [labelsNamed, elementsIn_leaf node rest h, labelsNamed]

theorem labelsNamed_element (q : Tag → Bool) (e : Element Nat) (rest : List (Node Nat)) :
    labelsNamed q (e.node :: rest) =
      (if q e.tag then [e.label] else []) ++ (labelsNamed q e.children ++ labelsNamed q rest) := by
  rw [labelsNamed, Element.node, elementsIn_element, List.filter_cons, List.filter_append]
  by_cases hq : q e.tag = true
  · rw [if_pos hq, if_pos hq, List.map_cons, List.map_append]
    rfl
  · rw [if_neg hq, if_neg hq, List.map_append]
    rfl

theorem labelsNamed_append (q : Tag → Bool) (nodes more : List (Node Nat)) :
    labelsNamed q (nodes ++ more) = labelsNamed q nodes ++ labelsNamed q more := by
  rw [labelsNamed, elementsIn_append, List.filter_append, List.map_append]
  rfl

/-- An update that keeps an element's number and tag, and the elements of some
    tags in it, keeps the elements of these tags. -/
theorem labelsNamed_updateIn (q : Tag → Bool) (id : Nat) (f : Element Nat → Element Nat)
    (hf : ∀ e, (f e).label = e.label ∧ (f e).tag = e.tag ∧
      labelsNamed q (f e).children = labelsNamed q e.children) (nodes : List (Node Nat)) :
    labelsNamed q (updateIn id f nodes) = labelsNamed q nodes := by
  induction nodes using forestInduction with
  | nil => rfl
  | leaf node rest hleaf ih =>
      rw [updateIn_leaf id f node rest hleaf, labelsNamed_leaf q node _ hleaf,
        labelsNamed_leaf q node rest hleaf, ih]
  | element label tag attributes contents children rest _ ihchildren ihrest =>
      have hold := labelsNamed_element q ⟨label, tag, attributes, contents, children⟩ rest
      rw [Element.node] at hold
      rw [hold]
      -- The update changes this element, or goes on below it.
      by_cases hlabel : label = id
      · subst hlabel
        rcases hf ⟨label, tag, attributes, contents, children⟩ with ⟨hname, htag, hchildren⟩
        rw [updateIn_self, labelsNamed_element, hname, htag, hchildren, ihrest]
      · have hnew := labelsNamed_element q
          ⟨label, tag, attributes, contents, updateIn id f children⟩ (updateIn id f rest)
        rw [Element.node] at hnew
        rw [updateIn_other id label f tag attributes contents children rest hlabel, hnew,
          ihchildren, ihrest]

theorem labelsNamed_all (nodes : List (Node Nat)) :
    labelsNamed (fun _ => true) nodes = labelsOf nodes := by
  rw [labelsNamed, labelsOf_eq, List.filter_eq_self.mpr fun _ _ => rfl]

/-- Where numbers differ, an element below the first root is not that root and not behind it. -/
theorem label_of_mem_below {label : Nat} {children rest : List (Node Nat)}
    (hnodup : (label :: (labelsOf children ++ labelsOf rest)).Nodup) (e : Element Nat)
    (he : e ∈ elementsIn children) : label ≠ e.label ∧ e.label ∉ labelsOf rest := by
  rw [List.nodup_cons, List.mem_append, not_or] at hnodup
  have hmem := mem_labelsOf children e he
  exact ⟨fun heq => hnodup.1.1 (heq ▸ hmem),
    fun hrest => (List.nodup_append.mp hnodup.2).2.2 _ hmem _ hrest rfl⟩

/-- And one behind the first root is not that root and not below it. -/
theorem label_of_mem_behind {label : Nat} {children rest : List (Node Nat)}
    (hnodup : (label :: (labelsOf children ++ labelsOf rest)).Nodup) (e : Element Nat)
    (he : e ∈ elementsIn rest) : label ≠ e.label ∧ e.label ∉ labelsOf children :=
  label_of_mem_below (hnodup.perm (List.perm_append_comm.cons label)) e he

/-- An update of the children of one element trades the numbers in it for others,
    among the elements of any tags. -/
theorem labelsNamed_updateIn_perm (q : Tag → Bool) (nodes : List (Node Nat))
    (hnodup : (labelsOf nodes).Nodup) (e : Element Nat) (he : e ∈ elementsIn nodes)
    (g : List (Node Nat) → List (Node Nat)) :
    (labelsNamed q (updateIn e.label (fun x => x.withChildren (g x.children)) nodes) ++
      labelsNamed q e.children).Perm (labelsNamed q nodes ++ labelsNamed q (g e.children)) := by
  induction nodes using forestInduction with
  | nil => simp at he
  | leaf node rest hleaf ih =>
      rw [elementsIn_leaf node rest hleaf] at he
      rw [labelsOf_leaf node rest hleaf] at hnodup
      rw [updateIn_leaf _ _ node rest hleaf, labelsNamed_leaf q node _ hleaf,
        labelsNamed_leaf q node rest hleaf]
      exact ih hnodup he
  | element label tag attributes contents children rest _ ihchildren ihrest =>
      rw [elementsIn_element, List.mem_cons, List.mem_append] at he
      rw [labelsOf_element] at hnodup
      rcases List.nodup_append.mp hnodup.of_cons with ⟨hchildren, hrest, -⟩
      have hopen (below behind : List (Node Nat)) : labelsNamed q
          (.element label tag attributes contents below :: behind) =
            (if q tag then [label] else []) ++ (labelsNamed q below ++ labelsNamed q behind) :=
        labelsNamed_element q ⟨label, tag, attributes, contents, below⟩ behind
      -- The number is in one of three places, and the other two stay as they are.
      rcases he with rfl | he | he
      · rw [updateIn_self, updateIn_of_not_mem label _ rest fun hmem =>
          hnodup.notMem (List.mem_append_right _ hmem)]
        dsimp only [Element.node, Element.withChildren]
        rw [hopen, hopen, List.perm_iff_count]
        intro id
        simp only [List.count_append]
        omega
      · rcases label_of_mem_below hnodup e he with ⟨hne, hnot⟩
        have hinside := List.perm_iff_count.mp (ihchildren hchildren he)
        rw [updateIn_other _ _ _ _ _ _ _ _ hne, updateIn_of_not_mem _ _ rest hnot,
          hopen, hopen, List.perm_iff_count]
        intro id
        have := hinside id
        simp only [List.count_append] at this ⊢
        omega
      · rcases label_of_mem_behind hnodup e he with ⟨hne, hnot⟩
        have hbeside := List.perm_iff_count.mp (ihrest hrest he)
        rw [updateIn_other _ _ _ _ _ _ _ _ hne, updateIn_of_not_mem _ _ children hnot,
          hopen, hopen, List.perm_iff_count]
        intro id
        have := hbeside id
        simp only [List.count_append] at this ⊢
        omega

theorem labelsOf_updateIn_perm (nodes : List (Node Nat)) (hnodup : (labelsOf nodes).Nodup)
    (e : Element Nat) (he : e ∈ elementsIn nodes) (g : List (Node Nat) → List (Node Nat)) :
    (labelsOf (updateIn e.label (fun x => x.withChildren (g x.children)) nodes) ++
      labelsOf e.children).Perm (labelsOf nodes ++ labelsOf (g e.children)) := by
  have hperm := labelsNamed_updateIn_perm (fun _ => true) nodes hnodup e he g
  simp only [labelsNamed_all] at hperm
  exact hperm

/-- Two updates of one element are one. -/
theorem updateIn_updateIn (id : Nat) (f g : Element Nat → Element Nat)
    (hf : ∀ e, (f e).label = e.label) (nodes : List (Node Nat)) :
    updateIn id g (updateIn id f nodes) = updateIn id (fun e => g (f e)) nodes := by
  induction nodes using forestInduction with
  | nil => rfl
  | leaf node rest hleaf ih =>
      rw [updateIn_leaf id f node rest hleaf, updateIn_leaf id g node _ hleaf,
        updateIn_leaf id _ node rest hleaf, ih]
  | element label tag attributes contents children rest _ ihchildren ihrest =>
      by_cases hlabel : label = id
      · subst hlabel
        rw [updateIn_self, updateIn_self, updateIn_node_self label g _ _ (hf _), ihrest]
      · rw [updateIn_other id label f tag attributes contents children rest hlabel,
          updateIn_other id label g tag attributes contents _ _ hlabel,
          updateIn_other id label _ tag attributes contents children rest hlabel, ihchildren,
          ihrest]

/-- The changed element is there after an update. -/
theorem mem_updateIn (nodes : List (Node Nat)) (hnodup : (labelsOf nodes).Nodup)
    (e : Element Nat) (he : e ∈ elementsIn nodes) (f : Element Nat → Element Nat) :
    f e ∈ elementsIn (updateIn e.label f nodes) := by
  induction nodes using forestInduction with
  | nil => simp at he
  | leaf node rest hleaf ih =>
      rw [elementsIn_leaf node rest hleaf] at he
      rw [labelsOf_leaf node rest hleaf] at hnodup
      rw [updateIn_leaf _ _ node rest hleaf, elementsIn_leaf node _ hleaf]
      exact ih hnodup he
  | element label tag attributes contents children rest _ ihchildren ihrest =>
      rw [elementsIn_element, List.mem_cons, List.mem_append] at he
      rw [labelsOf_element] at hnodup
      rcases List.nodup_append.mp hnodup.of_cons with ⟨hchildren, hrest, -⟩
      -- Above the element there is none with its number, so the update reaches it.
      rcases he with rfl | he | he
      · rw [updateIn_self, Element.node, elementsIn_element]
        exact List.mem_cons_self
      · have hne := (label_of_mem_below hnodup e he).1
        rw [updateIn_other _ _ _ _ _ _ _ _ hne, elementsIn_element, List.mem_cons,
          List.mem_append]
        exact Or.inr (Or.inl (ihchildren hchildren he))
      · have hne := (label_of_mem_behind hnodup e he).1
        rw [updateIn_other _ _ _ _ _ _ _ _ hne, elementsIn_element, List.mem_cons,
          List.mem_append]
        exact Or.inr (Or.inr (ihrest hrest he))

/-- Another element than the changed one stays, with what the update makes of what is below
    it, if the changed element keeps it so. -/
theorem mem_updateIn_withChildren (nodes : List (Node Nat)) (id : Nat)
    (f : Element Nat → Element Nat) (e : Element Nat) (he : e ∈ elementsIn nodes)
    (hne : e.label ≠ id)
    (hf : ∀ x ∈ elementsIn nodes, x.label = id → e ∈ elementsIn x.children →
      e.withChildren (updateIn id f e.children) ∈ elementsIn (f x).children) :
    e.withChildren (updateIn id f e.children) ∈ elementsIn (updateIn id f nodes) := by
  induction nodes using forestInduction with
  | nil => simp at he
  | leaf node rest hleaf ih =>
      rw [elementsIn_leaf node rest hleaf] at he hf
      rw [updateIn_leaf id f node rest hleaf, elementsIn_leaf node _ hleaf]
      exact ih he hf
  | element label tag attributes contents children rest _ ihchildren ihrest =>
      rw [elementsIn_element, List.mem_cons, List.mem_append] at he
      rw [elementsIn_element, List.forall_mem_cons, List.forall_mem_append] at hf
      by_cases hself : label = id
      · subst hself
        rw [updateIn_self, Element.node, elementsIn_element, List.mem_cons, List.mem_append]
        -- The update stops here, so what is below is what the changed element keeps of it.
        rcases he with rfl | he | he
        · exact absurd rfl hne
        · exact Or.inr (Or.inl (hf.1 rfl he))
        · exact Or.inr (Or.inr (ihrest he hf.2.2))
      · rw [updateIn_other _ _ _ _ _ _ _ _ hself, elementsIn_element, List.mem_cons,
          List.mem_append]
        rcases he with rfl | he | he
        · exact Or.inl rfl
        · exact Or.inr (Or.inl (ihchildren he hf.2.1))
        · exact Or.inr (Or.inr (ihrest he hf.2.2))

/-- An update changes nothing below its element, which is not below itself. -/
theorem updateIn_below (nodes : List (Node Nat)) (hnodup : (labelsOf nodes).Nodup)
    (f : Element Nat → Element Nat) (x : Element Nat) (hx : x ∈ elementsIn nodes)
    (e : Element Nat) (he : e ∈ elementsIn x.children) :
    updateIn x.label f e.children = e.children := by
  refine updateIn_of_not_mem _ f _ fun hmem => label_not_mem_children nodes hnodup x hx ?_
  rcases exists_of_mem_labelsOf _ _ hmem with ⟨y, hy, hlabel⟩
  exact hlabel ▸ mem_labelsOf _ y (mem_elementsIn_of_mem_children x.children e y he hy)

/-- Another element is there after an update that keeps what the changed element
    has in it, if it does not hold that element. -/
theorem mem_updateIn_other (nodes : List (Node Nat)) (id : Nat) (f : Element Nat → Element Nat)
    (hf : ∀ e, ∀ x ∈ elementsIn e.children, x ∈ elementsIn (f e).children) (e : Element Nat)
    (he : e ∈ elementsIn nodes) (hne : e.label ≠ id) (hoff : updateIn id f e.children = e.children) :
    e ∈ elementsIn (updateIn id f nodes) := by
  have hsame : e.withChildren (updateIn id f e.children) = e := by rw [hoff]; rfl
  rw [← hsame]
  refine mem_updateIn_withChildren nodes id f e he hne fun x _ _ hin => ?_
  rw [hsame]
  exact hf x e hin

theorem removeBelow_leaf (id : Nat) (node : Node Nat) (h : node.asElement? = none) :
    removeBelow id node = node ∧ node.hasLabel id = false := by
  cases node with
  | element => simp [asElement?] at h
  | _ => exact ⟨rfl, rfl⟩

theorem removeFrom_leaf (id : Nat) (node : Node Nat) (rest : List (Node Nat))
    (h : node.asElement? = none) : removeFrom id (node :: rest) = node :: removeFrom id rest := by
  rcases removeBelow_leaf id node h with ⟨hbelow, hlabel⟩
  rw [removeFrom, hlabel, hbelow]
  rfl

theorem removeFrom_self (id : Nat) (tag : Tag) (attributes : List Attribute)
    (contents children rest : List (Node Nat)) :
    removeFrom id (.element id tag attributes contents children :: rest) = removeFrom id rest := by
  rw [removeFrom, hasLabel, decide_eq_true rfl, if_pos rfl]

theorem removeFrom_other (id label : Nat) (tag : Tag) (attributes : List Attribute)
    (contents children rest : List (Node Nat)) (h : label ≠ id) :
    removeFrom id (.element label tag attributes contents children :: rest) =
      .element label tag attributes contents (removeFrom id children) :: removeFrom id rest := by
  rw [removeFrom, hasLabel, if_neg (by simpa using h), removeBelow]

theorem removeFrom_of_not_mem (id : Nat) (nodes : List (Node Nat)) (h : id ∉ labelsOf nodes) :
    removeFrom id nodes = nodes := by
  rw [labelsOf_eq] at h
  induction nodes using forestInduction with
  | nil => rfl
  | leaf node rest hleaf ih =>
      rw [elementsIn_leaf node rest hleaf] at h
      rcases removeBelow_leaf id node hleaf with ⟨hbelow, hlabel⟩
      rw [removeFrom, hlabel, hbelow, ih h]
      rfl
  | element label tag attributes contents children rest _ ihchildren ihrest =>
      rw [elementsIn_element, List.map_cons, List.mem_cons, List.map_append, List.mem_append,
        not_or, not_or] at h
      rw [removeFrom, removeBelow, ihchildren h.2.1, ihrest h.2.2, hasLabel,
        decide_eq_false (fun heq => h.1 heq.symm)]
      rfl

theorem removeFrom_append (id : Nat) (nodes more : List (Node Nat)) :
    removeFrom id (nodes ++ more) = removeFrom id nodes ++ removeFrom id more := by
  induction nodes with
  | nil => rfl
  | cons node nodes ih =>
      rw [List.cons_append, removeFrom, removeFrom, ih]
      by_cases h : node.hasLabel id = true
      · rw [if_pos h, if_pos h]
      · rw [if_neg h, if_neg h, List.cons_append]

/-- Taking an element off the end of trees that do not have it. -/
theorem removeFrom_append_self (nodes : List (Node Nat)) (e : Element Nat)
    (h : e.label ∉ labelsOf nodes) : removeFrom e.label (nodes ++ [e.node]) = nodes := by
  rw [removeFrom_append, removeFrom_of_not_mem e.label nodes h, Element.node, removeFrom, hasLabel,
    decide_eq_true rfl, if_pos rfl, removeFrom, List.append_nil]

/-- Taking an element out takes its numbers, and no others. -/
theorem labelsOf_removeFrom_perm (nodes : List (Node Nat)) (hnodup : (labelsOf nodes).Nodup)
    (m : Element Nat) (hm : m ∈ elementsIn nodes) :
    (labelsOf (removeFrom m.label nodes) ++ labelsOf [m.node]).Perm (labelsOf nodes) := by
  induction nodes using forestInduction with
  | nil => simp at hm
  | leaf node rest hleaf ih =>
      rw [elementsIn_leaf node rest hleaf] at hm
      rw [labelsOf_leaf node rest hleaf] at hnodup ⊢
      rw [removeFrom_leaf _ node rest hleaf, labelsOf_leaf node _ hleaf]
      exact ih hnodup hm
  | element label tag attributes contents children rest _ ihchildren ihrest =>
      rw [elementsIn_element, List.mem_cons, List.mem_append] at hm
      rw [labelsOf_element] at hnodup
      rcases List.nodup_append.mp hnodup.of_cons with ⟨hchildren, hrest, -⟩
      -- Where the element is not, nothing is taken out.
      rcases hm with rfl | hm | hm
      · rw [removeFrom_self, removeFrom_of_not_mem label rest fun hmem =>
            hnodup.notMem (List.mem_append_right _ hmem),
          Element.node, labelsOf_element, labelsOf_element, labelsOf, List.append_nil]
        exact List.perm_append_comm
      · rcases label_of_mem_below hnodup m hm with ⟨hne, hnot⟩
        have hinside := List.perm_iff_count.mp (ihchildren hchildren hm)
        rw [removeFrom_other _ _ _ _ _ _ _ hne, removeFrom_of_not_mem _ rest hnot,
          labelsOf_element, labelsOf_element, List.cons_append]
        refine List.Perm.cons label (List.perm_iff_count.mpr fun id => ?_)
        have := hinside id
        simp only [List.count_append] at this ⊢
        omega
      · rcases label_of_mem_behind hnodup m hm with ⟨hne, hnot⟩
        have hbeside := List.perm_iff_count.mp (ihrest hrest hm)
        rw [removeFrom_other _ _ _ _ _ _ _ hne, removeFrom_of_not_mem _ children hnot,
          labelsOf_element, labelsOf_element, List.cons_append]
        refine List.Perm.cons label (List.perm_iff_count.mpr fun id => ?_)
        have := hbeside id
        simp only [List.count_append] at this ⊢
        omega

/-- An element that does not go along stays, with what stays below it. -/
theorem mem_removeFrom (id : Nat) (nodes : List (Node Nat)) (e : Element Nat)
    (he : e ∈ elementsIn nodes)
    (hoff : ∀ m ∈ elementsIn nodes, m.label = id → e ∉ elementsIn [m.node]) :
    e.withChildren (removeFrom id e.children) ∈ elementsIn (removeFrom id nodes) := by
  induction nodes using forestInduction with
  | nil => simp at he
  | leaf node rest hleaf ih =>
      rw [elementsIn_leaf node rest hleaf] at he hoff
      rw [removeFrom_leaf id node rest hleaf, elementsIn_leaf node _ hleaf]
      exact ih he hoff
  | element label tag attributes contents children rest _ ihchildren ihrest =>
      rw [elementsIn_element, List.forall_mem_cons, List.forall_mem_append] at hoff
      rw [elementsIn_element, List.mem_cons, List.mem_append] at he
      by_cases hlabel : label = id
      · subst hlabel
        have hout := hoff.1 rfl
        rw [Element.node, elementsIn_element, List.mem_cons, List.mem_append, not_or,
          not_or] at hout
        rw [removeFrom_self]
        -- What is in the element goes along, so the other one is behind it.
        rcases he with rfl | he | he
        · exact absurd rfl hout.1
        · exact absurd he hout.2.1
        · exact ihrest he hoff.2.2
      · rw [removeFrom_other _ _ _ _ _ _ _ hlabel, elementsIn_element, List.mem_cons,
          List.mem_append]
        rcases he with rfl | he | he
        · exact Or.inl rfl
        · exact Or.inr (Or.inl (ihchildren he hoff.2.1))
        · exact Or.inr (Or.inr (ihrest he hoff.2.2))

end Node

end CiteRender
