import CiteRender.Proofs.Html.Cells

/-!
# A Marked Body in a Tree

What it takes for a document to have a body with a mark, said of the tree that
is still under construction: the `html` element is right below the document and
nowhere else, the body right below that and nowhere else, the body has the mark,
and there is no other body.

None of this changes when nodes are added, when texts grow, when attributes are
added, or when any other node is moved.

## Main definitions

* `Html.HasMark`: Some attributes have a mark among them.
* `Html.Scaffold.Holds`: A tree with a marked body.
* `Html.Scaffold.Grows`: A tree that goes on from another, with the body kept.

## Theorems

* `Holds.append`, `Holds.insertBefore`, `Holds.add`, ...: What each operation
  keeps.
* `Holds.exists_mem_trees`: The finished trees have the marked body.
-/

namespace CiteRender

namespace Html

/-- Whether there is an attribute of a name, in no vocabulary. -/
def HasMark (mark : String) (attributes : List Attribute) : Prop :=
  ∃ a ∈ attributes, a.space = .plain ∧ a.name = mark

namespace Scaffold

/-- The `html` element and a body with a mark are where they belong, and there
    is no other body. -/
structure Holds (html body : Nat) (mark : String) (nodes : Scaffold) : Prop where
  document : nodes.element? 0 = none
  outer : html ∈ nodes.children 0
  inner : body ∈ nodes.children html
  root : ∃ cell, nodes.element? html = some cell ∧ cell.tag = .html "html"
  marked : ∃ cell, nodes.element? body = some cell ∧ cell.tag = .html "body" ∧
    HasMark mark cell.attributes
  onlyOuter : ∀ i, html ∈ nodes.children i → i = 0
  onlyInner : ∀ i, body ∈ nodes.children i → i = html
  unique : ∀ i cell, nodes.element? i = some cell → cell.tag.name = "body" → i = body

/-- The elements of one tree are elements of another, with the same tags. -/
def Extends (nodes nodes' : Scaffold) : Prop :=
  ∀ i cell, nodes.element? i = some cell →
    ∃ cell', nodes'.element? i = some cell' ∧ cell'.tag = cell.tag

/-- A tree that goes on from another and has the marked body too. -/
structure Grows (html body : Nat) (mark : String) (nodes nodes' : Scaffold) : Prop where
  holds : nodes'.Holds html body mark
  extended : nodes.Extends nodes'

variable {html body : Nat} {mark : String} {nodes nodes' : Scaffold}

theorem extends_of_eq (heq : ∀ i, nodes'.element? i = nodes.element? i) : nodes.Extends nodes' :=
  fun i cell hcell => ⟨cell, (heq i).trans hcell, rfl⟩

theorem Extends.tag_eq (h : nodes.Extends nodes') (i : Nat) (hi : (nodes.element? i).isSome) :
    nodes'.tag i = nodes.tag i ∧ (nodes'.element? i).isSome := by
  rcases Option.isSome_iff_exists.mp hi with ⟨cell, hcell⟩
  rcases h i cell hcell with ⟨cell', hcell', htag⟩
  rw [Scaffold.tag_eq, Scaffold.tag_eq, hcell, hcell']
  exact ⟨htag, rfl⟩

theorem Extends.trans {nodes'' : Scaffold} (h : nodes.Extends nodes')
    (h' : nodes'.Extends nodes'') : nodes.Extends nodes'' := by
  intro i cell hcell
  rcases h i cell hcell with ⟨cell', hcell', htag⟩
  rcases h' i cell' hcell' with ⟨cell'', hcell'', htag'⟩
  exact ⟨cell'', hcell'', htag'.trans htag⟩

theorem Grows.refl (h : nodes.Holds html body mark) : Grows html body mark nodes nodes :=
  ⟨h, extends_of_eq fun _ => rfl⟩

theorem Grows.trans {nodes'' : Scaffold} (h : Grows html body mark nodes nodes')
    (h' : Grows html body mark nodes' nodes'') : Grows html body mark nodes nodes'' :=
  ⟨h'.holds, h.extended.trans h'.extended⟩

theorem Holds.tag_html (h : nodes.Holds html body mark) : nodes.tag html = .html "html" := by
  rcases h.root with ⟨cell, hcell, htag⟩
  rw [tag_eq, hcell]
  exact htag

theorem Holds.tag_body (h : nodes.Holds html body mark) : nodes.tag body = .html "body" := by
  rcases h.marked with ⟨cell, hcell, htag, -⟩
  rw [tag_eq, hcell]
  exact htag

theorem Holds.ne_size (h : nodes.Holds html body mark) : html ≠ nodes.size ∧ body ≠ nodes.size := by
  rcases h.root with ⟨_, hroot, -⟩
  rcases h.marked with ⟨_, hmarked, -⟩
  exact ⟨Nat.ne_of_lt (lt_of_element? _ _ _ hroot), Nat.ne_of_lt (lt_of_element? _ _ _ hmarked)⟩

/-- A change of place of other nodes. -/
theorem Holds.of_children (h : nodes.Holds html body mark)
    (helement : ∀ i, nodes'.element? i = nodes.element? i)
    (hhtml : ∀ i, html ∈ nodes'.children i ↔ html ∈ nodes.children i)
    (hbody : ∀ i, body ∈ nodes'.children i ↔ body ∈ nodes.children i) :
    Grows html body mark nodes nodes' where
  extended := extends_of_eq helement
  holds :=
    { document := (helement 0).trans h.document
      outer := (hhtml 0).mpr h.outer
      inner := (hbody html).mpr h.inner
      root := by simpa only [helement] using h.root
      marked := by simpa only [helement] using h.marked
      onlyOuter := fun i hi => h.onlyOuter i ((hhtml i).mp hi)
      onlyInner := fun i hi => h.onlyInner i ((hbody i).mp hi)
      unique := fun i cell hcell => h.unique i cell ((helement i).symm.trans hcell) }

theorem Holds.append (h : nodes.Holds html body mark) (p i : Nat) (hi : i ≠ html ∧ i ≠ body) :
    Grows html body mark nodes (nodes.append p i) :=
  h.of_children (nodes.element?_append p i)
    (fun j => nodes.mem_children_append p i j html (Ne.symm hi.1))
    fun j => nodes.mem_children_append p i j body (Ne.symm hi.2)

theorem Holds.insertBefore (h : nodes.Holds html body mark) (sibling i : Nat)
    (hi : i ≠ html ∧ i ≠ body) : Grows html body mark nodes (nodes.insertBefore sibling i) :=
  h.of_children (nodes.element?_insertBefore sibling i)
    (fun j => nodes.mem_children_insertBefore sibling i j html (Ne.symm hi.1))
    fun j => nodes.mem_children_insertBefore sibling i j body (Ne.symm hi.2)

/-- The children of an element inside the body, or of the body, can be moved. -/
theorem Holds.moveChildren (h : nodes.Holds html body mark) (source target : Nat)
    (hsource : source ≠ 0 ∧ source ≠ html) :
    Grows html body mark nodes (nodes.moveChildren source target) := by
  refine moveChildren_induction (P := fun nodes' => Grows html body mark nodes nodes') nodes source
    target (Grows.refl h) fun nodes' i hi hgrows => hgrows.trans (hgrows.holds.append target i ?_)
  exact ⟨fun heq => hsource.1 (h.onlyOuter source (heq ▸ hi)),
    fun heq => hsource.2 (h.onlyInner source (heq ▸ hi))⟩

theorem Holds.add (h : nodes.Holds html body mark) (kind : CellKind)
    (hkind : ∀ cell, kind.asElement? = some cell → cell.tag.name ≠ "body") :
    Grows html body mark nodes (nodes.add kind).1 := by
  -- A new cell has a number of its own, so those of the old ones say what they did.
  have hold (i : Nat) (cell : ElementCell) (hcell : nodes.element? i = some cell) :
      element? (nodes.add kind).1 i = some cell := by
    rw [element?_add, if_neg (Nat.ne_of_lt (lt_of_element? _ _ _ hcell)), hcell]
  rcases h.root with ⟨root, hroot, hroottag⟩
  rcases h.marked with ⟨marked, hmarked, hmarkedtag, hmark⟩
  refine ⟨⟨?_, ?_, ?_, ⟨root, hold _ _ hroot, hroottag⟩,
    ⟨marked, hold _ _ hmarked, hmarkedtag, hmark⟩, ?_, ?_, ?_⟩,
    fun i cell hcell => ⟨cell, hold i cell hcell, rfl⟩⟩
  · have hsize : 0 ≠ nodes.size := Nat.ne_of_lt (Nat.zero_lt_of_lt (lt_of_element? _ _ _ hroot))
    rw [element?_add, if_neg hsize]
    exact h.document
  · rw [children_add]
    exact h.outer
  · rw [children_add]
    exact h.inner
  · intro i hi
    exact h.onlyOuter i (children_add nodes kind i ▸ hi)
  · intro i hi
    exact h.onlyInner i (children_add nodes kind i ▸ hi)
  · intro i cell hcell hname
    rw [element?_add] at hcell
    split at hcell
    · exact absurd hname (hkind cell hcell)
    · exact h.unique i cell hcell hname

theorem Holds.extendText (h : nodes.Holds html body mark) (i : Nat) (s : List Char) :
    Grows html body mark nodes (nodes.extendText i s) :=
  h.of_children (fun j => nodes.element?_extendText i j s)
    (fun j => by rw [children_extendText]) fun j => by rw [children_extendText]

theorem Holds.appendText (h : nodes.Holds html body mark) (parent : Nat) (s : List Char) :
    Grows html body mark nodes (nodes.appendText parent s) := by
  rw [Scaffold.appendText]
  split
  · exact h.extendText _ s
  · have hadd := h.add (.text [s]) (by simp [CellKind.asElement?])
    exact hadd.trans (hadd.holds.append _ _ ⟨Ne.symm h.ne_size.1, Ne.symm h.ne_size.2⟩)

theorem Holds.insertTextBefore (h : nodes.Holds html body mark) (sibling : Nat) (s : List Char) :
    Grows html body mark nodes (nodes.insertTextBefore sibling s) := by
  rw [Scaffold.insertTextBefore]
  dsimp only
  split
  · exact h.extendText _ s
  · have hadd := h.add (.text [s]) (by simp [CellKind.asElement?])
    exact hadd.trans (hadd.holds.insertBefore _ _ ⟨Ne.symm h.ne_size.1, Ne.symm h.ne_size.2⟩)

theorem Holds.addAttributes (h : nodes.Holds html body mark) (i : Nat)
    (more : List (String × String)) : Grows html body mark nodes (nodes.addAttributes i more) := by
  -- An element may get more attributes, but it keeps its tag and those that it has.
  have hnew (j : Nat) (cell : ElementCell) (hcell : nodes.element? j = some cell) :
      ∃ cell', element? (nodes.addAttributes i more) j = some cell' ∧ cell'.tag = cell.tag ∧
        ∀ a ∈ cell.attributes, a ∈ cell'.attributes := by
    rw [element?_addAttributes, hcell]
    split
    · exact ⟨_, rfl, rfl, fun a ha => List.mem_append_left _ ha⟩
    · exact ⟨cell, rfl, rfl, fun a ha => ha⟩
  rcases h.root with ⟨root, hroot, hroottag⟩
  rcases hnew _ _ hroot with ⟨root', hroot', hroottag', -⟩
  rcases h.marked with ⟨marked, hmarked, hmarkedtag, a, ha, hmark⟩
  rcases hnew _ _ hmarked with ⟨marked', hmarked', hmarkedtag', hattributes⟩
  refine ⟨⟨?_, ?_, ?_, ⟨root', hroot', hroottag'.trans hroottag⟩,
    ⟨marked', hmarked', hmarkedtag'.trans hmarkedtag, a, hattributes a ha, hmark⟩, ?_, ?_, ?_⟩,
    fun j cell hcell => (hnew j cell hcell).imp fun _ hcell' => ⟨hcell'.1, hcell'.2.1⟩⟩
  · rw [element?_addAttributes, h.document]
    split <;> rfl
  · rw [children_addAttributes]
    exact h.outer
  · rw [children_addAttributes]
    exact h.inner
  · intro j hj
    exact h.onlyOuter j (children_addAttributes nodes i j more ▸ hj)
  · intro j hj
    exact h.onlyInner j (children_addAttributes nodes i j more ▸ hj)
  · intro j cell hcell hname
    rw [element?_addAttributes] at hcell
    split at hcell
    · rcases Option.map_eq_some_iff.mp hcell with ⟨old, hold, rfl⟩
      exact h.unique j old hold hname
    · exact h.unique j cell hcell hname

/-- The finished trees have a body, and every body there has the mark. -/
theorem Holds.mem_trees (h : nodes.Holds html body mark) :
    (∃ e ∈ Node.elementsIn nodes.trees, e.tag.name = "body") ∧
      ∀ e ∈ Node.elementsIn nodes.trees, e.tag.name = "body" → HasMark mark e.attributes := by
  rcases h.root with ⟨root, hroot, -⟩
  rcases h.marked with ⟨marked, hmarked, htag, hmark⟩
  constructor
  · rcases nodes.exists_mem_trees html body root marked h.outer hroot h.inner hmarked with
      ⟨e, he, hetag, -⟩
    exact ⟨e, he, by rw [hetag, htag]; rfl⟩
  · intro e he hname
    rcases nodes.element?_of_mem_trees e he with ⟨i, contents, hcell⟩
    have hi := h.unique i _ hcell hname
    rw [hi, hmarked] at hcell
    rw [Option.some.inj hcell] at hmark
    exact hmark

end Scaffold

end Html

end CiteRender
