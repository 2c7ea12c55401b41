import CiteRender.Html.Parse

/-!
# Stacks of Open Elements

What the tags of the open elements tell about where a search among them ends.

The parts of a table stand in each other in one way only, with nothing between
them: a row is right inside a section, and a section right inside a table. So a
search that a table, a cell or a template would stop can never pass by a row
either, as behind a row there is a section, and behind that a table. Rules that
close an element they find in reach therefore leave the parts of tables alone,
although rows and sections do not bound the reach themselves.

## Main definitions

* `Html.isPart`: The parts of tables, and templates.
* `Html.isLoose`: The tags that no rule for tables looks for.
* `Html.Nested`: The parts among some tags stand in each other as they should.

## Theorems

* `nested_filter`: Loose tags do not matter.
* `reaches_split`: What a search finds has only loose tags before it.
-/

namespace CiteRender

namespace Html

/-- The parts of tables, and templates, which hold such parts too. -/
def partNames : List String :=
  ["table", "template", "tbody", "tfoot", "thead", "tr", "td", "th", "caption", "colgroup"]

/-- Whether a tag is a part of a table or a template. -/
def isPart (tag : Tag) : Bool :=
  tag.isOneOf partNames

/-- Whether a tag is neither a part nor the document or its body. -/
def isLoose (tag : Tag) : Bool :=
  !tag.isOneOf ("html" :: "body" :: partNames)

/-- The parts that a part stands in; nothing if it may stand anywhere. -/
def holders (name : String) : List String :=
  if ["caption", "colgroup", "tbody", "tfoot", "thead"].contains name then ["table", "template"]
  else if name = "tr" then ["tbody", "tfoot", "thead", "template"]
  else if ["td", "th"].contains name then ["tr", "template"]
  else []

/-- Whether a tag may stand right inside another. -/
def StandsIn (tag : Tag) (outer : Option Tag) : Prop :=
  tag.space = .html → holders tag.name ≠ [] → ∃ t ∈ outer, t.isOneOf (holders tag.name) = true

/-- The parts among some tags, the innermost first, stand in each other as
    they should. -/
def Nested : List Tag → Prop
  | [] => True
  | tag :: tags => StandsIn tag tags.head? ∧ Nested tags

theorem isOneOf_iff (tag : Tag) (names : List String) :
    tag.isOneOf names = true ↔ tag.space = .html ∧ tag.name ∈ names := by
  simp [Tag.isOneOf]

theorem isOneOf_mono (tag : Tag) {names more : List String} (hsub : ∀ n ∈ names, n ∈ more)
    (h : tag.isOneOf names = true) : tag.isOneOf more = true := by
  rw [isOneOf_iff] at h ⊢
  exact ⟨h.1, hsub _ h.2⟩

theorem isPart_eq_false_of_isLoose (tag : Tag) (h : isLoose tag = true) : isPart tag = false := by
  rw [isLoose, Bool.not_eq_true'] at h
  rw [isPart, ← Bool.not_eq_true]
  intro hpart
  rw [isOneOf_mono tag (fun n hn => List.mem_cons_of_mem _ (List.mem_cons_of_mem _ hn)) hpart] at h
  exact absurd h (by simp)

/-- A tag with a name that is in some list is loose if no name there is fixed. -/
theorem isLoose_of_isOneOf (tag : Tag) (names : List String)
    (hnames : ∀ n ∈ names, n ∉ "html" :: "body" :: partNames) (h : tag.isOneOf names = true) :
    isLoose tag = true := by
  rw [isOneOf_iff] at h
  rw [isLoose, Bool.not_eq_true', ← Bool.not_eq_true, isOneOf_iff, not_and]
  exact fun _ => hnames _ h.2

/-- A tag of another vocabulary is loose. -/
theorem isLoose_of_space (tag : Tag) (h : tag.space ≠ .html) : isLoose tag = true := by
  rw [isLoose, Bool.not_eq_true', ← Bool.not_eq_true, isOneOf_iff]
  exact fun hhtml => h hhtml.1

theorem mem_partNames_of_holders (name n : String) (hn : n ∈ holders name) :
    name ∈ partNames ∧ n ∈ partNames := by
  unfold holders at hn
  split at hn
  · next hsection =>
      exact ⟨(by decide : ∀ m ∈ ["caption", "colgroup", "tbody", "tfoot", "thead"],
        m ∈ partNames) name (by simpa using hsection),
        (by decide : ∀ m ∈ ["table", "template"], m ∈ partNames) n hn⟩
  · split at hn
    · next hrow =>
        rw [hrow]
        exact ⟨by decide,
          (by decide : ∀ m ∈ ["tbody", "tfoot", "thead", "template"], m ∈ partNames) n hn⟩
    · split at hn
      · next hcell =>
          exact ⟨(by decide : ∀ m ∈ ["td", "th"], m ∈ partNames) name (by simpa using hcell),
            (by decide : ∀ m ∈ ["tr", "template"], m ∈ partNames) n hn⟩
      · exact absurd hn List.not_mem_nil

theorem standsIn_of_isLoose (tag : Tag) (outer : Option Tag) (h : isLoose tag = true) :
    StandsIn tag outer := by
  intro hspace hholders
  rcases List.exists_mem_of_ne_nil _ hholders with ⟨n, hn⟩
  have hpart : isPart tag = true :=
    (isOneOf_iff tag partNames).mpr ⟨hspace, (mem_partNames_of_holders _ n hn).1⟩
  rw [isPart_eq_false_of_isLoose tag h] at hpart
  exact absurd hpart (by simp)

theorem nested_of_append (before after : List Tag) (h : Nested (before ++ after)) :
    Nested after := by
  induction before with
  | nil => exact h
  | cons tag before ih => exact ih h.2

theorem find?_append_loose (before after : List Tag) (hbefore : ∀ t ∈ before, isLoose t = true) :
    (before ++ after).find? isPart = after.find? isPart := by
  have hnone : before.find? isPart = none := List.find?_eq_none.mpr fun t ht => by
    simp [isPart_eq_false_of_isLoose t (hbefore t ht)]
  rw [List.find?_append, hnone, Option.none_or]

/-- The innermost part, if the innermost tag of all is one. -/
theorem find?_of_head? (tags : List Tag) (tag : Tag) (h : tags.head? = some tag)
    (hpart : isPart tag = true) : tags.find? isPart = some tag := by
  rcases List.head?_eq_some_iff.mp h with ⟨rest, rfl⟩
  exact List.find?_cons_of_pos hpart

variable {b : Builder}

/-- Striking an element with a loose tag leaves the others in each other. -/
theorem nested_filter (id : Nat) (hid : isLoose (b.tag id) = true) (opened : List Nat)
    (h : Nested (opened.map b.tag)) : Nested ((opened.filter (· ≠ id)).map b.tag) := by
  induction opened with
  | nil => exact h
  | cons x opened ih =>
      by_cases hx : x = id
      · rw [List.filter_cons_of_neg (by simpa using hx)]
        exact ih h.2
      · rw [List.filter_cons_of_pos (by simpa using hx), List.map_cons]
        refine ⟨fun hspace hholders => ?_, ih h.2⟩
        -- What holds a part is a part itself, so it was not struck.
        rcases h.1 hspace hholders with ⟨t, ht, hone⟩
        cases opened with
        | nil => simp at ht
        | cons y opened =>
            have ht : b.tag y = t := by simpa using ht
            refine ⟨t, ?_, hone⟩
            have hy : y ≠ id := by
              rintro rfl
              have hpart : isPart t = true :=
                isOneOf_mono t (fun n hn => (mem_partNames_of_holders _ n hn).2) hone
              rw [← ht, isPart_eq_false_of_isLoose _ hid] at hpart
              exact absurd hpart (by simp)
            rw [List.filter_cons_of_pos (by simpa using hy), List.map_cons, List.head?_cons, ht]
            rfl

theorem find?_filter (id : Nat) (hid : isLoose (b.tag id) = true) (opened : List Nat) :
    ((opened.filter (· ≠ id)).map b.tag).find? isPart = (opened.map b.tag).find? isPart := by
  induction opened with
  | nil => rfl
  | cons x opened ih =>
      by_cases hx : x = id
      · rw [List.filter_cons_of_neg (by simpa using hx), ih, List.map_cons, List.find?_cons_of_neg]
        rw [hx, isPart_eq_false_of_isLoose _ hid]
        exact Bool.false_ne_true
      · rw [List.filter_cons_of_pos (by simpa using hx), List.map_cons, List.map_cons,
          List.find?_cons, List.find?_cons, ih]

/-! Searches. -/

/-- Bounds that are at least the default ones. -/
def Bounds (bounds : Tag → Bool) : Prop :=
  ∀ tag, defaultBounds tag = true → bounds tag = true

theorem bounds_default : Bounds defaultBounds :=
  fun _ h => h

theorem bounds_list : Bounds listBounds :=
  fun _ h => by rw [listBounds, h, Bool.or_true]

theorem bounds_button : Bounds buttonBounds :=
  fun _ h => by rw [buttonBounds, h, Bool.or_true]

/-- A part that does not bound the reach stands in another part. -/
theorem holders_of_isPart (tag : Tag) (hpart : isPart tag = true)
    (hbounds : defaultBounds tag = false) : tag.space = .html ∧ holders tag.name ≠ [] := by
  rcases tag with ⟨space, name⟩
  rw [isPart, isOneOf_iff] at hpart
  rcases hpart with ⟨rfl, hname⟩
  refine ⟨rfl, fun hnil => ?_⟩
  simp only [partNames, List.mem_cons, List.not_mem_nil, or_false] at hname
  rcases hname with rfl | rfl | rfl | rfl | rfl | rfl | rfl | rfl | rfl | rfl <;>
    first
      | exact absurd hbounds (by decide)
      | exact absurd hnil (by decide)

/-- From a part on, a search for loose tags finds nothing. -/
theorem reaches_of_isPart {bounds : Tag → Bool} (hbounds : Bounds bounds) (p : Nat → Bool)
    (hp : ∀ x, p x = true → isLoose (b.tag x) = true) (opened : List Nat)
    (hnested : Nested (opened.map b.tag)) (hpart : (opened.map b.tag).head?.any isPart = true) :
    b.reaches bounds p opened = false := by
  induction opened with
  | nil => rfl
  | cons x opened ih =>
      have hx : isPart (b.tag x) = true := by simpa using hpart
      have hpx : p x = false := by
        rw [← Bool.not_eq_true]
        intro hpx
        rw [isPart_eq_false_of_isLoose _ (hp x hpx)] at hx
        exact absurd hx (by simp)
      rw [Builder.reaches, hpx, Bool.false_or]
      -- A part that does not bound the search stands in one that is a part too.
      rcases hbound : bounds (b.tag x) with _ | _
      · have hdefault : defaultBounds (b.tag x) = false := by
          rw [← Bool.not_eq_true]
          intro hdefault
          rw [hbounds _ hdefault] at hbound
          exact absurd hbound (by simp)
        rcases holders_of_isPart _ hx hdefault with ⟨hspace, hholders⟩
        rcases hnested.1 hspace hholders with ⟨t, ht, hone⟩
        rw [ih hnested.2, Bool.and_false]
        rw [Option.any_eq_true]
        exact ⟨t, ht, isOneOf_mono t (fun n hn => (mem_partNames_of_holders _ n hn).2) hone⟩
      · rfl

/-- What a search for loose tags finds has only loose tags before it. -/
theorem reaches_split {bounds : Tag → Bool} (hbounds : Bounds bounds) (p : Nat → Bool)
    (hp : ∀ x, p x = true → isLoose (b.tag x) = true) (body html : Nat)
    (hbody : b.tag body = .html "body") (hhtml : b.tag html = .html "html") (inner : List Nat)
    (hinner : ∀ x ∈ inner, isLoose (b.tag x) = true ∨ isPart (b.tag x) = true)
    (hnested : Nested ((inner ++ [body, html]).map b.tag))
    (h : b.reaches bounds p (inner ++ [body, html]) = true) :
    ∃ before x after, inner = before ++ x :: after ∧
      (∀ y ∈ before, isLoose (b.tag y) = true) ∧ p x = true := by
  have hloose (x : Nat) (hx : isLoose (b.tag x) = false) : p x = false := by
    rw [← Bool.not_eq_true]
    intro hpx
    rw [hp x hpx] at hx
    exact absurd hx (by simp)
  induction inner with
  | nil =>
      have hstop : bounds (.html "html") = true := hbounds _ (by decide)
      rw [List.nil_append, Builder.reaches, Builder.reaches, hloose body (by rw [hbody]; decide),
        hloose html (by rw [hhtml]; decide), hhtml, hstop] at h
      exact absurd h (by simp)
  | cons x inner ih =>
      rw [List.forall_mem_cons] at hinner
      -- From a part on nothing is found, so all before what is found are loose.
      rcases hinner.1 with hx | hx
      · rcases hpx : p x with _ | _
        · rw [List.cons_append, Builder.reaches, hpx, Bool.false_or, Bool.and_eq_true] at h
          rcases ih hinner.2 hnested.2 h.2 with ⟨before, y, after, rfl, hbefore, hy⟩
          exact ⟨x :: before, y, after, rfl, List.forall_mem_cons.mpr ⟨hx, hbefore⟩, hy⟩
        · exact ⟨[], x, inner, rfl, by simp, hpx⟩
      · rw [reaches_of_isPart hbounds p hp _ hnested (by simpa using hx)] at h
        exact absurd h (by simp)

end Html

end CiteRender
