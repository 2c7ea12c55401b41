import CiteRender.Bibliography.Json

/-!
# Entries and Their Objects

An entry that is written as an object is read back from it unchanged, with more
members in the object or without. An object keeps its members in the order of
their names, and that is not the order in which an entry lists its fields. It
does not matter: members of different names set different fields, so what is read
depends on which members there are and not on where they stand.

Each field is followed by itself. A field that is absent has no member, and is
absent in the entry that reading starts from; one that is present, empty or not,
is set by its member and left alone by all others.

## Main definitions

* `Entry.field?`: The field under a name.

## Theorems

* `Json.foldl_setMember_perm`: Members in order are the members that were given.
* `Entry.setMember_text`: A member of text sets its field and no other.
* `Entry.foldlM_setMember`: The entry that members of text describe.
* `Entry.ofJson_ofMembers`, `Entry.ofJson_toJson`: Entries are read back.
-/

namespace CiteRender

namespace Json

/-- A member of a new name is put among the others. -/
theorem setMember_perm (name : String) (value : Value) (members : List (String × Value))
    (h : name ∉ members.map Prod.fst) :
    (setMember name value members).Perm ((name, value) :: members) := by
  induction members with
  | nil => exact List.Perm.refl _
  | cons member rest ih =>
      rw [List.map_cons, List.mem_cons, not_or] at h
      rw [setMember]
      split
      · exact List.Perm.refl _
      · next heq => exact absurd (Std.LawfulEqCmp.eq_of_compare heq) h.1
      · exact ((ih h.2).cons member).trans (List.Perm.swap _ _ _)

/-- Members of different names are the members of their object, in some order. -/
theorem foldl_setMember_perm (members sorted : List (String × Value))
    (h : ((members ++ sorted).map Prod.fst).Nodup) :
    (members.foldl (fun sorted member => setMember member.1 member.2 sorted) sorted).Perm
      (members ++ sorted) := by
  induction members generalizing sorted with
  | nil => exact List.Perm.refl _
  | cons member members ih =>
      rw [List.cons_append, List.map_cons, List.nodup_cons] at h
      have hfresh : member.1 ∉ sorted.map Prod.fst := fun hmem =>
        h.1 (by rw [List.map_append]; exact List.mem_append_right _ hmem)
      have hput := setMember_perm member.1 member.2 sorted hfresh
      have hall : (members ++ setMember member.1 member.2 sorted).Perm
          (member :: members ++ sorted) :=
        (hput.append_left members).trans List.perm_middle
      refine (ih _ ?_).trans hall
      rw [(hall.map Prod.fst).nodup_iff, List.cons_append, List.map_cons, List.nodup_cons]
      exact h

/-- Among pairs of different names, the one found under a name is the one there is. -/
theorem lookup_eq_some_iff_mem {α : Type} (pairs : List (String × α)) (name : String) (value : α)
    (hnames : (pairs.map Prod.fst).Nodup) :
    pairs.lookup name = some value ↔ (name, value) ∈ pairs := by
  induction pairs with
  | nil => simp
  | cons pair pairs ih =>
      rw [List.map_cons, List.nodup_cons] at hnames
      rw [List.lookup_cons, List.mem_cons]
      by_cases hname : name = pair.1
      · -- The name stands here, so by `hnames` nothing behind counts.
        have hnot : (name, value) ∉ pairs := fun hmem =>
          hnames.1 (hname ▸ List.mem_map.mpr ⟨(name, value), hmem, rfl⟩)
        rw [hname, beq_self_eq_true, Option.some.injEq]
        simp only [← hname, hnot, or_false]
        constructor
        · rintro rfl
          exact Prod.ext hname rfl
        · exact fun heq => congrArg Prod.snd heq.symm
      · rw [beq_false_of_ne hname]
        simp only [ih hnames.2, show (name, value) ≠ pair from fun heq => hname (congrArg Prod.fst heq),
          false_or]

/-- A member of an object is found under its name. -/
theorem member?_ofMembers (members : List (String × Value)) (name : String) (value : Value)
    (hnames : (members.map Prod.fst).Nodup) (h : (name, value) ∈ members) :
    (Value.ofMembers members).member? name = some value := by
  have hperm := foldl_setMember_perm members [] (by rwa [List.append_nil])
  rw [List.append_nil] at hperm
  exact (lookup_eq_some_iff_mem _ name value ((hperm.map Prod.fst).nodup_iff.mpr hnames)).mpr
    (hperm.mem_iff.mpr h)

end Json

namespace Entry

/-- The field under a name. Every entry has an author line, and no entry has a field
    of another name. -/
def field? (entry : Entry) : String → Option String
  | "type" => entry.kind
  | "author" => some entry.author
  | "year" => entry.year
  | "title" => entry.title
  | "journal" => entry.journal
  | "booktitle" => entry.booktitle
  | "volume" => entry.volume
  | "issue" => entry.issue
  | "number" => entry.number
  | "pages" => entry.pages
  | "doi" => entry.doi
  | "url" => entry.url
  | _ => none

theorem field?_empty (name : String) (h : name ≠ "author") : ({} : Entry).field? name = none := by
  unfold field?
  split <;> simp_all

/-- Entries with the same fields are the same. -/
theorem ext_field? (e e' : Entry) (h : ∀ name ∈ fieldNames, e.field? name = e'.field? name) :
    e = e' := by
  simp only [fieldNames, List.forall_mem_cons, field?, Option.some.injEq] at h
  cases e
  cases e'
  simp_all

/-- A member of text sets its field and no other. -/
theorem setMember_text (e : Entry) (name s : String) :
    ∃ e', e.setMember name (.text s) = .ok e' ∧
      ∀ other ∈ fieldNames, e'.field? other = if other = name then some s else e.field? other := by
  by_cases hname : name ∈ fieldNames
  · simp only [fieldNames, List.mem_cons, List.not_mem_nil, or_false] at hname
    rcases hname with rfl | rfl | rfl | rfl | rfl | rfl | rfl | rfl | rfl | rfl | rfl | rfl
    all_goals
      refine ⟨_, rfl, ?_⟩
      simp only [fieldNames, List.forall_mem_cons]
      -- The field of each name is computed, with all names known.
      exact ⟨rfl, rfl, rfl, rfl, rfl, rfl, rfl, rfl, rfl, rfl, rfl, rfl,
        fun _ h => absurd h List.not_mem_nil⟩
  · refine ⟨e, ?_, fun other hother => ?_⟩
    · simp only [fieldNames, List.mem_cons, not_or] at hname
      unfold setMember
      split <;> simp_all
    · rw [if_neg]
      rintro rfl
      exact hname hother

/-- The entry that some members of text with different names describe. Each of its
    fields is that of its member, or as it was if there is none. -/
theorem foldlM_setMember (members : List (String × Json.Value)) (e : Entry)
    (hnames : (members.map Prod.fst).Nodup) (htexts : ∀ m ∈ members, ∃ s, m.2 = .text s) :
    ∃ e', members.foldlM (fun entry member => entry.setMember member.1 member.2) e = .ok e' ∧
      ∀ name ∈ fieldNames, (∀ s, (name, .text s) ∈ members → e'.field? name = some s) ∧
        (name ∉ members.map Prod.fst → e'.field? name = e.field? name) := by
  induction members generalizing e with
  | nil => exact ⟨e, rfl, fun name _ => ⟨fun s hs => absurd hs List.not_mem_nil, fun _ => rfl⟩⟩
  | cons member members ih =>
      rw [List.map_cons, List.nodup_cons] at hnames
      rw [List.forall_mem_cons] at htexts
      rcases member with ⟨first, value⟩
      rcases htexts with ⟨⟨text, rfl⟩, htexts⟩
      rcases setMember_text e first text with ⟨e₁, hfirst, hfields⟩
      rcases ih e₁ hnames.2 htexts with ⟨e', hrest, hlater⟩
      refine ⟨e', by rw [List.foldlM_cons, hfirst]; exact hrest, fun name hname => ⟨?_, ?_⟩⟩
      · intro s hs
        rcases List.mem_cons.mp hs with heq | hs
        · -- No later member has the name, so the field stays as it is set here.
          rcases Prod.mk.inj heq with ⟨rfl, hvalue⟩
          rw [(hlater name hname).2 hnames.1, hfields name hname, if_pos rfl,
            Json.Value.text.inj hvalue]
        · exact (hlater name hname).1 s hs
      · intro hnot
        rw [List.map_cons, List.mem_cons, not_or] at hnot
        rw [(hlater name hname).2 hnot.2, hfields name hname, if_neg hnot.1]

theorem names_member (name : String) (field : Option String) :
    ((member name field).map Prod.fst).Sublist [name] := by
  cases field with
  | none => exact List.nil_sublist _
  | some s => exact List.Sublist.refl _

/-- The members of an entry have the names of its fields, in their order. -/
theorem names_toMembers (entry : Entry) : (entry.toMembers.map Prod.fst).Sublist fieldNames := by
  simp only [toMembers, List.map_append]
  exact ((((((((((((names_member _ _).append (names_member _ _)).append (names_member _ _)).append
    (names_member _ _)).append (names_member _ _)).append (names_member _ _)).append
    (names_member _ _)).append (names_member _ _)).append (names_member _ _)).append
    (names_member _ _)).append (names_member _ _)).append (names_member _ _))

theorem mem_member (name other s : String) (field : Option String) :
    (other, Json.Value.text s) ∈ member name field ↔ other = name ∧ field = some s := by
  cases field <;> simp [member, eq_comm]

/-- The members of an entry are its fields. -/
theorem mem_toMembers (entry : Entry) (name s : String) (hname : name ∈ fieldNames) :
    (name, Json.Value.text s) ∈ entry.toMembers ↔ entry.field? name = some s := by
  simp only [fieldNames, List.mem_cons, List.not_mem_nil, or_false] at hname
  rcases hname with rfl | rfl | rfl | rfl | rfl | rfl | rfl | rfl | rfl | rfl | rfl | rfl
  all_goals simp [toMembers, mem_member, field?]

theorem texts_toMembers (entry : Entry) : ∀ m ∈ entry.toMembers, ∃ s, m.2 = .text s := by
  have hmember (name : String) (field : Option String) :
      ∀ m ∈ member name field, ∃ s, m.2 = .text s := by
    cases field <;> simp [member]
  intro m hm
  simp only [toMembers, List.mem_append] at hm
  rcases hm with ((((((((((hm | hm) | hm) | hm) | hm) | hm) | hm) | hm) | hm) | hm) | hm) | hm
  all_goals exact hmember _ _ m hm

/-- An entry is read back from the object of its members and others, which are no
    fields of it. -/
theorem ofJson_ofMembers (entry : Entry) (others : List (String × Json.Value))
    (hnames : (others.map Prod.fst).Nodup) (htexts : ∀ m ∈ others, ∃ s, m.2 = .text s)
    (hothers : ∀ name ∈ others.map Prod.fst, name ∉ fieldNames) :
    ofJson (.ofMembers (others ++ entry.toMembers)) = .ok entry := by
  have hall : ((others ++ entry.toMembers).map Prod.fst).Nodup := by
    rw [List.map_append]
    refine List.nodup_append.mpr ⟨hnames, (names_toMembers entry).nodup (by decide), ?_⟩
    rintro name hname _ hmem rfl
    exact hothers name hname ((names_toMembers entry).subset hmem)
  -- The members are put in order when the object is made, which changes no value while the names
  -- differ.
  have hperm := Json.foldl_setMember_perm (others ++ entry.toMembers) [] (by rwa [List.append_nil])
  rw [List.append_nil] at hperm
  have htextsAll : ∀ m ∈ others ++ entry.toMembers, ∃ s, m.2 = .text s := by
    rw [List.forall_mem_append]
    exact ⟨htexts, texts_toMembers entry⟩
  rcases foldlM_setMember _ {} ((hperm.map Prod.fst).nodup_iff.mpr hall)
    (fun m hm => htextsAll m (hperm.mem_iff.mp hm)) with ⟨e, he, hfields⟩
  rw [Json.Value.ofMembers, ofJson, ofMembers, he]
  refine congrArg Except.ok (ext_field? e entry fun name hname => ?_)
  -- Two entries are equal if their fields are, and a field is there or not.
  rcases hfield : entry.field? name with _ | s
  · have hnot : name ∉ (others ++ entry.toMembers).map Prod.fst := by
      rw [List.map_append, List.mem_append, not_or]
      refine ⟨fun hmem => hothers name hmem hname, fun hmem => ?_⟩
      rcases List.mem_map.mp hmem with ⟨⟨_, value⟩, hvalue, rfl⟩
      rcases texts_toMembers entry _ hvalue with ⟨s, rfl⟩
      rw [(mem_toMembers entry _ s hname).mp hvalue] at hfield
      exact absurd hfield (by simp)
    rw [(hfields name hname).2 fun hmem => hnot ((hperm.map Prod.fst).mem_iff.mp hmem)]
    refine field?_empty name ?_
    rintro rfl
    exact absurd hfield (by simp [field?])
  · refine (hfields name hname).1 s (hperm.mem_iff.mpr (List.mem_append_right _ ?_))
    exact (mem_toMembers entry name s hname).mpr hfield

/-- An entry is read back from its object. -/
theorem ofJson_toJson (entry : Entry) : ofJson entry.toJson = .ok entry :=
  ofJson_ofMembers entry [] List.nodup_nil (by simp) (by simp)

end Entry

end CiteRender
