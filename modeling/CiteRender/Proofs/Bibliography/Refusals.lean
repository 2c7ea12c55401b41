import CiteRender.Proofs.Bibliography.Lines
import Mathlib

/-!
# Which Reference Is Refused

Why a text gives no references, in each layout that holds a list of them. The items of
an array and those on lines are checked in order by one loop, so the first bad one
decides the error, and its index counts items. Lines that are no JSON are found before
any item is checked, and are counted as they stand in the text, blank ones too.

That lines are read as lines at all hangs on the text being no value as a whole. With an
object on the first of its lines and a second one that is not blank this is so whatever
the second holds: the reader of a value stops behind the object and finds more.

Both loops stop at the first of a list with some property, which is said once for both.

## Main definitions

* `StandsFirst`: The first of a list with a property, and its index.
* `References.GivesEntry`, `References.IsItemError`: Good items, and what is wrong with
  bad ones.
* `References.linesOf`, `References.IsBadLine`: The lines of a text, and those that are
  no JSON.
* `References.IsArrayText`, `References.IsLinesText`: Texts of a list of items.

## Theorems

* `References.keyedById_eq_error_iff`: The first bad item decides the error.
* `References.readLines_of_bad`: The first bad line decides the error.
* `References.readJson_isLinesText`: A text with items on lines is read so.
* `References.readJson_refuses`: Which error is reported.
* `References.readJson_refuses_deep`: An item that is nested too deep for an array.
-/

namespace CiteRender

/-- The first of a list with a property, and how many stand before it. -/
def StandsFirst {α : Type} (p : α → Prop) (l : List α) (index : Nat) (a : α) : Prop :=
  p a ∧ ∃ before after, l = before ++ a :: after ∧ before.length = index ∧ ∀ b ∈ before, ¬ p b

theorem standsFirst_cons_self {α : Type} {p : α → Prop} (a : α) (l : List α) (ha : p a) :
    StandsFirst p (a :: l) 0 a :=
  ⟨ha, [], l, rfl, rfl, by simp⟩

/-- The first behind one without the property. -/
theorem standsFirst_cons_iff {α : Type} {p : α → Prop} (a : α) (l : List α) (ha : ¬ p a)
    (index : Nat) (b : α) :
    StandsFirst p (a :: l) index b ↔ ∃ n, index = n + 1 ∧ StandsFirst p l n b := by
  constructor
  · rintro ⟨hb, before, after, hsplit, rfl, hbefore⟩
    rcases before with _ | ⟨c, before⟩
    · obtain ⟨rfl, rfl⟩ := List.cons.inj hsplit
      exact absurd hb ha
    · obtain ⟨rfl, rfl⟩ := List.cons.inj hsplit
      exact ⟨before.length, rfl, hb, before, after, rfl, rfl,
        fun d hd => hbefore d (List.mem_cons_of_mem _ hd)⟩
  · rintro ⟨n, rfl, hb, before, after, rfl, rfl, hbefore⟩
    exact ⟨hb, a :: before, after, rfl, rfl, List.forall_mem_cons.2 ⟨ha, hbefore⟩⟩

/-- Where the property holds at the front, nothing else is first. -/
theorem StandsFirst.of_cons {α : Type} {p : α → Prop} {a b : α} {l : List α} {index : Nat}
    (ha : p a) (h : StandsFirst p (a :: l) index b) : index = 0 ∧ b = a := by
  rcases h with ⟨-, before, after, hsplit, rfl, hbefore⟩
  rcases before with _ | ⟨c, before⟩
  · exact ⟨rfl, (List.cons.inj hsplit).1.symm⟩
  · obtain ⟨rfl, -⟩ := List.cons.inj hsplit
    exact absurd ha (hbefore a List.mem_cons_self)

/-- The one that stands first is one only. -/
theorem StandsFirst.unique {α : Type} {p : α → Prop} {l : List α} {n m : Nat} {a b : α}
    (h : StandsFirst p l n a) (h' : StandsFirst p l m b) : n = m ∧ a = b := by
  induction l generalizing n m with
  | nil =>
      rcases h with ⟨-, before, after, hsplit, -⟩
      exact absurd hsplit (by simp)
  | cons c l ih =>
      by_cases hc : p c
      · obtain ⟨rfl, rfl⟩ := h.of_cons hc
        obtain ⟨rfl, rfl⟩ := h'.of_cons hc
        exact ⟨rfl, rfl⟩
      · rcases (standsFirst_cons_iff c l hc n a).1 h with ⟨n', rfl, hn⟩
        rcases (standsFirst_cons_iff c l hc m b).1 h' with ⟨m', rfl, hm⟩
        rcases ih hn hm with ⟨rfl, rfl⟩
        exact ⟨rfl, rfl⟩

namespace References

open Json

/-! ### Items -/

/-- An item that gives an entry: it has a text for its `id`, and its fields fit. -/
def GivesEntry (item : Value) : Prop :=
  (∃ id, idOf item = some id) ∧ ∃ entry, Entry.ofJson item = .ok entry

/-- The error of a bad item with an index. That there is no text for its `id` comes before
    anything that is wrong with its fields. -/
inductive IsItemError (index : Nat) (item : Value) : Error → Prop
  | missingId (hid : idOf item = none) : IsItemError index item (.missingId index)
  | mismatch (id : String) (mismatch : Mismatch) (hid : idOf item = some id)
      (hfields : Entry.ofJson item = .error mismatch) :
      IsItemError index item (.json (.mismatch mismatch))

/-- An item gives its key and entry, or it is bad and gives its error. -/
theorem keyedItem_cases (index : Nat) (item : Value) :
    (∃ pair, keyedItem index item = .ok pair ∧ GivesEntry item) ∨
      ∃ error, keyedItem index item = .error error ∧ IsItemError index item error ∧
        ¬ GivesEntry item := by
  rcases hid : idOf item with _ | id
  · refine .inr ⟨.missingId index, by rw [keyedItem, hid], .missingId hid, ?_⟩
    rintro ⟨⟨id, hsome⟩, -⟩
    exact absurd (hid.symm.trans hsome) (by simp)
  · rcases hfields : Entry.ofJson item with mismatch | entry
    · refine .inr ⟨.json (.mismatch mismatch), by simp only [keyedItem, hid, hfields],
        .mismatch id mismatch hid hfields, ?_⟩
      rintro ⟨-, entry, hok⟩
      exact absurd (hfields.symm.trans hok) (by simp)
    · exact .inl ⟨(id, entry), by simp only [keyedItem, hid, hfields], ⟨id, hid⟩, entry, hfields⟩

/-- An item has one error at most. -/
theorem IsItemError.unique {index : Nat} {item : Value} {error other : Error}
    (h : IsItemError index item error) (h' : IsItemError index item other) : error = other := by
  cases h with
  | missingId hid =>
      cases h' with
      | missingId => rfl
      | mismatch _ _ hid' => exact absurd (hid.symm.trans hid') (by simp)
  | mismatch _ mismatch hid hfields =>
      cases h' with
      | missingId hid' => exact absurd (hid.symm.trans hid') (by simp)
      | mismatch _ _ _ hfields' => rw [Except.error.inj (hfields.symm.trans hfields')]

/-- The keys and entries of items, if all of them are good; else the error of the first
    that is not. -/
theorem keyedItems_cases (items : List Value) : ∀ index,
    (∃ pairs, keyedItems index items = .ok pairs ∧ ∀ item ∈ items, GivesEntry item) ∨
      ∃ n item error, keyedItems index items = .error error ∧
        StandsFirst (¬ GivesEntry ·) items n item ∧ IsItemError (index + n) item error := by
  induction items with
  | nil => exact fun index => .inl ⟨[], rfl, by simp⟩
  | cons item items ih =>
      intro index
      rcases keyedItem_cases index item with ⟨pair, hpair, hgood⟩ | ⟨error, herror, hbad, hnot⟩
      · -- The item is taken, and the first that is not, if any, is one place further on.
        rcases ih (index + 1) with ⟨pairs, hpairs, hall⟩ | ⟨n, bad, error, herror, hfirst, hbad⟩
        · refine .inl ⟨pair :: pairs, ?_, List.forall_mem_cons.2 ⟨hgood, hall⟩⟩
          rw [keyedItems, hpair]
          dsimp only
          rw [hpairs]
          rfl
        · refine .inr ⟨n + 1, bad, error, ?_, ?_, ?_⟩
          · rw [keyedItems, hpair]
            dsimp only
            rw [herror]
            rfl
          · exact (standsFirst_cons_iff item items (not_not_intro hgood) _ bad).2 ⟨n, rfl, hfirst⟩
          · rwa [Nat.add_right_comm] at hbad
      · refine .inr ⟨0, item, error, ?_, standsFirst_cons_self item items hnot, hbad⟩
        rw [keyedItems, herror]

/-- All items are good exactly if they give a bibliography. -/
theorem keyedById_eq_ok_iff (items : List Value) :
    (∃ entries, keyedById items = .ok entries) ↔ ∀ item ∈ items, GivesEntry item := by
  rcases keyedItems_cases items 0 with ⟨pairs, hpairs, hall⟩ | ⟨n, item, error, herror, hfirst, -⟩
  · exact ⟨fun _ => hall, fun _ => ⟨_, by rw [keyedById, hpairs]; rfl⟩⟩
  · constructor
    · rintro ⟨entries, hentries⟩
      rw [keyedById, herror] at hentries
      exact absurd hentries (by simp [Except.map])
    · intro hall
      rcases hfirst with ⟨hbad, before, after, rfl, -⟩
      exact absurd (hall item (by simp)) hbad

/-- The first bad item decides the error. -/
theorem keyedById_eq_error_iff (items : List Value) (error : Error) :
    keyedById items = .error error ↔
      ∃ index item, StandsFirst (¬ GivesEntry ·) items index item ∧
        IsItemError index item error := by
  rcases keyedItems_cases items 0 with
    ⟨pairs, hpairs, hall⟩ | ⟨n, bad, found, hfound, hfirst, hbad⟩
  · rw [keyedById, hpairs]
    constructor
    · exact fun h => absurd h (by simp [Except.map])
    · rintro ⟨index, item, ⟨hnot, before, after, rfl, -⟩, -⟩
      exact absurd (hall item (by simp)) hnot
  · rw [Nat.zero_add] at hbad
    rw [keyedById, hfound]
    constructor
    · intro h
      obtain rfl : found = error := Except.error.inj h
      exact ⟨n, bad, hfirst, hbad⟩
    · -- Only one item is the first, and only one error is its own.
      rintro ⟨index, item, hfirst', hbad'⟩
      obtain ⟨rfl, rfl⟩ := hfirst.unique hfirst'
      rw [hbad.unique hbad']
      rfl

/-! ### Lines -/

/-- The lines of a text. -/
def linesOf (text : String) : List (List Char) :=
  Text.splitWhere (· == '\n') text.toList

/-- A line that is not blank and no JSON. -/
def IsBadLine (line : List Char) : Prop :=
  Text.trim line ≠ [] ∧ ∀ value, Json.read (Text.trim line) ≠ .ok value

/-- Lines are read if none of them is bad; else the error is that of the first that is,
    whatever the others hold. -/
theorem readLinesFrom_cases (lines : List (List Char)) : ∀ number,
    (∃ values, readLinesFrom number lines = .ok values ∧ ∀ line ∈ lines, ¬ IsBadLine line) ∨
      ∃ n line problem, readLinesFrom number lines = .error (.badLine (number + n) problem) ∧
        StandsFirst IsBadLine lines n line ∧ Json.read (Text.trim line) = .error problem := by
  induction lines with
  | nil => exact fun number => .inl ⟨[], by rw [readLinesFrom], by simp⟩
  | cons line lines ih =>
      intro number
      -- Behind a line that is not bad all is as the other lines have it.
      have hbehind (hgood : ¬ IsBadLine line) (f : List Value → List Value)
          (hread : readLinesFrom number (line :: lines) =
            (readLinesFrom (number + 1) lines).map f) :
          (∃ values, readLinesFrom number (line :: lines) = .ok values ∧
            ∀ l ∈ line :: lines, ¬ IsBadLine l) ∨
          ∃ n bad problem,
            readLinesFrom number (line :: lines) = .error (.badLine (number + n) problem) ∧
              StandsFirst IsBadLine (line :: lines) n bad ∧
              Json.read (Text.trim bad) = .error problem := by
        rw [hread]
        rcases ih (number + 1) with ⟨values, hvalues, hall⟩ | ⟨n, bad, problem, herror, hfirst, hbad⟩
        · rw [hvalues]
          exact .inl ⟨f values, rfl, List.forall_mem_cons.2 ⟨hgood, hall⟩⟩
        · rw [herror]
          refine .inr ⟨n + 1, bad, problem, ?_,
            (standsFirst_cons_iff line lines hgood _ bad).2 ⟨n, rfl, hfirst⟩, hbad⟩
          rw [← Nat.add_assoc, Nat.add_right_comm]
          rfl
      by_cases hblank : Text.trim line = []
      · refine hbehind (fun hbad => hbad.1 hblank) id ?_
        rw [readLinesFrom, if_pos (by rw [hblank]; rfl)]
        cases readLinesFrom (number + 1) lines <;> rfl
      · have hne : ¬ (Text.trim line).isEmpty = true := fun h => hblank (List.isEmpty_iff.1 h)
        rcases hread : Json.read (Text.trim line) with problem | value
        · refine .inr ⟨0, line, problem, ?_, standsFirst_cons_self line lines ⟨hblank, ?_⟩, hread⟩
          · rw [readLinesFrom, if_neg hne, hread]
            rfl
          · intro value hok
            exact absurd (hread.symm.trans hok) (by simp)
        · refine hbehind (fun hbad => hbad.2 value hread) (value :: ·) ?_
          rw [readLinesFrom, if_neg hne, hread]

/-- The first bad line decides the error. -/
theorem readLines_of_bad (text : String) (h : ∃ line ∈ linesOf text, IsBadLine line) :
    ∃ n line problem, StandsFirst IsBadLine (linesOf text) n line ∧
      Json.read (Text.trim line) = .error problem ∧
      readLines text.toList = .error (.badLine (n + 1) problem) := by
  rcases readLinesFrom_cases (linesOf text) 1 with
    ⟨values, -, hall⟩ | ⟨n, line, problem, herror, hfirst, hproblem⟩
  · rcases h with ⟨line, hline, hbad⟩
    exact absurd hbad (hall line hline)
  · rw [Nat.add_comm] at herror
    exact ⟨n, line, problem, hfirst, hproblem, herror⟩

/-- The lines of a text that are not blank. -/
def filledLines (text : String) : List (List Char) :=
  (linesOf text).filter fun line => !(Text.trim line).isEmpty

/-- A text is an array of some items, blanks around it aside. -/
def IsArrayText (text : String) (items : List Value) : Prop :=
  Json.read (Text.trim text.toList) = .ok (.array items)

/-- A text has some items on its lines that are not blank, at least two of them, and the
    first is an object. -/
structure IsLinesText (text : String) (items : List Value) : Prop where
  lines : List.Forall₂ (fun line item => Json.read (Text.trim line) = .ok item)
    (filledLines text) items
  begins : ∃ members, items.head? = some (.object members)
  more : 2 ≤ items.length

/-- Lines that are not blank and have values on them are read as these. -/
theorem readLinesFrom_filled (lines : List (List Char)) (values : List Value)
    (h : List.Forall₂ (fun line item => Json.read (Text.trim line) = .ok item)
      (lines.filter fun line => !(Text.trim line).isEmpty) values) (number : Nat) :
    readLinesFrom number lines = .ok values := by
  induction lines generalizing number values with
  | nil =>
      cases h
      rw [readLinesFrom]
  | cons line lines ih =>
      by_cases hblank : (Text.trim line).isEmpty = true
      · rw [List.filter_cons_of_neg (by simp [hblank])] at h
        rw [readLinesFrom, if_pos hblank, ih values h]
      · rw [List.filter_cons_of_pos (by simp [hblank])] at h
        cases h with
        | cons hvalue hrest =>
            rw [readLinesFrom, if_neg hblank, hvalue]
            dsimp only
            rw [ih _ hrest]
            rfl

/-- A text is put together of its lines. -/
theorem intercalate_linesOf (text : String) : ['\n'].intercalate (linesOf text) = text.toList :=
  Text.intercalate_splitWhere '\n' text.toList

/-- What is left of a text without blanks at its ends is nothing if all of it is blank. -/
theorem trim_eq_nil_iff (s : List Char) : Text.trim s = [] ↔ AllBlank s := by
  refine ⟨fun h => ?_, Text.trim_blanks s⟩
  rcases Text.exists_trim s with ⟨a, z, ha, hz, hs⟩
  rw [h] at hs
  rw [hs]
  exact AllBlank.append ha (List.nil_append z ▸ hz)

/-- All lines of a blank text are blank. -/
theorem allBlank_of_intercalate (lines : List (List Char))
    (h : AllBlank (['\n'].intercalate lines)) : ∀ line ∈ lines, AllBlank line := by
  induction lines with
  | nil => simp
  | cons line lines ih =>
      rcases intercalate_cons_blank line lines with ⟨b, -, -, heq⟩
      rw [heq] at h
      have hparts := List.forall_mem_append.1 h
      exact List.forall_mem_cons.2 ⟨hparts.1, ih (List.forall_mem_append.1 hparts.2).2⟩

/-- Blank lines in front of a text of lines are blanks. -/
theorem intercalate_blank_append (blanks lines : List (List Char))
    (h : ∀ line ∈ blanks, AllBlank line) :
    ∃ a, AllBlank a ∧ ['\n'].intercalate (blanks ++ lines) = a ++ ['\n'].intercalate lines := by
  induction blanks with
  | nil => exact ⟨[], by simp [AllBlank], rfl⟩
  | cons line blanks ih =>
      rw [List.forall_mem_cons] at h
      rcases ih h.2 with ⟨a, ha, heq⟩
      rcases intercalate_cons_blank line (blanks ++ lines) with ⟨b, hb, -, hline⟩
      refine ⟨line ++ (b ++ a), h.1.append (hb.append ha), ?_⟩
      rw [List.cons_append, hline, heq]
      simp only [List.append_assoc]

/-- A text with items on its lines begins with the first item, and goes on with a line end
    and something that is not blank. -/
theorem IsLinesText.begin {text : String} {items : List Value} (h : IsLinesText text items) :
    ∃ a p z members, text.toList = a ++ (p ++ z) ∧ AllBlank a ∧ EndsInBlank z ∧ ¬ AllBlank z ∧
      IsReadAs maxDepth p (.object members) ∧ IsBracketed p (.object members) := by
  rcases h with ⟨hlines, ⟨members, hbegins⟩, hmore⟩
  rcases items with _ | ⟨first, _ | ⟨second, items⟩⟩
  · exact absurd hmore (by simp)
  · exact absurd hmore (by simp)
  obtain rfl : first = .object members := Option.some.inj hbegins
  generalize hfilter : filledLines text = filled at hlines
  rcases hlines with _ | ⟨hline, _ | ⟨-, -⟩⟩
  next line line' filled' =>
  rcases List.filter_eq_cons_iff.1 hfilter with ⟨blanks, rest, hsplit, hblanks, -, hrest⟩
  have hblank (l : List Char) (hl : l ∈ blanks) : AllBlank l :=
    (trim_eq_nil_iff l).1 (by simpa using hblanks l hl)
  rcases intercalate_blank_append blanks (line :: rest) hblank with ⟨a, ha, hfront⟩
  rcases intercalate_cons_blank line rest with ⟨b, hb, hends, hjoin⟩
  rcases Text.exists_trim line with ⟨a', z', ha', hz', htrim⟩
  rcases read_eq_ok _ _ hline with ⟨g, p, g', hg, hg', hvalue, hp, hbracket⟩
  refine ⟨a ++ (a' ++ g), p, g' ++ (z' ++ (b ++ ['\n'].intercalate rest)), members, ?_,
    ha.append (AllBlank.append ha' (allBlank_of_allGaps g hg)), ?_, ?_, hp, hbracket⟩
  · rw [← intercalate_linesOf, hsplit, hfront, hjoin]
    conv_lhs => rw [htrim, hvalue]
    simp only [List.append_assoc]
  · exact endsInBlank_append _ _ (allBlank_of_allGaps g' hg') (endsInBlank_append _ _ hz' hends)
  · intro hall
    -- The second line with an item would be blank.
    have hmem : line' ∈ rest.filter fun l => !(Text.trim l).isEmpty := hrest ▸ List.mem_cons_self
    have hline' := List.mem_filter.1 hmem
    have hbehind := (List.forall_mem_append.1 (List.forall_mem_append.1
      (List.forall_mem_append.1 hall).2).2).2
    have hempty := (trim_eq_nil_iff line').2 (allBlank_of_intercalate rest hbehind line' hline'.1)
    simp [hempty] at hline'

/-- A text with items on its lines is read as them. -/
theorem readJson_isLinesText (text : String) (items : List Value) (h : IsLinesText text items) :
    readJson text = keyedById items := by
  rcases h.begin with ⟨a, p, z, members, htext, ha, hends, hmore, hp, hbracket⟩
  have htrim : Text.trim text.toList = p ++ Text.trimEnd z := by
    rw [htext, Text.trim_append_trimmed a p z ha (isTrimmed_of_object p members hbracket)]
  -- What is behind the object is more than blanks, so the text is no value as a whole.
  have hread := read_append p _ _ hp hends.trimEnd.endsNumber
  rw [if_neg] at hread
  · rcases hbracket with ⟨q, rfl⟩
    rw [List.cons_append] at htrim hread
    have hlines : readLines text.toList = .ok items := readLinesFrom_filled _ items h.lines 1
    rw [readJson_of_read_error text _ _ htrim hread, hlines]
    rfl
  · intro hempty
    rcases Text.trimEnd_append z with ⟨blanks, hblanks, happ⟩
    have hgaps := allBlank_of_allGaps _ (List.dropWhile_eq_nil_iff.mp (List.isEmpty_iff.mp hempty))
    exact hmore (happ ▸ hgaps.append hblanks)

/-- No blank is left at the front of a text without blanks at its ends. -/
theorem stops_trim (s : List Char) : Stops Text.isBlank (Text.trim s) := by
  rcases Text.trimEnd_append (s.dropWhile Text.isBlank) with ⟨z, -, happ⟩
  have hstops := stops_dropWhile Text.isBlank s
  rw [← happ] at hstops
  intro c hc
  rw [Text.trim] at hc
  exact hstops c (by rw [List.head?_append, hc, Option.some_or]; rfl)

/-- A text that is an array is read as its items. -/
theorem readJson_isArrayText (text : String) (items : List Value) (h : IsArrayText text items) :
    readJson text = keyedById items := by
  rw [IsArrayText] at h
  rcases read_eq_ok _ _ h with ⟨g, p, g', hg, -, htrim, -, q, rfl⟩
  -- The text begins with the bracket, as blanks in front of it are cut off.
  rcases g with _ | ⟨c, g⟩
  · simp only [List.nil_append, List.cons_append] at htrim
    rw [htrim] at h
    simp only [readJson, htrim, h]
    rfl
  · have hblank := allBlank_of_allGaps _ hg c List.mem_cons_self
    have hstops := stops_trim text.toList c (by rw [htrim]; rfl)
    exact absurd (hblank.symm.trans hstops) (by simp)

/-! ### Which error is reported -/

/-- A text of a list of items, as an array or on lines, gives a bibliography exactly if all
    of them are good; else the error is that of the first that is bad. A text that begins
    like an object, is no value as a whole and has a line that is no JSON is refused for the
    first such line, whatever the items are. -/
theorem readJson_refuses (text : String) :
    (∀ items, IsArrayText text items ∨ IsLinesText text items →
      ((∃ entries, readJson text = .ok entries) ↔ ∀ item ∈ items, GivesEntry item) ∧
      ∀ error, readJson text = .error error ↔
        ∃ index item, StandsFirst (¬ GivesEntry ·) items index item ∧
          IsItemError index item error) ∧
    (∀ q, Text.trim text.toList = '\x7b' :: q → (∀ value, Json.read ('\x7b' :: q) ≠ .ok value) →
      (∃ line ∈ linesOf text, IsBadLine line) →
        ∃ n line problem, StandsFirst IsBadLine (linesOf text) n line ∧
          Json.read (Text.trim line) = .error problem ∧
          readJson text = .error (.badLine (n + 1) problem)) := by
  constructor
  · -- An array and lines come to the same list of items.
    intro items htext
    have hread : readJson text = keyedById items :=
      htext.elim (readJson_isArrayText text items) (readJson_isLinesText text items)
    rw [hread]
    exact ⟨keyedById_eq_ok_iff items, keyedById_eq_error_iff items⟩
  · intro q htrim hnone hbad
    rcases hwhole : Json.read ('\x7b' :: q) with problem | value
    · rcases readLines_of_bad text hbad with ⟨n, line, found, hfirst, hfound, hlines⟩
      refine ⟨n, line, found, hfirst, hfound, ?_⟩
      rw [readJson_of_read_error text q problem htrim hwhole, hlines]
      rfl
    · exact absurd hwhole (hnone value)

set_option maxRecDepth 4000 in
/-- The second item has neither an `id` nor fields that fit; the second line with an item
    has an `id`; and the third line is no JSON, behind an item that is bad. -/
theorem readJson_refuses_second :
    let good := Value.object [("id", .text "a")]
    let nameless := Value.object [("url", .bool true)]
    let unfit := Value.object [("id", .text "b"), ("url", .bool true)]
    let array := "[\x7b\"id\":\"a\"\x7d, \x7b\"url\":true\x7d, null]"
    let lines := "\x7b\"id\":\"a\"\x7d\n\n\x7b\"id\":\"b\",\"url\":true\x7d\nnull"
    let broken := "\x7b\"url\":true\x7d\n\n]\nnull"
    IsArrayText array [good, nameless, .null] ∧ readJson array = .error (.missingId 1) ∧
      IsLinesText lines [good, unfit, .null] ∧
      readJson lines = .error (.json (.mismatch (.wrongType "boolean `true`" "a string"))) ∧
      readJson broken = .error (.badLine 3 .malformed) := by
  intro good nameless unfit array lines broken
  have hgood : ∀ item ∈ [good], ¬ ¬ GivesEntry item := by
    rw [List.forall_mem_singleton, not_not]
    exact ⟨⟨"a", by decide +kernel⟩, {}, by decide +kernel⟩
  have harray : IsArrayText array [good, nameless, .null] := by
    rw [IsArrayText]
    cbv
  have hlines : IsLinesText lines [good, unfit, .null] := by
    refine ⟨?_, ⟨[("id", .text "a")], rfl⟩, by decide⟩
    have hfilled : filledLines lines = ["\x7b\"id\":\"a\"\x7d".toList,
        "\x7b\"id\":\"b\",\"url\":true\x7d".toList, "null".toList] := by decide +kernel
    rw [hfilled]
    exact .cons (by cbv) (.cons (by cbv) (.cons (by cbv) .nil))
  refine ⟨harray, ?_, hlines, ?_, ?_⟩
  · have hnone : idOf nameless = none := by decide +kernel
    refine (((readJson_refuses array).1 _ (.inl harray)).2 _).2
      ⟨1, nameless, ⟨?_, [good], [.null], rfl, rfl, hgood⟩, .missingId hnone⟩
    rintro ⟨⟨id, hid⟩, -⟩
    exact absurd (hnone.symm.trans hid) (by simp)
  · have hfields : Entry.ofJson unfit = .error (.wrongType "boolean `true`" "a string") := by
      decide +kernel
    refine (((readJson_refuses lines).1 _ (.inr hlines)).2 _).2
      ⟨1, unfit, ⟨?_, [good], [.null], rfl, rfl, hgood⟩,
        .mismatch "b" _ (by decide +kernel) hfields⟩
    rintro ⟨-, entry, hok⟩
    exact absurd (hfields.symm.trans hok) (by simp)
  · have hbroken : Json.read [']'] = .error .malformed := by cbv
    have hsplit : linesOf broken = ["\x7b\"url\":true\x7d".toList, []] ++ [']'] :: ["null".toList] := by
      decide +kernel
    have hobject : Json.read (Text.trim "\x7b\"url\":true\x7d".toList) =
        .ok (.object [("url", .bool true)]) := by cbv
    have hfirst : StandsFirst IsBadLine (linesOf broken) 2 [']'] := by
      refine ⟨⟨by decide +kernel, fun value hok => ?_⟩, _, _, hsplit, rfl, ?_⟩
      · exact absurd (hbroken.symm.trans hok) (by simp)
      · rw [List.forall_mem_cons, List.forall_mem_singleton]
        exact ⟨fun hbad => hbad.2 _ hobject, fun hbad => hbad.1 (by decide +kernel)⟩
    have htrim : Text.trim broken.toList = '\x7b' :: "\"url\":true\x7d\n\n]\nnull".toList := by
      decide +kernel
    have hwhole : Json.read ('\x7b' :: "\"url\":true\x7d\n\n]\nnull".toList) =
        .error .malformed := by cbv
    rcases (readJson_refuses broken).2 _ htrim
        (fun value hok => absurd (hwhole.symm.trans hok) (by simp))
        ⟨[']'], by rw [hsplit]; simp, hfirst.1⟩ with ⟨n, line, problem, hbad, hproblem, hread⟩
    obtain ⟨rfl, rfl⟩ := hbad.unique hfirst
    obtain rfl : .malformed = problem := Except.error.inj (hbroken.symm.trans hproblem)
    exact hread

/-- An empty array in as many arrays as given. -/
def nestedArray : Nat → Value
  | 0 => .array []
  | n + 1 => .array [nestedArray n]

/-- The text of nested arrays stands between brackets. -/
theorem exists_print_nestedArray (n : Nat) : ∃ q, (nestedArray n).print = '[' :: (q ++ [']']) := by
  cases n <;> exact ⟨_, rfl⟩

theorem length_print_nestedArray (n : Nat) : (nestedArray n).print.length = 2 * n + 2 := by
  induction n with
  | zero => rfl
  | succ n ih =>
      show ('[' :: ((nestedArray n).print ++ [']'])).length = _
      rw [List.length_cons, List.length_append, ih]
      simp only [List.length_singleton]
      omega

/-- Nested arrays are read if all of them may be opened. -/
theorem isReadAs_nestedArray (n : Nat) :
    IsReadAs (n + 1) (nestedArray n).print (nestedArray n) := by
  induction n with
  | zero => exact isReadAs_emptyArray 1 (by simp) [] (by simp [AllGaps])
  | succ n ih =>
      rcases exists_print_nestedArray n with ⟨q, hq⟩
      have hitems := areItems_last (n + 1) _ [] _ ih (by simp [AllGaps])
      rw [List.append_nil, hq] at hitems
      have harray := isReadAs_array (n + 2) (by simp) [] (by simp [AllGaps]) '[' _ (by decide)
        (by decide) _ hitems
      rw [List.nil_append, ← hq] at harray
      exact harray

/-- Nested arrays are no value if one of them may not be opened. -/
theorem readValue_nestedArray (n : Nat) : ∀ fuel t, 2 * n < fuel →
    readValue fuel n ((nestedArray n).print ++ t) = .error .malformed := by
  induction n with
  | zero =>
      intro fuel t hfuel
      obtain ⟨fuel, rfl⟩ := Nat.exists_eq_add_one.mpr hfuel
      rfl
  | succ n ih =>
      intro fuel t hfuel
      obtain ⟨fuel, rfl⟩ : ∃ more, fuel = more + 2 := Nat.exists_eq_add_of_le' (by omega)
      -- The array within is read first, and what it fails with is what the outer one fails with.
      rcases exists_print_nestedArray n with ⟨q, hq⟩
      have hinner := ih fuel (']' :: t) (by omega)
      rw [hq, List.cons_append] at hinner
      have htext : (nestedArray (n + 1)).print ++ t =
          '[' :: '[' :: (q ++ [']'] ++ ']' :: t) := by
        show '[' :: ((nestedArray n).print ++ [']']) ++ t = _
        rw [hq]
        simp only [List.append_assoc, List.cons_append, List.nil_append]
      have hitems : readItems (fuel + 1) n ('[' :: (q ++ [']'] ++ ']' :: t)) =
          .error .malformed := by
        rw [readItems, hinner]
      rw [htext]
      show (readItems (fuel + 1) n ('[' :: (q ++ [']'] ++ ']' :: t))).map _ = _
      rw [hitems]
      rfl

/-- An item without an `id` that is nested as deep as a text may be. Its own text is read,
    but in an array it is nested too deep, and then it is not even known to be an item. -/
theorem readJson_refuses_deep :
    let item := nestedArray 126
    Json.read item.print = .ok item ∧
      (StandsFirst (¬ GivesEntry ·) [item] 0 item ∧ IsItemError 0 item (.missingId 0)) ∧
      readJson (String.ofList (Value.array [item]).print) ≠ .error (.missingId 0) := by
  intro item
  have hnone : idOf item = none := rfl
  refine ⟨read_of_isReadAs _ _ (isReadAs_nestedArray 126),
    ⟨standsFirst_cons_self item [] ?_, .missingId hnone⟩, ?_⟩
  · rintro ⟨⟨id, hid⟩, -⟩
    exact absurd (hnone.symm.trans hid) (by simp)
  · rcases exists_print_nestedArray 127 with ⟨q, hq⟩
    have hread : Json.read (nestedArray 127).print = .error .malformed := by
      have hdeep := readValue_nestedArray 127 (2 * (nestedArray 127).print.length + 2) []
        (by rw [length_print_nestedArray]; omega)
      rw [List.append_nil] at hdeep
      rw [Json.read, maxDepth, hdeep]
    rw [hq] at hread
    have htrim : Text.trim ('[' :: (q ++ [']'])) = '[' :: (q ++ [']']) := by
      have htrimmed : Text.IsTrimmed ('[' :: (q ++ [']'])) := ⟨'[', q, ']', rfl, rfl, rfl⟩
      have hparts := Text.trim_append_trimmed [] _ [] (by simp) htrimmed
      rwa [List.nil_append, List.append_nil, Text.trimEnd_blanks [] (by simp),
        List.append_nil] at hparts
    have hrefused : readJson (String.ofList (Value.array [item]).print) =
        .error (.json (.problem .malformed)) := by
      show readJson (String.ofList (nestedArray 127).print) = _
      rw [hq]
      simp only [readJson, String.toList_ofList, htrim, hread]
      rfl
    rw [hrefused]
    simp

end References

end CiteRender
