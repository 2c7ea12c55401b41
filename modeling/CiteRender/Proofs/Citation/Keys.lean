import CiteRender.Citation.Keys
import CiteRender.Proofs.Text.Spacing

/-!
# Written Key Lists

A list of keys can be written in many ways: with blanks around a key, and with
segments between the commas that hold nothing but blanks. All of them are read
as the list, and every text writes the keys that are read from it, so a text
writes one list of keys and no other.

That the keys come back rests on what a key may not be. A comma in it would part
it, blanks at its ends would be taken off, and the empty key would pass for
a blank segment. What is read has none of these defects, and so it can be written
again and read back. Blanks inside a key are part of it.

## Main definitions

* `IsKey`: The texts that can stand in a list of keys.
* `AreSegments`: The segments between commas that write some keys.
* `WritesKeys`: A text of such segments.

## Theorems

* `keysOf_areSegments`: What is read from a text of segments.
* `areSegments_pieces`: All pieces of a text are segments of what they hold.
* `splitKeys_eq_iff`: A text writes the keys that are read from it.
* `writesKeys_joined`: Keys with commas and spaces between them.
* `splitKeys_of_isKey`: A key is the only key in it.
* `splitKeys_written`: Writing and reading keys.
-/

namespace CiteRender

open Text

/-- A text that can stand in a list of keys: not empty, without a comma in it and
    without blanks at its ends. -/
structure IsKey (key : String) : Prop where
  ne_empty : key ≠ ""
  no_comma : ',' ∉ key.toList
  starts : ∀ c ∈ key.toList.head?, isBlank c = false
  ends : ∀ c ∈ key.toList.getLast?, isBlank c = false

instance (key : String) : Decidable (IsKey key) :=
  decidable_of_iff
    (key ≠ "" ∧ ',' ∉ key.toList ∧ key.toList.head?.toList.all (fun c => !isBlank c) = true ∧
      key.toList.getLast?.toList.all (fun c => !isBlank c) = true)
    ⟨fun h => ⟨h.1, h.2.1, by simpa using h.2.2.1, by simpa using h.2.2.2⟩,
      fun h => ⟨h.ne_empty, h.no_comma, by simpa using h.starts, by simpa using h.ends⟩⟩

/-- Segments that write some keys: one for each key in order, with any blanks around
    it, and blank ones anywhere. -/
inductive AreSegments : List String → List (List Char) → Prop
  | none : AreSegments [] []
  | blank (keys : List String) (segment : List Char) (segments : List (List Char))
      (hblank : ∀ c ∈ segment, isBlank c = true) (rest : AreSegments keys segments) :
      AreSegments keys (segment :: segments)
  | key (key : String) (keys : List String) (before after : List Char)
      (segments : List (List Char)) (hbefore : ∀ c ∈ before, isBlank c = true)
      (hafter : ∀ c ∈ after, isBlank c = true) (rest : AreSegments keys segments) :
      AreSegments (key :: keys) ((before ++ (key.toList ++ after)) :: segments)

/-- A text writes some keys: segments that write them, with commas between. -/
def WritesKeys (keys : List String) (text : String) : Prop :=
  ∃ segments, AreSegments keys segments ∧ text.toList = [','].intercalate segments

theorem no_comma_of_blank (s : List Char) (hs : ∀ c ∈ s, isBlank c = true) : ',' ∉ s :=
  fun hmem => absurd (hs ',' hmem) (by decide)

theorem AreSegments.no_comma {keys : List String} {segments : List (List Char)}
    (h : AreSegments keys segments) (hkeys : ∀ key ∈ keys, IsKey key) :
    ∀ segment ∈ segments, ',' ∉ segment := by
  induction h with
  | none => simp
  | blank keys segment segments hblank _ ih =>
      exact List.forall_mem_cons.mpr ⟨no_comma_of_blank segment hblank, ih hkeys⟩
  | key key keys before after segments hbefore hafter _ ih =>
      rw [List.forall_mem_cons] at hkeys ⊢
      rw [List.mem_append, List.mem_append, not_or, not_or]
      exact ⟨⟨no_comma_of_blank before hbefore, hkeys.1.no_comma,
        no_comma_of_blank after hafter⟩, ih hkeys.2⟩

/-- Trimmed segments are the keys that they write, and empty texts. -/
theorem AreSegments.trimmed {keys : List String} {segments : List (List Char)}
    (h : AreSegments keys segments) (hkeys : ∀ key ∈ keys, IsKey key) :
    (segments.map trim).filter (· ≠ []) = keys.map String.toList := by
  induction h with
  | none => rfl
  | blank keys segment segments hblank _ ih =>
      rw [List.map_cons, trim_blanks segment hblank, List.filter_cons_of_neg (by simp), ih hkeys]
  | key key keys before after segments hbefore hafter _ ih =>
      rw [List.forall_mem_cons] at hkeys
      rw [List.map_cons, trim_between before _ after hbefore hafter hkeys.1.starts hkeys.1.ends,
        List.filter_cons_of_pos (by simpa using hkeys.1.ne_empty), ih hkeys.2, List.map_cons]

/-- What is read from a text of segments. -/
theorem keysOf_areSegments (keys : List String) (segments : List (List Char))
    (h : AreSegments keys segments) (hkeys : ∀ key ∈ keys, IsKey key) :
    keysOf ([','].intercalate segments) = keys.map String.toList := by
  rw [← h.trimmed hkeys]
  by_cases hsegments : segments = []
  · subst hsegments
    rfl
  · rw [keysOf, splitWhere_intercalate ',' segments hsegments (h.no_comma hkeys)]

/-- All pieces of a text are segments of the keys that are read from them. -/
theorem areSegments_pieces (pieces : List (List Char)) :
    AreSegments (((pieces.map trim).filter (· ≠ [])).map String.ofList) pieces := by
  induction pieces with
  | nil => exact .none
  | cons piece pieces ih =>
      rcases exists_trim piece with ⟨before, after, hbefore, hafter, hpiece⟩
      rw [List.map_cons]
      by_cases hnil : trim piece = []
      · -- What trimming leaves nothing of is blank.
        rw [hnil, List.filter_cons_of_neg (by simp)]
        refine .blank _ piece pieces ?_ ih
        rw [hpiece, hnil, List.nil_append, List.forall_mem_append]
        exact ⟨hbefore, hafter⟩
      · rw [List.filter_cons_of_pos (by simpa using hnil), List.map_cons]
        have hkey := AreSegments.key (String.ofList (trim piece)) _ before after pieces hbefore
          hafter ih
        rwa [String.toList_ofList, ← hpiece] at hkey

/-- What is read can stand in a list of keys. -/
theorem isKey_of_mem_splitKeys (text key : String) (h : key ∈ splitKeys text) : IsKey key := by
  rcases List.mem_map.mp h with ⟨cs, hcs, rfl⟩
  rcases List.mem_filter.mp hcs with ⟨hmem, hne⟩
  rcases List.mem_map.mp hmem with ⟨piece, hpiece, rfl⟩
  refine ⟨by simpa using hne, ?_, ?_, ?_⟩
  · -- Every character of a trimmed piece is one of the piece.
    rcases exists_trim piece with ⟨before, after, -, -, hsplit⟩
    rw [String.toList_ofList]
    intro hcomma
    have hin : ',' ∈ piece := by
      rw [hsplit]
      exact List.mem_append_right before (List.mem_append_left after hcomma)
    exact absurd (not_blank_of_mem_splitWhere _ _ piece hpiece ',' hin) (by simp)
  · rw [String.toList_ofList]
    exact head?_trim piece
  · rw [String.toList_ofList]
    exact endsInWord_trim piece

/-- A text writes the keys that are read from it, and no others. -/
theorem splitKeys_eq_iff (text : String) (keys : List String) :
    splitKeys text = keys ↔ (∀ key ∈ keys, IsKey key) ∧ WritesKeys keys text := by
  constructor
  · rintro rfl
    exact ⟨isKey_of_mem_splitKeys text, _, areSegments_pieces _,
      (intercalate_splitWhere ',' text.toList).symm⟩
  · rintro ⟨hkeys, segments, hsegments, htext⟩
    rw [splitKeys, htext, keysOf_areSegments keys segments hsegments hkeys, List.map_map]
    simp

/-- A comma and a space between texts are a comma, and a space in front of each but
    the first. -/
theorem intercalate_comma_space (first : List Char) (others : List (List Char)) :
    [',', ' '].intercalate (first :: others) =
      [','].intercalate (first :: others.map (' ' :: ·)) := by
  induction others generalizing first with
  | nil => rfl
  | cons next others ih =>
      rw [List.intercalate_cons_cons, ih, List.map_cons, List.intercalate_cons_cons,
        List.append_assoc, List.append_assoc]
      cases others <;> rfl

/-- Keys with commas and spaces between them. -/
theorem writesKeys_joined (keys : List String) : WritesKeys keys (", ".intercalate keys) := by
  rw [WritesKeys, String.toList_intercalate]
  cases keys with
  | nil => exact ⟨[], .none, rfl⟩
  | cons key keys =>
      have hothers (keys : List String) :
          AreSegments keys ((keys.map String.toList).map (' ' :: ·)) := by
        induction keys with
        | nil => exact .none
        | cons next keys ih =>
            have hnext := AreSegments.key next keys [' '] [] _ (by simp [isBlank_space])
              (by simp) ih
            rwa [List.append_nil] at hnext
      have hfirst := AreSegments.key key keys [] [] _ (by simp) (by simp) (hothers keys)
      rw [List.append_nil, List.nil_append] at hfirst
      exact ⟨_, hfirst, intercalate_comma_space key.toList (keys.map String.toList)⟩

/-- A key is the only key in it. -/
theorem splitKeys_of_isKey (key : String) (hkey : IsKey key) : splitKeys key = [key] := by
  have hwrites := writesKeys_joined [key]
  rw [String.intercalate_singleton] at hwrites
  exact (splitKeys_eq_iff key [key]).mpr ⟨List.forall_mem_singleton.mpr hkey, hwrites⟩

/-- Keys that are written in any way are read back. What is read from any text can
    stand in a list of keys, is what the text writes, and is read back from the list that
    has a comma and a space between its keys. -/
theorem splitKeys_written :
    (∀ keys text, (∀ key ∈ keys, IsKey key) → WritesKeys keys text → splitKeys text = keys) ∧
      ∀ text, (∀ key ∈ splitKeys text, IsKey key) ∧ WritesKeys (splitKeys text) text ∧
        splitKeys (", ".intercalate (splitKeys text)) = splitKeys text := by
  refine ⟨fun keys text hkeys hwrites => (splitKeys_eq_iff text keys).mpr ⟨hkeys, hwrites⟩,
    fun text => ?_⟩
  rcases (splitKeys_eq_iff text _).mp rfl with ⟨hkeys, hwrites⟩
  exact ⟨hkeys, hwrites, (splitKeys_eq_iff _ _).mpr ⟨hkeys, writesKeys_joined _⟩⟩

/-- A key with a blank in it, written twice, and one without, with blanks of several
    kinds around them and blank segments everywhere. -/
theorem splitKeys_written_padded :
    let keys := ["a b", "a b", "c"]
    let text := " ,\u00a0a b,,a b\t,\u3000\u2028,\nc\u0085,"
    (∀ key ∈ keys, IsKey key) ∧ WritesKeys keys text ∧ splitKeys text = keys ∧
      splitKeys (", ".intercalate (splitKeys text)) = splitKeys text := by
  intro keys text
  have hkeys : ∀ key ∈ keys, IsKey key := by decide
  have hwrites : WritesKeys keys text := by
    refine ⟨[" ".toList, "\u00a0a b".toList, [], "a b\t".toList, "\u3000\u2028".toList,
      "\nc\u0085".toList, []], ?_, by decide⟩
    have hblank (s : String) (hs : s.toList.all isBlank = true) :
        ∀ c ∈ s.toList, isBlank c = true := List.all_eq_true.mp hs
    refine .blank _ _ _ (hblank " " (by decide)) ?_
    refine .key "a b" _ ['\u00a0'] [] _ (hblank "\u00a0" (by decide)) (by simp) ?_
    refine .blank _ _ _ (by simp) ?_
    refine .key "a b" _ [] ['\t'] _ (by simp) (hblank "\t" (by decide)) ?_
    refine .blank _ _ _ (hblank "\u3000\u2028" (by decide)) ?_
    refine .key "c" _ ['\n'] ['\u0085'] _ (hblank "\n" (by decide)) (hblank "\u0085" (by decide)) ?_
    exact .blank _ _ _ (by simp) .none
  exact ⟨hkeys, hwrites, splitKeys_written.1 keys text hkeys hwrites,
    (splitKeys_written.2 text).2.2⟩

end CiteRender
