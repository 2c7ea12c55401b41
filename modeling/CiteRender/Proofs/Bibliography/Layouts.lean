import CiteRender.Proofs.Bibliography.Entries
import CiteRender.Proofs.Bibliography.Lines
import Mathlib

/-!
# Bibliographies in Every Layout

A list of entries with their keys is written as an array of objects with an `id`,
as lines of such objects, or as an object of the entries by key. Each gives the map
in which the last entry of a key wins.

The text of a value is anything that is read as the value, so it does not matter
in which order an object lists its members, or how a text escapes its characters. An
object of entries cannot have a key twice, and its members are sorted when they are
read. The map does not depend on their order: without a second entry for a key
it has under a key what is paired with it.

## Main definitions

* `References.item`: The object of an entry with its key as its `id`.
* `References.IsLayout`: The texts of a list of entries with their keys.

## Theorems

* `Bibliography.getElem?_ofList`: The last entry of a key wins.
* `Bibliography.getElem?_merge`: One bibliography overwritten by another.
* `Bibliography.ofList_perm`: The order of different keys does not matter.
* `References.keyedById_items`: Entries are found under their keys.
* `References.readJson_toJson`: A bibliography is read back from its own object.
* `References.readJson_layouts`: All layouts give the same map.
-/

namespace CiteRender

namespace Bibliography

/-- Pairs put into a map one after the other. The last of a key wins, and it wins over
    what the map had. -/
theorem getElem?_foldl_insert (entries : Bibliography) (pairs : List (String × Entry))
    (key : String) :
    (pairs.foldl (fun all pair => all.insert pair.1 pair.2) entries)[key]? =
      (pairs.reverse.lookup key).or entries[key]? := by
  induction pairs using List.reverseRecOn with
  | nil => rfl
  | append_singleton pairs pair ih =>
      rw [List.foldl_append, List.foldl_cons, List.foldl_nil,
        Std.ExtTreeMap.getElem?_insert, List.reverse_append, List.reverse_singleton,
        List.singleton_append, List.lookup_cons]
      by_cases hkey : key = pair.1
      · rw [if_pos (by rw [hkey]; exact Std.ReflCmp.compare_self), hkey, beq_self_eq_true]
        rfl
      · rw [if_neg fun heq => hkey (Std.LawfulEqCmp.eq_of_compare heq).symm,
          beq_false_of_ne hkey]
        exact ih

/-- The last entry of a key wins. -/
theorem getElem?_ofList (pairs : List (String × Entry)) (key : String) :
    (ofList pairs)[key]? = pairs.reverse.lookup key := by
  rw [ofList, getElem?_foldl_insert, empty, Std.ExtTreeMap.getElem?_empty, Option.or_none]

/-- Without a second entry for a key, the map has what the list has. -/
theorem getElem?_ofList_iff (pairs : List (String × Entry)) (key : String) (entry : Entry)
    (hkeys : (pairs.map Prod.fst).Nodup) :
    (ofList pairs)[key]? = some entry ↔ (key, entry) ∈ pairs := by
  have hreverse : (pairs.reverse.map Prod.fst).Nodup := by
    rw [List.map_reverse]
    exact List.nodup_reverse.mpr hkeys
  rw [getElem?_ofList, Json.lookup_eq_some_iff_mem _ key entry hreverse, List.mem_reverse]

/-- The order of entries with different keys does not matter. -/
theorem ofList_perm (pairs others : List (String × Entry)) (hkeys : (pairs.map Prod.fst).Nodup)
    (h : pairs.Perm others) : ofList pairs = ofList others := by
  refine Std.ExtTreeMap.ext_getElem? fun key => Option.ext fun entry => ?_
  rw [getElem?_ofList_iff pairs key entry hkeys,
    getElem?_ofList_iff others key entry ((h.map Prod.fst).nodup_iff.mp hkeys), h.mem_iff]

theorem nodup_keys (entries : Bibliography) : (entries.toList.map Prod.fst).Nodup := by
  refine List.pairwise_map.mpr (entries.distinct_keys_toList.imp fun hne heq => hne ?_)
  rw [heq]
  exact Std.ReflCmp.compare_self

/-- A bibliography is the map of its entries. -/
theorem ofList_toList (entries : Bibliography) : ofList entries.toList = entries := by
  refine Std.ExtTreeMap.ext_getElem? fun key => Option.ext fun entry => ?_
  rw [getElem?_ofList_iff _ key entry (nodup_keys entries),
    Std.ExtTreeMap.mem_toList_iff_getElem?_eq_some]

/-- A bibliography overwritten by another has the entries of the other, and its own where
    the other has none. -/
theorem getElem?_merge (entries later : Bibliography) (key : String) :
    (merge entries later)[key]? = later[key]?.or entries[key]? := by
  rw [merge, getElem?_foldl_insert, ← getElem?_ofList, ofList_toList]

/-- The entries of objects are read back, into the map of all of them. -/
theorem ofMembers_toJson (pairs : List (String × Entry)) :
    ofMembers (pairs.map fun pair => (pair.1, pair.2.toJson)) = .ok (ofList pairs) := by
  rw [ofMembers, ofList]
  generalize empty = entries
  induction pairs generalizing entries with
  | nil => rfl
  | cons pair pairs ih =>
      rw [List.map_cons, List.foldlM_cons, Entry.ofJson_toJson]
      exact ih _

end Bibliography

namespace References

open Json

/-- The object of an entry with its key as its `id`. -/
def item (pair : String × Entry) : Value :=
  .ofMembers (("id", .text pair.1) :: pair.2.toMembers)

/-- The member of an entry in an object by key. -/
def keyed (pair : String × Entry) : String × Value :=
  (pair.1, pair.2.toJson)

/-- The texts of a list of entries with their keys: an array of objects with an `id`, such
    objects on lines, or an object of entries if no two have the same key. -/
inductive IsLayout (pairs : List (String × Entry)) (text : String) : Prop where
  | array (h : Json.read text.toList = .ok (.array (pairs.map item)))
  | lines (lines : List (List Char)) (htext : text.toList = ['\n'].intercalate lines)
      (h : AreLines lines (pairs.map item))
  | object (hkeys : (pairs.map Prod.fst).Nodup)
      (h : Json.read text.toList = .ok (.ofMembers (pairs.map keyed)))

/-- The `id` is no field of an entry. -/
theorem id_not_mem_fieldNames : "id" ∉ Entry.fieldNames := by
  decide

theorem idOf_item (pair : String × Entry) : idOf (item pair) = some pair.1 := by
  have hnames : ((("id", Value.text pair.1) :: pair.2.toMembers).map Prod.fst).Nodup :=
    List.nodup_cons.mpr ⟨fun hmem => id_not_mem_fieldNames
        ((Entry.names_toMembers pair.2).subset hmem), (Entry.names_toMembers pair.2).nodup (by decide)⟩
  rw [idOf, item, member?_ofMembers _ "id" (.text pair.1) hnames List.mem_cons_self]
  rfl

theorem ofJson_item (pair : String × Entry) : Entry.ofJson (item pair) = .ok pair.2 :=
  Entry.ofJson_ofMembers pair.2 [("id", .text pair.1)] (by simp) (by simp)
    (by simpa using id_not_mem_fieldNames)

theorem keyedItem_item (index : Nat) (pair : String × Entry) :
    keyedItem index (item pair) = .ok pair := by
  rw [keyedItem, idOf_item, ofJson_item]

theorem keyedItems_items (index : Nat) (pairs : List (String × Entry)) :
    keyedItems index (pairs.map item) = .ok pairs := by
  induction pairs generalizing index with
  | nil => rfl
  | cons pair pairs ih =>
      rw [List.map_cons, keyedItems, keyedItem_item, ih]
      rfl

/-- Entries are found under the `id` of their objects. -/
theorem keyedById_items (pairs : List (String × Entry)) :
    keyedById (pairs.map item) = .ok (Bibliography.ofList pairs) := by
  rw [keyedById, keyedItems_items]
  rfl

/-- An object of entries is read as such, even if one of the keys is `id`. -/
theorem readObject_keyed (pairs : List (String × Entry)) :
    readObject (pairs.map keyed) = .ok (Bibliography.ofList pairs) := by
  rw [readObject, if_pos]
  · rw [show pairs.map keyed = pairs.map fun pair => (pair.1, pair.2.toJson) from rfl,
      Bibliography.ofMembers_toJson]
  · rw [List.all_map, List.all_eq_true]
    exact fun pair _ => rfl

/-- The members of an object of entries are those entries in some order. -/
theorem exists_perm_of_ofMembers (pairs : List (String × Entry))
    (hkeys : (pairs.map Prod.fst).Nodup) :
    ∃ sorted : List (String × Entry), sorted.Perm pairs ∧
      Value.ofMembers (pairs.map keyed) = .object (sorted.map keyed) := by
  have hnames : ((pairs.map keyed ++ []).map Prod.fst).Nodup := by
    rw [List.append_nil, List.map_map]
    exact hkeys
  have hperm := foldl_setMember_perm (pairs.map keyed) [] hnames
  rw [List.append_nil] at hperm
  rcases (congrFun (congrFun (List.eq_map_comp_perm keyed) _) _).mpr hperm with
    ⟨sorted, hsorted, hpairs⟩
  exact ⟨sorted, hpairs, congrArg Value.object hsorted⟩

/-- A text in any layout gives the map in which the last entry of a key wins. -/
theorem readJson_isLayout (pairs : List (String × Entry)) (text : String)
    (h : IsLayout pairs text) : readJson text = .ok (Bibliography.ofList pairs) := by
  cases h with
  | array h => rw [readJson_array text _ h, keyedById_items]
  | lines lines htext h =>
      rw [readJson_lines text lines _ htext h, keyedById_items]
      exact List.forall_mem_map.mpr fun pair _ => ⟨pair.1, idOf_item pair⟩
  | object hkeys h =>
      rcases exists_perm_of_ofMembers pairs hkeys with ⟨sorted, hperm, hmembers⟩
      rw [hmembers] at h
      rw [readJson_object text _ h, readObject_keyed, Bibliography.ofList_perm pairs sorted hkeys
        hperm.symm]

/-- A bibliography is read back from its own object. -/
theorem readJson_toJson (entries : Bibliography) (text : String)
    (h : Json.read text.toList = .ok entries.toJson) : readJson text = .ok entries := by
  rw [readJson_object text _ h, show (entries.toList.map fun pair => (pair.1, pair.2.toJson)) =
    entries.toList.map keyed from rfl, readObject_keyed, Bibliography.ofList_toList]

/-- All layouts of a list of entries give the same map: it has under each key what the
    last pair of the key has. So a bibliography, in any layout and with its entries in any
    order, is read back unchanged. -/
theorem readJson_layouts (pairs : List (String × Entry)) (text : String)
    (h : IsLayout pairs text) :
    (∃ entries, readJson text = .ok entries ∧ ∀ key, entries[key]? = pairs.reverse.lookup key) ∧
      ∀ entries : Bibliography, pairs.Perm entries.toList → readJson text = .ok entries := by
  have hread := readJson_isLayout pairs text h
  refine ⟨⟨_, hread, Bibliography.getElem?_ofList pairs⟩, fun entries hperm => ?_⟩
  have hkeys := (hperm.map Prod.fst).nodup_iff.mpr (Bibliography.nodup_keys entries)
  rw [hread, Bibliography.ofList_perm pairs _ hkeys hperm, Bibliography.ofList_toList]

/-- Two lines with one key, a blank one between them, and an object with the key `id`. -/
theorem readJson_layouts_id :
    let first : String × Entry := ("k", { author := "A" })
    let second : String × Entry := ("k", { author := "B", year := some "" })
    let entries := Bibliography.ofList [("id", first.2)]
    let text := "\x7b\"id\":\"k\",\"author\":\"A\"\x7d\r\n \r\n" ++
      "\t\x7b\"author\":\"B\",\"year\":\"\",\"id\":\"k\"\x7d\n"
    let byKey := "\x7b\"id\":\x7b\"author\":\"A\"\x7d\x7d"
    IsLayout [first, second] text ∧ IsLayout entries.toList byKey ∧
      (∃ read, readJson text = .ok read ∧ read["k"]? = some second.2) ∧
      readJson byKey = .ok entries := by
  intro first second entries text byKey
  have hlines : AreLines ["\x7b\"id\":\"k\",\"author\":\"A\"\x7d\r".toList, " \r".toList,
      "\t\x7b\"author\":\"B\",\"year\":\"\",\"id\":\"k\"\x7d".toList, []]
      ([first, second].map item) := by
    refine .object [] "\x7b\"id\":\"k\",\"author\":\"A\"\x7d".toList ['\r'] _ _ _
      (by decide +kernel) (by decide) (by decide) (by cbv) ?_
    refine .blank _ _ _ (by decide +kernel) (by decide +kernel) ?_
    refine .object ['\t'] "\x7b\"author\":\"B\",\"year\":\"\",\"id\":\"k\"\x7d".toList [] _ _ _
      (by decide +kernel) (by decide) (by decide) (by cbv) ?_
    exact .blank _ _ _ (by decide) (by decide) .none
  have htext : IsLayout [first, second] text := .lines _ (by decide +kernel) hlines
  have hentries : entries.toList = [("id", first.2)] := by decide +kernel
  have hbyKey : IsLayout entries.toList byKey := by
    rw [hentries]
    exact .object (by simp) (by cbv)
  rcases (readJson_layouts _ text htext).1 with ⟨read, hread, hfind⟩
  exact ⟨htext, hbyKey, ⟨read, hread, (hfind "k").trans (by decide +kernel)⟩,
    (readJson_layouts _ byKey hbyKey).2 entries (List.Perm.refl _)⟩

end References

end CiteRender
