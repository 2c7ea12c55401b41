import CiteRender.Bibliography.Entry
import Std.Data.ExtTreeMap

/-!
# Bibliographies

A bibliography is a finite map from citation keys to entries. Two
bibliographies with the same entry under every key are equal, so the order
in which entries arrived cannot be observed; `toList` gives them in the
order of their keys.

## Main definitions

* `Bibliography`: Entries by citation key.
* `Bibliography.ofList`: The map in which the last pair of each key wins.
* `Bibliography.merge`: One bibliography overwritten by another.
-/

namespace CiteRender

/-- Entries by citation key. -/
abbrev Bibliography := Std.ExtTreeMap String Entry

namespace Bibliography

/-- The bibliography without entries. -/
def empty : Bibliography := ∅

/-- The map of a list of pairs; the last pair of each key wins. -/
def ofList (pairs : List (String × Entry)) : Bibliography :=
  pairs.foldl (fun entries pair => entries.insert pair.1 pair.2) empty

/-- The first bibliography overwritten by the entries of the second. -/
def merge (entries later : Bibliography) : Bibliography :=
  later.toList.foldl (fun all pair => all.insert pair.1 pair.2) entries

end Bibliography

end CiteRender
