import CiteRender.Text.Blank

/-!
# Key Lists

A citation marker names the entries it cites in one attribute, separated by
commas. Blanks around a key do not belong to it, and a blank segment names
nothing.

## Main definitions

* `keysOf`: The keys in a list of characters.
* `splitKeys`: The keys in an attribute.
-/

namespace CiteRender

/-- The comma-separated segments of a text, trimmed, without the empty ones. -/
def keysOf (cs : List Char) : List (List Char) :=
  ((Text.splitWhere (· == ',') cs).map Text.trim).filter (· ≠ [])

/-- The keys that a marker's attribute names, in order. -/
def splitKeys (text : String) : List String :=
  (keysOf text.toList).map String.ofList

end CiteRender
