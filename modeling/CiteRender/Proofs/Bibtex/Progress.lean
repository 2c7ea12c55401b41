import CiteRender.Proofs.Bibtex.Concatenation

/-!
# Progress

Every reader leaves a text that its own ends with, so nothing is read twice and nothing
is made up. Most leave a shorter one. The reader of fields need not: where no comma
comes there are no fields, and it has read nothing.

That a text is shorter bounds how often a reader can be called again, but badly. A loop
over the fields of a record passes over a comma each time, and over much else that is
none. Counting commas bounds its passes by what is in the text to make them, and
`count_lt_of_suffix` is how that count goes down: the mark is behind the blanks that are
skipped first, and the text that is left is behind the mark.

## Main definitions

* `IsBehind`: A text that another ends with, and a shorter one.

## Theorems

* `isBehind_of_group`, `isBehind_of_quotedTail`, `isBehind_of_piece`: The pieces of a value.
* `isBehind_of_value`, `isBehind_of_field`, `isBehind_of_block`: The readers made of them.
* `suffix_of_fields`: The reader of fields, which may read nothing.
* `count_lt_of_suffix`: A mark is passed over.
-/

namespace CiteRender

namespace Bibtex

/-- A text ends with another that is shorter. -/
structure IsBehind (rest s : List Char) : Prop where
  suffix : rest <:+ s
  shorter : rest.length < s.length

section

variable {s rest : List Char}

theorem isBehind_of_append (t : List Char) (hs : s = t ++ rest)
    (hshorter : rest.length < s.length) : IsBehind rest s :=
  ⟨⟨t, hs.symm⟩, hshorter⟩

/-- What is behind a text is behind its first character. -/
theorem IsBehind.suffix_tail {c : Char} {tail : List Char} (h : IsBehind rest (c :: tail)) :
    rest <:+ tail := by
  rcases List.suffix_cons_iff.1 h.suffix with rfl | hrest
  · exact absurd h.shorter (Nat.lt_irrefl _)
  · exact hrest

theorem IsBehind.cons (h : IsBehind rest s) (c : Char) : IsBehind rest (c :: s) :=
  ⟨h.suffix.trans (List.suffix_cons c s), Nat.lt_succ_of_lt h.shorter⟩

theorem isBehind_of_group (inner : List Char) (h : group s = .ok (inner, rest)) :
    IsBehind rest s :=
  isBehind_of_append _ (group_sound s inner rest h).1 (group_length h)

theorem isBehind_of_quotedTail (depth : Nat) (inner : List Char)
    (h : quotedTail depth s = some (inner, rest)) : IsBehind rest s := by
  have hs := (quotedTail_sound depth s inner rest h).1
  exact isBehind_of_append (inner ++ ['"']) (by simpa using hs) (quotedTail_length h)

variable (abbreviations : Abbreviations)

theorem isBehind_of_piece (part : List Char) (h : piece abbreviations s = .ok (part, rest)) :
    IsBehind rest s := by
  rcases piece_sound abbreviations s part rest h with ⟨p, hs, -⟩
  exact isBehind_of_append p hs (piece_length h)

theorem isBehind_of_value (v : List Char) (h : value abbreviations s = .ok (v, rest)) :
    IsBehind rest s := by
  rcases value_sound abbreviations s v rest h with ⟨e, hs, -⟩
  exact isBehind_of_append e hs (value_length h)

theorem isBehind_of_field (pair : List Char × List Char)
    (h : field abbreviations s = .ok (pair, rest)) : IsBehind rest s := by
  rcases field_sound abbreviations s rest pair h with ⟨f, hs, -⟩
  exact isBehind_of_append f hs (field_length h)

theorem isBehind_of_block (b : Block) (h : block abbreviations s = .ok (b, rest)) :
    IsBehind rest s := by
  rcases block_sound abbreviations s rest b h with ⟨t, hs, -⟩
  exact isBehind_of_append t hs (block_length h)

theorem suffix_of_fields (pairs : List (List Char × List Char))
    (h : fields abbreviations s = .ok (pairs, rest)) : rest <:+ s := by
  rcases fields_sound abbreviations s rest pairs h with ⟨t, hs, -⟩
  exact ⟨t, hs.symm⟩

end

theorem skipGap_suffix (s : List Char) : skipGap s <:+ s :=
  List.dropWhile_suffix isGap

/-- A text behind a mark has the mark less often than one that the mark is in. -/
theorem count_lt_of_suffix (mark : Char) (s tail rest : List Char) (hs : mark :: tail <:+ s)
    (hrest : rest <:+ tail) : rest.count mark < s.count mark :=
  calc rest.count mark
      ≤ tail.count mark := hrest.sublist.count_le mark
    _ < (mark :: tail).count mark := by
      rw [List.count_cons_self]
      exact Nat.lt_succ_self _
    _ ≤ s.count mark := hs.sublist.count_le mark

end Bibtex

end CiteRender
