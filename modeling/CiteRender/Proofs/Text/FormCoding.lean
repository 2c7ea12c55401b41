import CiteRender.Text.Digit
import CiteRender.Text.FormCoding
import Mathlib.Data.List.Basic

/-!
# Form Coding Undone

A text is coded character by character, and comes back byte by byte. The decoder turns a plus
sign into a space and a percent triple into the byte that it stands for, and only at the end
takes the bytes for UTF-8. A character that is coded as several triples is therefore never
seen as a whole on the way, and what is carried through the text is its bytes.

Nothing is undone twice: a plus sign or a percent sign of the text is itself coded as a
triple, so the ones that the decoder meets are all of the coding.

## Main definitions

* `IsFormWord`: The coded forms as a grammar.
* `formBytes`: The bytes that a coded form stands for.
* `formDecode`: The text that a coded form stands for.

## Theorems

* `isFormWord_formEncode`: A coded text is of the grammar.
* `IsFormWord.keeps_query`: Nothing in it ends a value or parts a query.
* `formBytes_formEncode`: The bytes of a coded text.
* `formDecode_formEncode`: Decoding undoes coding.
-/

namespace CiteRender

namespace Text

/-! The grammar. -/

/-- The coded forms: ASCII letters, digits and four marks, plus signs, and percent signs with
    two hexadecimal digits. -/
inductive IsFormWord : List Char → Prop
  | nil : IsFormWord []
  | plain (c : Char) (w : List Char) (hc : c.isAlphanum = true ∨ c ∈ ['*', '-', '.', '_'])
      (hw : IsFormWord w) : IsFormWord (c :: w)
  | plus (w : List Char) (hw : IsFormWord w) : IsFormWord ('+' :: w)
  | triple (high low : Char) (w : List Char) (hhigh : isHexDigit high = true)
      (hlow : isHexDigit low = true) (hw : IsFormWord w) : IsFormWord ('%' :: high :: low :: w)

theorem IsFormWord.append {v w : List Char} (hv : IsFormWord v) (hw : IsFormWord w) :
    IsFormWord (v ++ w) := by
  induction hv with
  | nil => exact hw
  | plain c v hc _ ih => exact .plain c _ hc ih
  | plus v _ ih => exact .plus _ ih
  | triple high low v hhigh hlow _ ih => exact .triple high low _ hhigh hlow ih

/-- No character of a coded form ends the value of a parameter, the query or the address. -/
theorem IsFormWord.keeps_query {w : List Char} (hw : IsFormWord w) :
    ∀ c ∈ w, c ∉ ['&', ';', '=', '#', ' '] := by
  have hdigit (c : Char) (hc : isHexDigit c = true) : c ∉ ['&', ';', '=', '#', ' '] := by
    intro hmem
    simp only [List.mem_cons, List.not_mem_nil, or_false] at hmem
    rcases hmem with rfl | rfl | rfl | rfl | rfl
    all_goals exact absurd hc (by decide)
  induction hw with
  | nil => exact fun c hc => absurd hc List.not_mem_nil
  | plain c w hc _ ih =>
      refine List.forall_mem_cons.mpr ⟨fun hmem => ?_, ih⟩
      simp only [List.mem_cons, List.not_mem_nil, or_false] at hmem
      rcases hmem with rfl | rfl | rfl | rfl | rfl
      all_goals exact absurd hc (by decide)
  | plus w _ ih => exact List.forall_mem_cons.mpr ⟨by decide, ih⟩
  | triple high low w hhigh hlow _ ih =>
      exact List.forall_mem_cons.mpr ⟨by decide, List.forall_mem_cons.mpr
        ⟨hdigit high hhigh, List.forall_mem_cons.mpr ⟨hdigit low hlow, ih⟩⟩⟩

/-- The digits that are written are read with the same value. -/
theorem hexValue?_upperHexDigit (n : Nat) (hn : n < 16) : hexValue? (upperHexDigit n) = some n :=
  (by decide : ∀ n < 16, hexValue? (upperHexDigit n) = some n) n hn

theorem isFormWord_percentByte (b : UInt8) : IsFormWord (percentByte b) := by
  have hbyte : b.toNat < 256 := b.toNat_lt_size
  have hdigit (n : Nat) (hn : n < 16) : isHexDigit (upperHexDigit n) = true := by
    rw [isHexDigit, hexValue?_upperHexDigit n hn]
    rfl
  exact .triple _ _ _ (hdigit _ (by omega)) (hdigit _ (by omega)) .nil

theorem isFormWord_flatMap {α : Type} (f : α → List Char) (hf : ∀ a, IsFormWord (f a))
    (l : List α) : IsFormWord (l.flatMap f) := by
  induction l with
  | nil => exact .nil
  | cons a l ih => exact (hf a).append ih

theorem isFormWord_formEncodeChar (c : Char) : IsFormWord (formEncodeChar c) := by
  rw [formEncodeChar]
  split
  · next hplain =>
      rw [isFormPlain] at hplain
      exact .plain c [] (by simpa [or_assoc] using hplain) .nil
  · split
    · exact .plus [] .nil
    · exact isFormWord_flatMap percentByte isFormWord_percentByte _

/-- A coded text is of the grammar. -/
theorem isFormWord_formEncode (s : List Char) : IsFormWord (formEncode s) :=
  isFormWord_flatMap formEncodeChar isFormWord_formEncodeChar s

/-! Decoding. -/

/-- The bytes that a coded form stands for. A percent sign without two hexadecimal digits
    behind it stands for itself. -/
def formBytes : List Char → List UInt8
  | [] => []
  | '+' :: w => 0x20 :: formBytes w
  | '%' :: high :: low :: w =>
    match hexValue? high, hexValue? low with
    | some h, some l => UInt8.ofNat (h * 16 + l) :: formBytes w
    | _, _ => String.utf8EncodeChar '%' ++ formBytes (high :: low :: w)
  | c :: w => String.utf8EncodeChar c ++ formBytes w

/-- The text that a coded form stands for, if its bytes are UTF-8. -/
def formDecode (w : List Char) : Option (List Char) :=
  (formBytes w).toByteArray.utf8Decode?.map Array.toList

theorem formBytes_percentByte (b : UInt8) (w : List Char) :
    formBytes (percentByte b ++ w) = b :: formBytes w := by
  have hbyte : b.toNat < 256 := b.toNat_lt_size
  rw [percentByte, List.cons_append, List.cons_append, List.cons_append, List.nil_append,
    formBytes, hexValue?_upperHexDigit _ (by omega), hexValue?_upperHexDigit _ (by omega)]
  dsimp only
  rw [Nat.div_add_mod', UInt8.ofNat_toNat]

theorem formBytes_percentBytes (bytes : List UInt8) (w : List Char) :
    formBytes (bytes.flatMap percentByte ++ w) = bytes ++ formBytes w := by
  induction bytes with
  | nil => rfl
  | cons b bytes ih =>
      rw [List.flatMap_cons, List.append_assoc, formBytes_percentByte, ih, List.cons_append]

/-- A character comes back as its bytes. -/
theorem formBytes_formEncodeChar (c : Char) (w : List Char) :
    formBytes (formEncodeChar c ++ w) = String.utf8EncodeChar c ++ formBytes w := by
  rw [formEncodeChar]
  split
  · next hplain =>
      -- A kept character is none that the decoder takes for coding.
      have hne (d : Char) (hd : isFormPlain d = false) : c ≠ d := by
        rintro rfl
        rw [hd] at hplain
        exact absurd hplain (by decide)
      rw [List.singleton_append, formBytes]
      · exact hne '+' (by decide)
      · exact fun _ _ _ hpercent _ => hne '%' (by decide) hpercent
  · split
    · next hspace =>
        subst hspace
        rfl
    · -- One triple for each byte of the character.
      exact formBytes_percentBytes _ w

/-- The bytes of a coded text are those of its UTF-8 form. -/
theorem formBytes_formEncode (s : List Char) :
    formBytes (formEncode s) = s.flatMap String.utf8EncodeChar := by
  induction s with
  | nil => rfl
  | cons c s ih =>
      rw [formEncode, List.flatMap_cons, formBytes_formEncodeChar, List.flatMap_cons]
      exact congrArg _ ih

/-- Decoding undoes coding, for every text. -/
theorem formDecode_formEncode (s : List Char) : formDecode (formEncode s) = some s := by
  have hbytes : (formBytes (formEncode s)).toByteArray = s.utf8Encode := by
    rw [formBytes_formEncode, List.utf8Encode]
  rw [formDecode, hbytes, List.utf8Decode?_utf8Encode, Option.map_some]

end Text

end CiteRender
