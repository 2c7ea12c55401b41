import CiteRender.Bibliography.References
import CiteRender.Proofs.Json.Values
import CiteRender.Proofs.Text.Spacing

/-!
# The Layouts of a Reference Text

Which layout a reference text has is guessed from the text: by its first
character, and behind a brace by whether the text is one value as a whole. Here is
what each layout comes to, with any blanks around it.

A text with an object on its first line is tried as a whole first. With a second
object behind it that fails, because the reader of a value takes what it takes from
the text alone in any other, so it stops behind the first object and finds more.
With nothing behind it the text is one object, and the two ways to go on give
the same then, if the object has a text for its `id`.

## Main definitions

* `Text.IsTrimmed`: A text without blanks at its ends.
* `References.AllBlank`, `References.EndsInBlank`: What stands around a line.
* `References.AreLines`: Lines with objects on them, and blank ones.

## Theorems

* `Text.trim_append_trimmed`: Blanks around a text.
* `References.readJson_array`, `References.readJson_object`: Single values.
* `References.readLines_intercalate`: The values on lines are read.
* `References.AreLines.begin`: The first value of some lines.
* `References.readJson_lines`: Lines of objects with an `id`.
-/

namespace CiteRender

namespace Text

/-- A text that neither starts nor ends with a blank. -/
def IsTrimmed (s : List Char) : Prop :=
  ∃ c q d, (s = c :: (q ++ [d])) ∧ isBlank c = false ∧ isBlank d = false

theorem trimEnd_append_trimmed (s z : List Char) (hs : IsTrimmed s) :
    trimEnd (s ++ z) = s ++ trimEnd z := by
  rcases hs with ⟨c, q, d, rfl, -, hd⟩
  rw [trimEnd, List.reverse_append, List.dropWhile_append, trimEnd]
  split
  · next hempty =>
      rw [List.isEmpty_iff.mp hempty, ← List.cons_append, List.reverse_append,
        List.reverse_singleton, List.singleton_append, List.dropWhile_cons_of_neg (by simp [hd])]
      simp
  · simp

theorem trim_append_trimmed (a s z : List Char) (ha : ∀ c ∈ a, isBlank c = true)
    (hs : IsTrimmed s) : trim (a ++ (s ++ z)) = s ++ trimEnd z := by
  have hdrop : (a ++ (s ++ z)).dropWhile isBlank = s ++ z := by
    rw [List.dropWhile_append_of_pos ha]
    rcases hs with ⟨c, q, d, rfl, hc, -⟩
    rw [List.cons_append, List.dropWhile_cons_of_neg (by simp [hc])]
  rw [trim, hdrop, trimEnd_append_trimmed s z hs]

theorem trimEnd_blanks (z : List Char) (hz : ∀ c ∈ z, isBlank c = true) : trimEnd z = [] := by
  rw [trimEnd, List.dropWhile_eq_nil_iff.mpr fun c hc => hz c (List.mem_reverse.mp hc),
    List.reverse_nil]

/-- A blank is no part of a number. -/
theorem goesOn_of_isBlank (c : Char) (hc : isBlank c = true) :
    (c.isDigit || c == '.' || c == 'e' || c == 'E') = false := by
  simp only [isBlank, Bool.or_eq_true, Bool.and_eq_true, decide_eq_true_eq, beq_iff_eq] at hc
  refine Bool.eq_false_iff.mpr fun h => ?_
  simp only [Bool.or_eq_true, beq_iff_eq, Char.isDigit, Bool.and_eq_true, decide_eq_true_eq] at h
  rcases h with ((h | rfl) | rfl) | rfl
  · have hlo : 48 ≤ c.toNat := UInt32.le_iff_toNat_le.mp h.1
    have hhi : c.toNat ≤ 57 := UInt32.le_iff_toNat_le.mp h.2
    omega
  all_goals exact absurd hc (by decide)

end Text

namespace References

open Json

/-- Only blanks, as they may stand around a line. -/
def AllBlank (s : List Char) : Prop :=
  ∀ c ∈ s, Text.isBlank c = true

instance (s : List Char) : Decidable (AllBlank s) :=
  List.decidableBAll (fun c => Text.isBlank c = true) s

theorem AllBlank.append {s t : List Char} (hs : AllBlank s) (ht : AllBlank t) :
    AllBlank (s ++ t) :=
  List.forall_mem_append.mpr ⟨hs, ht⟩

theorem allBlank_of_allGaps (g : List Char) (hg : AllGaps g) : AllBlank g := by
  intro c hc
  have hgap := hg c hc
  simp only [isGap, Bool.or_eq_true, beq_iff_eq] at hgap
  rcases hgap with ((rfl | rfl) | rfl) | rfl <;> decide

/-- The text goes on with a blank, if it goes on. -/
def EndsInBlank (z : List Char) : Prop :=
  Stops (fun c => !Text.isBlank c) z

theorem EndsInBlank.endsNumber {z : List Char} (h : EndsInBlank z) : EndsNumber z := by
  refine h.mono fun c hc => ?_
  cases hblank : Text.isBlank c with
  | false => rfl
  | true =>
      rw [Text.goesOn_of_isBlank c hblank] at hc
      exact absurd hc (by simp)

theorem AllBlank.endsInBlank {s : List Char} (hs : AllBlank s) : EndsInBlank s :=
  fun c hc => by simp [hs c (List.mem_of_head? hc)]

theorem endsInBlank_append (b z : List Char) (hb : AllBlank b) (hz : EndsInBlank z) :
    EndsInBlank (b ++ z) :=
  stops_append _ b z hb.endsInBlank fun _ => hz

theorem EndsInBlank.trimEnd {z : List Char} (h : EndsInBlank z) : EndsInBlank (Text.trimEnd z) := by
  rcases Text.trimEnd_append z with ⟨blanks, -, happ⟩
  rw [← happ] at h
  intro c hc
  exact h c (by rw [List.head?_append, hc, Option.some_or]; rfl)

/-! ### One value -/

/-- A text of one value is read as it. -/
theorem read_of_isReadAs (p : List Char) (v : Value) (h : IsReadAs maxDepth p v) :
    Json.read p = .ok v := by
  have hread := read_append p [] v h (stops_nil _)
  rw [List.append_nil] at hread
  exact hread

theorem isTrimmed_of_object (p : List Char) (members : List (String × Value))
    (h : IsBracketed p (.object members)) : Text.IsTrimmed p := by
  rcases h with ⟨q, rfl⟩
  exact ⟨_, q, _, rfl, by decide, by decide⟩

/-- A text that is one object without the blanks around it gives what its members do. -/
theorem readJson_of_read_object (text : String) (q : List Char) (members : List (String × Value))
    (htrim : Text.trim text.toList = '\x7b' :: q)
    (hread : Json.read ('\x7b' :: q) = .ok (.object members)) :
    readJson text = readObject members := by
  simp only [readJson, htrim, hread]

/-- A text that begins with a brace and is no value has its values on lines. -/
theorem readJson_of_read_error (text : String) (q : List Char) (problem : Problem)
    (htrim : Text.trim text.toList = '\x7b' :: q)
    (hread : Json.read ('\x7b' :: q) = .error problem) :
    readJson text = (readLines text.toList).bind keyedById := by
  simp only [readJson, htrim, hread]

/-- A text that is an array gives what its items do. -/
theorem readJson_array (text : String) (items : List Value)
    (h : Json.read text.toList = .ok (.array items)) : readJson text = keyedById items := by
  rcases read_eq_ok _ _ h with ⟨g, p, g', hg, hg', htext, hp, q, rfl⟩
  have htrim : Text.trim text.toList = '[' :: (q ++ [']']) := by
    rw [htext, Text.trim_append_trimmed g _ g' (allBlank_of_allGaps g hg)
        ⟨_, q, _, rfl, by decide, by decide⟩,
      Text.trimEnd_blanks g' (allBlank_of_allGaps g' hg'), List.append_nil]
  simp only [readJson, htrim, read_of_isReadAs _ _ hp]
  rfl

/-- A text that is an object gives what its members do. -/
theorem readJson_object (text : String) (members : List (String × Value))
    (h : Json.read text.toList = .ok (.object members)) : readJson text = readObject members := by
  rcases read_eq_ok _ _ h with ⟨g, p, g', hg, hg', htext, hp, q, rfl⟩
  have htrim : Text.trim text.toList = '\x7b' :: (q ++ ['\x7d']) := by
    rw [htext, Text.trim_append_trimmed g _ g' (allBlank_of_allGaps g hg)
        (isTrimmed_of_object _ members ⟨q, rfl⟩),
      Text.trimEnd_blanks g' (allBlank_of_allGaps g' hg'), List.append_nil]
  exact readJson_of_read_object text _ members htrim (read_of_isReadAs _ _ hp)

/-! ### Lines -/

/-- Lines with an object on each, and blank ones. -/
inductive AreLines : List (List Char) → List Value → Prop where
  | none : AreLines [] []
  | blank (line : List Char) (lines : List (List Char)) (values : List Value)
      (hline : '\n' ∉ line) (hblank : AllBlank line) (rest : AreLines lines values) :
      AreLines (line :: lines) values
  | object (before text after : List Char) (members : List (String × Value))
      (lines : List (List Char)) (values : List Value)
      (hline : '\n' ∉ before ++ (text ++ after)) (hbefore : AllBlank before)
      (hafter : AllBlank after) (htext : Json.read text = .ok (.object members))
      (rest : AreLines lines values) :
      AreLines ((before ++ (text ++ after)) :: lines) (.object members :: values)

theorem AreLines.not_newline {lines : List (List Char)} {values : List Value}
    (h : AreLines lines values) : ∀ line ∈ lines, '\n' ∉ line := by
  induction h with
  | none => exact fun line hline => absurd hline List.not_mem_nil
  | blank line lines values hline _ _ ih => exact List.forall_mem_cons.mpr ⟨hline, ih⟩
  | object _ _ _ _ lines values hline _ _ _ _ ih => exact List.forall_mem_cons.mpr ⟨hline, ih⟩

/-- An object on its line. -/
theorem line_of_object (before text after : List Char) (members : List (String × Value))
    (hbefore : AllBlank before) (hafter : AllBlank after)
    (htext : Json.read text = .ok (.object members)) :
    ∃ a p z, before ++ (text ++ after) = a ++ (p ++ z) ∧ AllBlank a ∧ AllBlank z ∧
      IsReadAs maxDepth p (.object members) ∧ IsBracketed p (.object members) := by
  rcases read_eq_ok _ _ htext with ⟨g, p, g', hg, hg', rfl, hp, hbracket⟩
  refine ⟨before ++ g, p, g' ++ after, ?_, hbefore.append (allBlank_of_allGaps g hg),
    (allBlank_of_allGaps g' hg').append hafter, hp, hbracket⟩
  simp only [List.append_assoc]

/-- The values on lines are read, whatever number the first line has. -/
theorem readLinesFrom_areLines (lines : List (List Char)) (values : List Value)
    (h : AreLines lines values) (number : Nat) : readLinesFrom number lines = .ok values := by
  induction h generalizing number with
  | none => rw [readLinesFrom]
  | blank line lines values hline hblank rest ih =>
      rw [readLinesFrom, Text.trim_blanks line hblank, if_pos List.isEmpty_nil, ih]
  | object before text after members lines values hline hbefore hafter htext rest ih =>
      rcases line_of_object before text after members hbefore hafter htext with
        ⟨a, p, z, hsplit, ha, hz, hp, hbracket⟩
      have htrim : Text.trim (before ++ (text ++ after)) = p := by
        rw [hsplit, Text.trim_append_trimmed a p z ha (isTrimmed_of_object p members hbracket),
          Text.trimEnd_blanks z hz, List.append_nil]
      have hne : p.isEmpty = false := by
        rcases hbracket with ⟨q, rfl⟩
        rfl
      rw [readLinesFrom, htrim, if_neg (by simp [hne]), read_of_isReadAs _ _ hp]
      dsimp only
      rw [ih]
      rfl

/-- The values of a text of lines. -/
theorem readLines_intercalate (lines : List (List Char)) (values : List Value)
    (h : AreLines lines values) : readLines (['\n'].intercalate lines) = .ok values := by
  cases lines with
  | nil =>
      cases h
      rfl
  | cons line lines =>
      rw [readLines, Text.splitWhere_intercalate '\n' _ (by simp) h.not_newline]
      exact readLinesFrom_areLines _ values h 1

/-- A line in front of others has an end, which is a blank. -/
theorem intercalate_cons_blank (line : List Char) (lines : List (List Char)) :
    ∃ b, AllBlank b ∧ EndsInBlank (b ++ ['\n'].intercalate lines) ∧
      ['\n'].intercalate (line :: lines) = line ++ (b ++ ['\n'].intercalate lines) := by
  cases lines with
  | nil => exact ⟨[], by simp [AllBlank], stops_nil _, by simp⟩
  | cons line' lines =>
      refine ⟨['\n'], by simp [AllBlank]; rfl, stops_cons _ _ _ (by decide), ?_⟩
      rw [List.intercalate_cons_cons, List.append_assoc]

/-- Lines without values are blank. -/
theorem AreLines.allBlank {lines : List (List Char)} (h : AreLines lines []) :
    AllBlank (['\n'].intercalate lines) := by
  generalize hvalues : ([] : List Value) = values at h
  induction h with
  | none => simp [AllBlank]
  | blank line lines values hline hblank rest ih =>
      rcases intercalate_cons_blank line lines with ⟨b, hb, -, heq⟩
      rw [heq]
      exact hblank.append (hb.append (ih hvalues))
  | object => exact absurd hvalues (by simp)

/-- Lines with a value begin with the first, with blanks around it and the other
    lines behind it. -/
theorem AreLines.begin {lines : List (List Char)} {v : Value} {values : List Value}
    (h : AreLines lines (v :: values)) :
    ∃ members a p z lines', v = .object members ∧
      ['\n'].intercalate lines = a ++ (p ++ (z ++ ['\n'].intercalate lines')) ∧
      AllBlank a ∧ AllBlank z ∧ EndsInBlank (z ++ ['\n'].intercalate lines') ∧
      IsReadAs maxDepth p (.object members) ∧ IsBracketed p (.object members) ∧
      AreLines lines' values := by
  -- Empty lines come first and add no value, so the induction is on the lines.
  generalize hvalues : v :: values = all at h
  induction h with
  | none => exact absurd hvalues (by simp)
  | blank line lines all hline hblank rest ih =>
      rcases ih hvalues with ⟨members, a, p, z, lines', hv, hsplit, ha, hz⟩
      rcases intercalate_cons_blank line lines with ⟨b, hb, -, heq⟩
      refine ⟨members, line ++ (b ++ a), p, z, lines', hv, ?_, hblank.append (hb.append ha), hz⟩
      rw [heq, hsplit]
      simp only [List.append_assoc]
  -- The first line with an object. The line feed behind it ends its text in a blank.
  | object before text after members lines all hline hbefore hafter htext rest ih =>
      rcases List.cons.inj hvalues with ⟨rfl, rfl⟩
      rcases line_of_object before text after members hbefore hafter htext with
        ⟨a, p, z, hsplit, ha, hz, hp⟩
      rcases intercalate_cons_blank (before ++ (text ++ after)) lines with ⟨b, hb, hends, heq⟩
      refine ⟨members, a, p, z ++ b, lines, rfl, ?_, ha, hz.append hb, ?_, hp.1, hp.2, rest⟩
      · rw [heq, hsplit]
        simp only [List.append_assoc]
      · rw [List.append_assoc]
        exact endsInBlank_append z _ hz hends

/-- A text with an object in it has a brace in it. -/
theorem AreLines.brace_mem {lines : List (List Char)} {v : Value} {values : List Value}
    (h : AreLines lines (v :: values)) : '\x7b' ∈ ['\n'].intercalate lines := by
  rcases h.begin with ⟨members, a, p, z, lines', -, hsplit, -, -, -, -, ⟨q, rfl⟩, -⟩
  rw [hsplit]
  simp

/-- One object with a text for its `id` is no object of objects. -/
theorem readObject_of_idOf (members : List (String × Value)) (id : String)
    (h : idOf (.object members) = some id) : readObject members = keyedById [.object members] := by
  have hmember : ∃ value, members.lookup "id" = some value ∧ value.asText? = some id :=
    Option.bind_eq_some_iff.mp h
  rcases hmember with ⟨value, hlookup, htext⟩
  rcases List.lookup_eq_some_iff.mp hlookup with ⟨first, last, rfl, -⟩
  rw [readObject, if_neg]
  intro hall
  have hobject := List.all_eq_true.mp hall ("id", value) (by simp)
  cases value with
  | text s => exact absurd hobject (by simp [Value.isObject])
  | _ => exact absurd htext (by simp [Value.asText?])

/-- Lines of objects with a text for their `id` give what the objects do. -/
theorem readJson_lines (text : String) (lines : List (List Char)) (values : List Value)
    (htext : text.toList = ['\n'].intercalate lines) (h : AreLines lines values)
    (hids : ∀ v ∈ values, ∃ id, idOf v = some id) : readJson text = keyedById values := by
  cases values with
  | nil =>
      have htrim : Text.trim text.toList = [] := by rw [htext, Text.trim_blanks _ h.allBlank]
      simp only [readJson, htrim]
      rfl
  | cons v values =>
      rcases h.begin with ⟨members, a, p, z, lines', rfl, hsplit, ha, hz, hends, hp, hbracket, hrest⟩
      have htrim : Text.trim text.toList = p ++ Text.trimEnd (z ++ ['\n'].intercalate lines') := by
        rw [htext, hsplit, Text.trim_append_trimmed a p _ ha (isTrimmed_of_object p members hbracket)]
      have hread := read_append p _ _ hp hends.trimEnd.endsNumber
      rcases hbracket with ⟨q, rfl⟩
      rw [List.cons_append] at htrim hread
      cases values with
      | nil =>
          -- The text is one object, and this is read as an entry with its `id`.
          rw [Text.trimEnd_blanks _ (hz.append hrest.allBlank)] at htrim hread
          rcases hids _ List.mem_cons_self with ⟨id, hid⟩
          rw [readJson_of_read_object text _ members htrim hread]
          exact readObject_of_idOf members id hid
      | cons w values =>
          -- There is a brace behind the first object, so the text is no value.
          rw [if_neg] at hread
          · rw [readJson_of_read_error text _ _ htrim hread, htext, readLines_intercalate lines _ h]
            rfl
          · intro hempty
            rcases Text.trimEnd_append (z ++ ['\n'].intercalate lines') with ⟨blanks, hblanks, happ⟩
            have hgaps := allBlank_of_allGaps _ (List.dropWhile_eq_nil_iff.mp
              (List.isEmpty_iff.mp hempty))
            have hbrace := List.mem_append_right z hrest.brace_mem
            rw [← happ] at hbrace
            exact absurd (hgaps.append hblanks _ hbrace) (by decide)

end References
end CiteRender
