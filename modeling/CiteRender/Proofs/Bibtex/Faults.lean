import CiteRender.Proofs.Bibtex.Concatenation

/-!
# The First Fault of a Text

Which block an error is about, and on which line. A text that cannot be read parts
in two: what is before can be read alone, and what is behind begins with the `@` of a
block that, with the abbreviations defined before it, is none.

No text parts so in two places. Of two such places the later one would lie behind the
`@` of the earlier, in a text that was read; but then the block of the earlier `@`
was read there without what follows, and so it is read with what follows as well.

## Main definitions

* `PartsAt`: A text parts at a fault.

## Theorems

* `partsAt_iff`: The two parts by the blocks of the first.
* `readBlocks_of_rejected`: A block that is rejected is rejected wherever the text
  breaks off behind its `@`.
* `PartsAt.unique`: A text parts at one fault only.
* `readRecords_eq_error_iff_partsAt`: The error of a text is about the block at which
  the text parts.
-/

namespace CiteRender

namespace Bibtex

/-- A text parts at a fault. What is before it can be read alone; what is behind it
    begins with an `@`, and is no block with the abbreviations that are left before. -/
structure PartsAt (text before behind : String) (fault : Fault) : Prop where
  append : before ++ behind = text
  begins : behind.toList.head? = some '@'
  rejected : ∃ records left, readRecords before = .ok records ∧
    readBlocks [] 1 before.toList = .ok ⟨records, left⟩ ∧
    block left behind.toList = .error fault

/-- The two parts of a text by the blocks of the first. -/
theorem partsAt_iff (text before behind : String) (fault : Fault) :
    PartsAt text before behind fault ↔
      before ++ behind = text ∧ ∃ blocks rest, behind.toList = '@' :: rest ∧
        HasBlocks [] before.toList blocks ∧
        block (contentsOf [] blocks).abbreviations ('@' :: rest) = .error fault := by
  constructor
  · rintro ⟨happend, hbegins, records, left, -, hread, hfault⟩
    rcases List.head?_eq_some_iff.1 hbegins with ⟨rest, hrest⟩
    rcases hasBlocks_of_readBlocks [] _ 1 _ hread with ⟨blocks, hblocks, hcontents⟩
    refine ⟨happend, blocks, rest, hrest, hblocks, ?_⟩
    rw [← hcontents, ← hrest]
    exact hfault
  · rintro ⟨happend, blocks, rest, hrest, hblocks, hfault⟩
    have hread := hblocks.readBlocks_eq
    refine ⟨happend, by rw [hrest]; rfl, (contentsOf [] blocks).records,
      (contentsOf [] blocks).abbreviations, ?_, hread, hrest ▸ hfault⟩
    rw [readRecords, hread]
    rfl

/-- A block that is rejected is rejected too where the text breaks off behind its `@`,
    for a block that is read there would be read with what follows as well. -/
theorem readBlocks_of_rejected {abbreviations : Abbreviations} {before : List Char}
    {blocks : List Block} (h : HasBlocks abbreviations before blocks) (s more : List Char)
    (fault : Fault)
    (hfault : block (contentsOf abbreviations blocks).abbreviations ('@' :: s ++ more) =
      .error fault) (line : Nat) :
    ∃ error, readBlocks abbreviations line (before ++ '@' :: s) = .error error := by
  rw [h.readBlocks_append]
  rcases hb : block (contentsOf abbreviations blocks).abbreviations ('@' :: s) with
    found | ⟨b, rest⟩
  · rw [readBlocks_cons_fault _ _ s found hb]
    exact ⟨_, rfl⟩
  · rw [block_append _ _ rest more b hb] at hfault
    exact absurd hfault (by simp)

/-- Of two places where a text parts, the second does not lie behind the first. -/
theorem not_partsAt_behind (text before behind before' behind' : String) (fault fault' : Fault)
    (h : PartsAt text before behind fault) (h' : PartsAt text before' behind' fault')
    (passed : List Char) (hpassed : before'.toList = before.toList ++ passed) : passed = [] := by
  rcases (partsAt_iff text before behind fault).1 h with
    ⟨happend, blocks, rest, hrest, hblocks, hfault⟩
  rcases (partsAt_iff text before' behind' fault').1 h' with
    ⟨happend', blocks', rest', hrest', hblocks', -⟩
  -- What is passed is where the first block begins, so it begins with the same `@`.
  have hsame : '@' :: rest = passed ++ behind'.toList := by
    have htext := congrArg String.toList (happend.trans happend'.symm)
    rw [String.toList_append, String.toList_append, hpassed, hrest, List.append_assoc] at htext
    exact List.append_cancel_left htext
  rcases passed with _ | ⟨c, passed⟩
  · rfl
  · obtain rfl : '@' = c := (List.cons.inj hsame).1
    rw [hsame] at hfault
    rcases readBlocks_of_rejected hblocks passed behind'.toList fault hfault 1 with ⟨error, herror⟩
    rw [← hpassed, hblocks'.readBlocks_eq] at herror
    exact absurd herror (by simp)

/-- A text parts at one fault only. -/
theorem PartsAt.unique {text before behind before' behind' : String} {fault fault' : Fault}
    (h : PartsAt text before behind fault) (h' : PartsAt text before' behind' fault') :
    before = before' ∧ behind = behind' ∧ fault = fault' := by
  -- One of the two first parts begins with the other, and nothing lies between them.
  have htext : before.toList ++ behind.toList = before'.toList ++ behind'.toList := by
    rw [← String.toList_append, ← String.toList_append, h.append, h'.append]
  have hbefore : before = before' := by
    apply String.toList_inj.1
    rcases List.append_eq_append_iff.1 htext with ⟨passed, hpassed, -⟩ | ⟨passed, hpassed, -⟩
    · rw [hpassed, not_partsAt_behind text _ _ _ _ _ _ h h' passed hpassed, List.append_nil]
    · rw [hpassed, not_partsAt_behind text _ _ _ _ _ _ h' h passed hpassed, List.append_nil]
  subst hbefore
  obtain rfl : behind = behind' := String.toList_inj.1 (List.append_cancel_left htext)
  rcases h.rejected with ⟨records, left, -, hread, hfault⟩
  rcases h'.rejected with ⟨records', left', -, hread', hfault'⟩
  obtain ⟨-, rfl⟩ := Contents.mk.inj (Except.ok.inj (hread.symm.trans hread'))
  exact ⟨rfl, rfl, Except.error.inj (hfault.symm.trans hfault')⟩

/-- A text parts at a fault exactly where the reader stops. -/
theorem stopsAt_iff_partsAt (text : String) (error : SyntaxError) :
    StopsAt [] 1 text.toList error ↔
      ∃ before behind, PartsAt text before behind error.fault ∧
        error.line = 1 + lineEnds before := by
  constructor
  · rintro ⟨passed, blocks, rest, htext, hblocks, hfault, hline⟩
    refine ⟨String.ofList passed, String.ofList ('@' :: rest),
      (partsAt_iff _ _ _ _).2 ⟨?_, blocks, rest, String.toList_ofList, ?_, hfault⟩, ?_⟩
    · rw [← String.ofList_append, ← htext, String.ofList_toList]
    · rwa [String.toList_ofList]
    · rwa [lineEnds, String.toList_ofList]
  · rintro ⟨before, behind, hparts, hline⟩
    rcases (partsAt_iff _ _ _ _).1 hparts with ⟨rfl, blocks, rest, hrest, hblocks, hfault⟩
    exact ⟨before.toList, blocks, rest, by rw [String.toList_append, hrest], hblocks, hfault, hline⟩

/-- An error is about the one block at which the text parts. There is an error exactly if
    the text parts somewhere; it parts nowhere else; and the line of the error is the one
    of the block's `@`, counted from one, which is a line of the text. -/
theorem readRecords_eq_error_iff_partsAt (text : String) :
    (∀ error, readRecords text = .error error ↔
      ∃ before behind, PartsAt text before behind error.fault ∧
        error.line = 1 + lineEnds before) ∧
    (∀ before behind fault before' behind' fault', PartsAt text before behind fault →
      PartsAt text before' behind' fault' →
        before = before' ∧ behind = behind' ∧ fault = fault') ∧
    (∀ error, readRecords text = .error error →
      1 ≤ error.line ∧ error.line ≤ 1 + lineEnds text) := by
  have hiff (error : SyntaxError) : readRecords text = .error error ↔
      ∃ before behind, PartsAt text before behind error.fault ∧
        error.line = 1 + lineEnds before :=
    (readRecords_eq_error_iff text error).trans (stopsAt_iff_partsAt text error)
  refine ⟨hiff, fun _ _ _ _ _ _ h h' => h.unique h', fun error herror => ?_⟩
  rcases (hiff error).1 herror with ⟨before, behind, hparts, hline⟩
  rw [hline, ← hparts.append, lineEnds, lineEnds, String.toList_append, List.count_append]
  omega

/-- An abbreviation and a record that uses it are read before the fault. The block at
    the fault goes on over a line of its own, which does not count. -/
theorem readRecords_eq_error_iff_partsAt_third :
    let before := "@string\x7bJ=\x7bQ\x7d\x7d\n\n@b\x7bk,t=j\x7d\n"
    let behind := "@b\x7bl,\n t=\x7d"
    let fault : Fault := ⟨.run, ['\x7d']⟩
    PartsAt (before ++ behind) before behind fault ∧
      readRecords (before ++ behind) = .error ⟨4, fault⟩ ∧
      (∀ before' behind' fault', PartsAt (before ++ behind) before' behind' fault' →
        before = before' ∧ behind = behind' ∧ fault = fault') ∧
      1 ≤ 4 ∧ 4 ≤ 1 + lineEnds (before ++ behind) := by
  intro before behind fault
  have hparts : PartsAt (before ++ behind) before behind fault :=
    ⟨rfl, by decide +kernel, [⟨"b", "k", [("t", "Q")]⟩], [(['j'], ['Q'])], by decide +kernel,
      by decide +kernel, by decide +kernel⟩
  rcases readRecords_eq_error_iff_partsAt (before ++ behind) with ⟨hiff, hunique, hline⟩
  have herror : readRecords (before ++ behind) = .error ⟨4, fault⟩ :=
    (hiff ⟨4, fault⟩).2 ⟨before, behind, hparts, by decide +kernel⟩
  exact ⟨hparts, herror, fun _ _ _ h' => hunique _ _ _ _ _ _ hparts h', hline _ herror⟩

end Bibtex

end CiteRender
