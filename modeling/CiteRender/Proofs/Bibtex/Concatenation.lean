import CiteRender.Proofs.Bibtex.Records

/-!
# Texts One behind the Other

Reading a text that is made of two. If the first can be read alone, the reader
of both comes to the end of the first just as it would without the second, with
the same records and the same abbreviations in force, and goes on from there.

This rests on a property of every block that has been read: the reader did not
look beyond the brace that closes it, so any text may follow. Nothing new has to
be said about the scanners for that. A block that was read is one of the
grammar, and the reader is complete for those whatever comes behind them.

What goes wrong in the second text goes wrong at the same place in both, with
the lines of the first counted before it.

## Main definitions

* `Block.records`, `Block.define`: What a block gives, and what it leaves in
  force.
* `HasBlocks`: The blocks of a text, one after the other.
* `StopsAt`: The first block of a text that is none.
* `readingOn`: What comes of reading on behind a text.

## Theorems

* `block_append`: A block is read the same whatever follows.
* `hasBlocks_of_readBlocks`: A text that was read has blocks that say all of it.
* `HasBlocks.readBlocks_append`: Blocks in front of a text.
* `readBlocks_eq_error_iff`: Where the reader stops.
* `readBlocks_below`: Only errors know the number of the line.
* `readRecords_append`: The records of two texts.
-/

namespace CiteRender

namespace Bibtex

/-- A block is read the same whatever follows its text. -/
theorem block_append (abbreviations : Abbreviations) (s rest more : List Char) (b : Block)
    (h : block abbreviations s = .ok (b, rest)) :
    block abbreviations (s ++ more) = .ok (b, rest ++ more) := by
  rcases block_sound abbreviations s rest b h with ⟨t, rfl, ht⟩
  rw [List.append_assoc]
  exact block_complete abbreviations t (rest ++ more) b ht

/-- The records that a block gives. -/
def Block.records : Block → List Record
  | .record r => [r]
  | _ => []

/-- The abbreviations in force behind a block. -/
def Block.define (abbreviations : Abbreviations) : Block → Abbreviations
  | .abbreviation word v => (word, v) :: abbreviations
  | _ => abbreviations

/-- Contents with some records before their own. -/
def Contents.behind (records : List Record) (contents : Contents) : Contents :=
  { contents with records := records ++ contents.records }

/-- What the reader does at a block, whatever the block says. -/
theorem readBlocks_cons_block (abbreviations : Abbreviations) (line : Nat) (s rest : List Char)
    (b : Block) (hb : block abbreviations ('@' :: s) = .ok (b, rest)) :
    readBlocks abbreviations line ('@' :: s) =
      (readBlocks (b.define abbreviations) (line + (('@' :: s).count '\n' - rest.count '\n'))
        rest).map (Contents.behind b.records) := by
  have hsame (result : Except SyntaxError Contents) :
      result = result.map (Contents.behind []) := by
    cases result <;> rfl
  rw [readBlocks_block abbreviations line s rest b hb]
  cases b with
  | skipped => exact hsame _
  | abbreviation word v => exact hsame _
  | record record => rfl

theorem readBlocks_cons_fault (abbreviations : Abbreviations) (line : Nat) (s : List Char)
    (fault : Fault) (hb : block abbreviations ('@' :: s) = .error fault) :
    readBlocks abbreviations line ('@' :: s) = .error ⟨line, fault⟩ := by
  rw [readBlocks, if_pos rfl]
  split
  · rename_i found hfound
    rw [hb] at hfound
    rw [Except.error.inj hfound]
  · rename_i hread
    rw [hb] at hread
    exact absurd hread (by simp)

/-- Induction along the reader: a text is empty, goes on with a character that is
    no `@`, or begins with a block, which can be read or not. -/
theorem blockInduction {motive : Abbreviations → List Char → Prop}
    (nil : ∀ abbreviations, motive abbreviations [])
    (free : ∀ abbreviations c s, c ≠ '@' → motive abbreviations s → motive abbreviations (c :: s))
    (fault : ∀ abbreviations s fault, block abbreviations ('@' :: s) = .error fault →
      motive abbreviations ('@' :: s))
    (block : ∀ abbreviations s b rest, block abbreviations ('@' :: s) = .ok (b, rest) →
      motive (b.define abbreviations) rest → motive abbreviations ('@' :: s)) :
    ∀ abbreviations s, motive abbreviations s := by
  intro abbreviations s
  -- On the length, as a block takes more than one character and may define names for the rest.
  induction hlength : s.length using Nat.strong_induction_on generalizing abbreviations s with
  | h length ih =>
    rcases s with _ | ⟨c, s⟩
    · exact nil abbreviations
    · by_cases hc : c = '@'
      · subst hc
        rcases hb : Bibtex.block abbreviations ('@' :: s) with found | ⟨b, rest⟩
        · exact fault abbreviations s found hb
        · exact block abbreviations s b rest hb
            (ih rest.length (hlength ▸ block_length hb) _ rest rfl)
      · exact free abbreviations c s hc (ih s.length (hlength ▸ Nat.lt_succ_self _) _ s rfl)

/-- A text has some blocks, in order, with some abbreviations in force at its
    start. Between the blocks there is no `@`. -/
inductive HasBlocks : Abbreviations → List Char → List Block → Prop
  | nil (abbreviations : Abbreviations) : HasBlocks abbreviations [] []
  | free (abbreviations : Abbreviations) (c : Char) (s : List Char) (blocks : List Block)
      (hc : c ≠ '@') (hs : HasBlocks abbreviations s blocks) :
      HasBlocks abbreviations (c :: s) blocks
  | block (abbreviations : Abbreviations) (s rest : List Char) (b : Block) (blocks : List Block)
      (hb : block abbreviations ('@' :: s) = .ok (b, rest))
      (hrest : HasBlocks (b.define abbreviations) rest blocks) :
      HasBlocks abbreviations ('@' :: s) (b :: blocks)

/-- What some blocks say together. -/
def contentsOf (abbreviations : Abbreviations) (blocks : List Block) : Contents :=
  ⟨blocks.flatMap Block.records, blocks.foldl Block.define abbreviations⟩

theorem contentsOf_cons (abbreviations : Abbreviations) (b : Block) (blocks : List Block) :
    contentsOf abbreviations (b :: blocks) =
      (contentsOf (b.define abbreviations) blocks).behind b.records := by
  rw [contentsOf, List.flatMap_cons, List.foldl_cons]
  rfl

/-- A text that was read has blocks, and they say what was read. -/
theorem hasBlocks_of_readBlocks (abbreviations : Abbreviations) (s : List Char) :
    ∀ line contents, readBlocks abbreviations line s = .ok contents →
      ∃ blocks, HasBlocks abbreviations s blocks ∧ contents = contentsOf abbreviations blocks := by
  induction abbreviations, s using blockInduction with
  | nil abbreviations =>
      intro line contents h
      rw [readBlocks] at h
      exact ⟨[], HasBlocks.nil abbreviations, (Except.ok.inj h).symm⟩
  | free abbreviations c s hc ih =>
      intro line contents h
      rw [readBlocks_cons_free abbreviations line c s hc] at h
      rcases ih _ contents h with ⟨blocks, hblocks, hcontents⟩
      exact ⟨blocks, HasBlocks.free abbreviations c s blocks hc hblocks, hcontents⟩
  -- A text with a fault is not read at all.
  | fault abbreviations s fault hb =>
      intro line contents h
      rw [readBlocks_cons_fault abbreviations line s fault hb] at h
      exact absurd h (by simp)
  | block abbreviations s b rest hb ih =>
      intro line contents h
      rw [readBlocks_cons_block abbreviations line s rest b hb] at h
      rcases hrest : readBlocks (b.define abbreviations)
        (line + (('@' :: s).count '\n' - rest.count '\n')) rest with error | inner
      · rw [hrest] at h
        exact absurd h (by simp [Except.map])
      · rw [hrest] at h
        rcases ih _ inner hrest with ⟨blocks, hblocks, rfl⟩
        refine ⟨b :: blocks, HasBlocks.block abbreviations s rest b blocks hb hblocks, ?_⟩
        rw [contentsOf_cons, ← Except.ok.inj h]

/-- Blocks in front of a text. The reader passes over them as it would without the
    text, and goes on with what they leave in force, on the line where they end. -/
theorem HasBlocks.readBlocks_append {abbreviations : Abbreviations} {a : List Char}
    {blocks : List Block} (h : HasBlocks abbreviations a blocks) (s : List Char) :
    ∀ line, readBlocks abbreviations line (a ++ s) =
      (readBlocks (contentsOf abbreviations blocks).abbreviations (line + a.count '\n') s).map
        (Contents.behind (contentsOf abbreviations blocks).records) := by
  induction h with
  | nil abbreviations =>
      intro line
      show readBlocks abbreviations line s =
        (readBlocks abbreviations line s).map (Contents.behind [])
      cases readBlocks abbreviations line s <;> rfl
  | free abbreviations c a blocks hc _ ih =>
      intro line
      rw [List.cons_append, readBlocks_cons_free abbreviations line c _ hc, ih]
      by_cases hend : c = '\n'
      · rw [if_pos hend, hend, List.count_cons_self, Nat.add_assoc, Nat.add_comm 1]
      · rw [if_neg hend, List.count_cons_of_ne hend]
  | block abbreviations a rest b blocks hb _ ih =>
      intro line
      have hmore := block_append abbreviations _ rest s b hb
      -- Only the lines of the block itself are counted when it is passed.
      have hline : line + (('@' :: (a ++ s)).count '\n' - (rest ++ s).count '\n') +
          rest.count '\n' = line + ('@' :: a).count '\n' := by
        rcases block_sound abbreviations _ rest b hb with ⟨t, ht, -⟩
        rw [← List.cons_append, ht]
        simp only [List.count_append]
        omega
      rw [List.cons_append] at hmore ⊢
      rw [readBlocks_cons_block abbreviations line _ _ b hmore, ih, hline, contentsOf_cons]
      dsimp only [Contents.behind]
      rcases readBlocks (contentsOf (b.define abbreviations) blocks).abbreviations
        (line + ('@' :: a).count '\n') s with error | contents
      · rfl
      · simp only [Except.map, Contents.behind, List.append_assoc]

/-- Where the reader stops in a text: at an `@` behind blocks that it has read, where with
    what these define there is no block. The line is that of this `@`. -/
def StopsAt (abbreviations : Abbreviations) (line : Nat) (s : List Char) (error : SyntaxError) :
    Prop :=
  ∃ passed blocks rest, s = passed ++ '@' :: rest ∧ HasBlocks abbreviations passed blocks ∧
    block (contentsOf abbreviations blocks).abbreviations ('@' :: rest) = .error error.fault ∧
    error.line = line + passed.count '\n'

theorem stopsAt_of_readBlocks (abbreviations : Abbreviations) (s : List Char)
    (error : SyntaxError) :
    ∀ line, readBlocks abbreviations line s = .error error →
      StopsAt abbreviations line s error := by
  induction abbreviations, s using blockInduction with
  | nil abbreviations =>
      intro line h
      rw [readBlocks] at h
      exact absurd h (by simp)
  | free abbreviations c s hc ih =>
      intro line h
      rw [readBlocks_cons_free abbreviations line c s hc] at h
      rcases ih _ h with ⟨passed, blocks, rest, rfl, hblocks, hfault, hline⟩
      refine ⟨c :: passed, blocks, rest, rfl, .free abbreviations c passed blocks hc hblocks,
        hfault, ?_⟩
      rw [hline]
      by_cases hend : c = '\n'
      · rw [if_pos hend, hend, List.count_cons_self, Nat.add_assoc, Nat.add_comm 1]
      · rw [if_neg hend, List.count_cons_of_ne hend]
  | fault abbreviations s fault hb =>
      intro line h
      rw [readBlocks_cons_fault abbreviations line s fault hb] at h
      obtain rfl := Except.error.inj h
      exact ⟨[], [], s, rfl, .nil abbreviations, hb, rfl⟩
  | block abbreviations s b rest hb ih =>
      intro line h
      rw [readBlocks_cons_block abbreviations line s rest b hb] at h
      rcases hrest : readBlocks (b.define abbreviations)
        (line + (('@' :: s).count '\n' - rest.count '\n')) rest with found | contents
      · rw [hrest] at h
        obtain rfl := Except.error.inj h
        rcases ih _ hrest with ⟨passed, blocks, behind, rfl, hblocks, hfault, hline⟩
        rcases block_sound abbreviations _ _ b hb with ⟨t, ht, hgrammar⟩
        -- The block is there without what follows it, and has lines of its own.
        have hhere := block_complete abbreviations t passed b hgrammar
        rcases t with _ | ⟨c, t⟩
        · exact absurd (block_length hhere) (Nat.lt_irrefl _)
        · obtain rfl : '@' = c := (List.cons.inj ht).1
          refine ⟨'@' :: t ++ passed, b :: blocks, behind, ht.trans (List.append_assoc ..).symm,
            .block abbreviations _ _ b blocks hhere hblocks, ?_, ?_⟩
          · rw [contentsOf_cons]
            exact hfault
          · rw [hline, ht]
            simp only [List.count_append]
            omega
      · rw [hrest] at h
        exact absurd h (by simp [Except.map])

/-- The reader fails exactly over a first block that is none. -/
theorem readBlocks_eq_error_iff (abbreviations : Abbreviations) (line : Nat) (s : List Char)
    (error : SyntaxError) :
    readBlocks abbreviations line s = .error error ↔ StopsAt abbreviations line s error := by
  refine ⟨stopsAt_of_readBlocks abbreviations s error line, ?_⟩
  rintro ⟨passed, blocks, rest, rfl, hblocks, hfault, hline⟩
  rw [hblocks.readBlocks_append, readBlocks_cons_fault _ _ rest error.fault hfault, ← hline]
  rfl

theorem readRecords_eq_error_iff (text : String) (error : SyntaxError) :
    readRecords text = .error error ↔ StopsAt [] 1 text.toList error := by
  rw [readRecords, ← readBlocks_eq_error_iff]
  rcases readBlocks [] 1 text.toList with found | contents
  · exact ⟨fun h => congrArg _ (Except.error.inj h), fun h => congrArg _ (Except.error.inj h)⟩
  · exact ⟨fun h => absurd h (by simp [Except.map]), fun h => absurd h (by simp)⟩

/-- An error some lines further down. -/
def SyntaxError.below (lines : Nat) (error : SyntaxError) : SyntaxError :=
  { error with line := error.line + lines }

/-- Only errors know the number of the line on which a text begins. -/
theorem readBlocks_below (lines : Nat) (abbreviations : Abbreviations) (s : List Char) :
    ∀ line, readBlocks abbreviations (line + lines) s =
      (readBlocks abbreviations line s).mapError (SyntaxError.below lines) := by
  induction abbreviations, s using blockInduction with
  | nil abbreviations =>
      intro line
      rw [readBlocks, readBlocks]
      rfl
  | free abbreviations c s hc ih =>
      intro line
      have hline : (if c = '\n' then line + lines + 1 else line + lines) =
          (if c = '\n' then line + 1 else line) + lines := by
        by_cases hend : c = '\n'
        · rw [if_pos hend, if_pos hend, Nat.add_right_comm]
        · rw [if_neg hend, if_neg hend]
      rw [readBlocks_cons_free abbreviations _ c s hc, readBlocks_cons_free abbreviations _ c s hc,
        hline, ih]
  | fault abbreviations s fault hb =>
      intro line
      rw [readBlocks_cons_fault abbreviations _ s fault hb,
        readBlocks_cons_fault abbreviations _ s fault hb]
      rfl
  | block abbreviations s b rest hb ih =>
      intro line
      -- The lines a block takes do not depend on where it starts, so they add up in either order.
      rw [readBlocks_cons_block abbreviations _ s rest b hb,
        readBlocks_cons_block abbreviations _ s rest b hb, Nat.add_right_comm, ih]
      cases readBlocks (b.define abbreviations)
        (line + (('@' :: s).count '\n' - rest.count '\n')) rest <;> rfl

/-- What comes of reading on behind a text that has some records and line ends:
    more records, or an error as many lines further down. -/
def readingOn (records : List Record) (lines : Nat) :
    Except SyntaxError (List Record) → Except SyntaxError (List Record)
  | .ok more => .ok (records ++ more)
  | .error error => .error (error.below lines)

/-- The number of line ends in a text. -/
def lineEnds (text : String) : Nat :=
  text.toList.count '\n'

/-- A text has blocks, and none of them defines an abbreviation. -/
def DefinesNothing (text : String) : Prop :=
  ∃ blocks, HasBlocks [] text.toList blocks ∧ ∀ word v, Block.abbreviation word v ∉ blocks

/-- Blocks that define nothing leave in force what was. -/
theorem foldl_define_eq_self (blocks : List Block) (h : ∀ word v, .abbreviation word v ∉ blocks)
    (abbreviations : Abbreviations) : blocks.foldl Block.define abbreviations = abbreviations := by
  induction blocks with
  | nil => rfl
  | cons b blocks ih =>
      rw [List.foldl_cons]
      cases b with
      | abbreviation word v => exact absurd List.mem_cons_self (h word v)
      | skipped => exact ih fun word v hmem => h word v (List.mem_cons_of_mem _ hmem)
      | record r => exact ih fun word v hmem => h word v (List.mem_cons_of_mem _ hmem)

/-- Reading on behind the blocks of a text. -/
theorem HasBlocks.readRecords_eq {a : String} {blocks : List Block}
    (h : HasBlocks [] a.toList blocks) (b : String) :
    readRecords (a ++ b) = readingOn (contentsOf [] blocks).records (lineEnds a)
      ((readBlocks (contentsOf [] blocks).abbreviations 1 b.toList).map Contents.records) := by
  rw [readRecords, String.toList_append, h.readBlocks_append, readBlocks_below]
  cases readBlocks (contentsOf [] blocks).abbreviations 1 b.toList <;> rfl

/-- Blocks that a text has are what the reader finds in it. -/
theorem HasBlocks.readBlocks_eq {a : List Char} {blocks : List Block}
    (h : HasBlocks [] a blocks) : readBlocks [] 1 a = .ok (contentsOf [] blocks) := by
  have hend := h.readBlocks_append [] 1
  rw [List.append_nil, readBlocks] at hend
  rw [hend]
  exact congrArg Except.ok
    (congrArg (Contents.mk · (contentsOf [] blocks).abbreviations) (List.append_nil _))

/-- The records of two texts, of which the first can be read alone. They are those
    of the first, and behind them those that the second gives with the abbreviations
    that the first has left. If the second cannot be read so, the error is the same
    with the lines of the first before it. A first text that defines nothing leaves
    the second as it is alone. -/
theorem readRecords_append (a b : String) (records : List Record)
    (h : readRecords a = .ok records) :
    (∃ left, readBlocks [] 1 a.toList = .ok ⟨records, left⟩ ∧
      readRecords (a ++ b) = readingOn records (lineEnds a)
        ((readBlocks left 1 b.toList).map Contents.records)) ∧
    (DefinesNothing a →
      readRecords (a ++ b) = readingOn records (lineEnds a) (readRecords b)) := by
  -- The blocks of the first text are known from its being read, or from defining nothing.
  have hblocks (blocks : List Block) (hfirst : HasBlocks [] a.toList blocks) :
      (contentsOf [] blocks).records = records := by
    rw [readRecords, hfirst.readBlocks_eq] at h
    exact Except.ok.inj h
  constructor
  · rcases hread : readBlocks [] 1 a.toList with error | contents
    · rw [readRecords, hread] at h
      exact absurd h (by simp [Except.map])
    · rcases hasBlocks_of_readBlocks [] a.toList 1 contents hread with ⟨blocks, hfirst, rfl⟩
      refine ⟨(contentsOf [] blocks).abbreviations, ?_, ?_⟩
      · rw [← hblocks blocks hfirst]
      · rw [hfirst.readRecords_eq b, hblocks blocks hfirst]
  · rintro ⟨blocks, hfirst, hnone⟩
    have hleft : (contentsOf [] blocks).abbreviations = [] := foldl_define_eq_self blocks hnone []
    rw [hfirst.readRecords_eq b, hblocks blocks hfirst, hleft, readRecords]

/-- A text that leaves an abbreviation, before one that uses it and before one that
    cannot be read, and a text that leaves nothing. -/
theorem readRecords_append_journal :
    let defining := "@string\x7bJ=\x7bQ\x7d\x7d\n@b\x7bk,t=j\x7d\n"
    let plain := "@b\x7bk\x7d\n"
    let first : Record := ⟨"b", "k", [("t", "Q")]⟩
    let second : Record := ⟨"b", "l", [("t", "Q1")]⟩
    readRecords defining = .ok [first] ∧ readRecords plain = .ok [⟨"b", "k", []⟩] ∧
      readRecords (defining ++ "@b\x7bl,t=j#1\x7d") = .ok [first, second] ∧
      readRecords (defining ++ "\n@b") = .error ⟨4, ⟨.symbol, []⟩⟩ ∧
      DefinesNothing plain ∧
      readRecords (plain ++ "\n@b") = .error ⟨3, ⟨.symbol, []⟩⟩ := by
  intro defining plain first second
  have hdefining : readRecords defining = .ok [first] := by decide +kernel
  have hplain : readRecords plain = .ok [⟨"b", "k", []⟩] := by decide +kernel
  have hknown : readBlocks [] 1 defining.toList = .ok ⟨[first], [(['j'], ['Q'])]⟩ := by
    decide +kernel
  have hnothing : DefinesNothing plain := by
    have htext : plain.toList = '@' :: "b\x7bk\x7d\n".toList := by decide +kernel
    have hblock : block [] ('@' :: "b\x7bk\x7d\n".toList) =
        .ok (.record ⟨"b", "k", []⟩, ['\n']) := by decide +kernel
    refine ⟨[.record ⟨"b", "k", []⟩], ?_, by simp⟩
    rw [htext]
    exact .block [] _ _ _ _ hblock (.free _ '\n' [] [] (by decide) (.nil _))
  rcases (readRecords_append defining "@b\x7bl,t=j#1\x7d" _ hdefining).1 with ⟨left, hleft, hmore⟩
  rcases (readRecords_append defining "\n@b" _ hdefining).1 with ⟨left', hleft', hfault⟩
  obtain rfl := (Contents.mk.inj (Except.ok.inj (hleft.symm.trans hknown))).2
  obtain rfl := (Contents.mk.inj (Except.ok.inj (hleft'.symm.trans hknown))).2
  refine ⟨hdefining, hplain, hmore.trans (by decide +kernel), hfault.trans (by decide +kernel),
    hnothing, ?_⟩
  exact ((readRecords_append plain "\n@b" _ hplain).2 hnothing).trans (by decide +kernel)

end Bibtex

end CiteRender
