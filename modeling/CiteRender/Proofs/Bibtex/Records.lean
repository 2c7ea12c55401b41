import CiteRender.Proofs.Bibtex.Blocks

/-!
# Reading Texts

The reader of whole texts against the grammar: it accepts exactly the texts
that say something, and what it gives is what they say.

The reader carries two things the grammar does not have, the number of the
current line and a list of definitions. The line matters only to errors, so
both directions are proved for every line at once. The list stands for a
function from names to meanings, and `meanings_cons` is why a definition put
in front of it is a change of that function at one name.

## Theorems

* `readBlocks_append_free`: Text without `@` is passed over.
* `says_of_readBlocks`: What the reader gives is what the text says.
* `readBlocks_of_says`: A text that says something is accepted.
* `readRecords_eq_ok_iff`: Reading is the grammar.
-/

namespace CiteRender

namespace Bibtex

theorem readBlocks_cons_free (abbreviations : Abbreviations) (line : Nat) (c : Char)
    (s : List Char) (hc : c ≠ '@') :
    readBlocks abbreviations line (c :: s) =
      readBlocks abbreviations (if c = '\n' then line + 1 else line) s := by
  rw [readBlocks, if_neg hc]

/-- Text without `@` is passed over, and only its lines are counted. -/
theorem readBlocks_append_free (abbreviations : Abbreviations) (free s : List Char)
    (hf : '@' ∉ free) :
    ∀ line, readBlocks abbreviations line (free ++ s) =
      readBlocks abbreviations (line + free.count '\n') s := by
  induction free with
  | nil =>
      intro line
      rfl
  | cons c free ih =>
      intro line
      rw [List.mem_cons, not_or] at hf
      rw [List.cons_append, readBlocks_cons_free abbreviations line c _ (Ne.symm hf.1), ih hf.2]
      by_cases hc : c = '\n'
      · rw [if_pos hc, hc, List.count_cons_self]
        congr 1
        omega
      · rw [if_neg hc, List.count_cons_of_ne hc]

/-- What the reader does at an `@`, once the block there has been read. -/
theorem readBlocks_block (abbreviations : Abbreviations) (line : Nat) (s rest : List Char)
    (b : Block) (hb : block abbreviations ('@' :: s) = .ok (b, rest)) :
    readBlocks abbreviations line ('@' :: s) =
      match b with
      | .skipped =>
        readBlocks abbreviations (line + (('@' :: s).count '\n' - rest.count '\n')) rest
      | .abbreviation word v =>
        readBlocks ((word, v) :: abbreviations)
          (line + (('@' :: s).count '\n' - rest.count '\n')) rest
      | .record record =>
        (readBlocks abbreviations (line + (('@' :: s).count '\n' - rest.count '\n')) rest).map
          fun contents => { contents with records := record :: contents.records } := by
  -- The reader keeps the reading as a fact, so it is split on and not rewritten.
  rw [readBlocks, if_pos rfl]
  split
  · rename_i fault hfault
    rw [hb] at hfault
    simp at hfault
  · rename_i b' rest' hb'
    rw [hb] at hb'
    rcases Prod.mk.inj (Except.ok.inj hb') with ⟨rfl, rfl⟩
    cases b with
    | record record => rfl
    | abbreviation word v => rfl
    | skipped => rfl

/-- A character in front that is no `@` says nothing. -/
theorem Says.cons {m : Meanings} {s : List Char} {records : List Record} (h : Says m s records)
    (c : Char) (hc : c ≠ '@') : Says m (c :: s) records := by
  have hfront (free : List Char) (hf : '@' ∉ free) : '@' ∉ c :: free := by
    rw [List.mem_cons, not_or]
    exact ⟨Ne.symm hc, hf⟩
  cases h with
  | free _ _ hs => exact Says.free m (c :: s) (hfront s hs)
  | skipped _ free block rest _ hf hb hr =>
      exact Says.skipped m (c :: free) block rest records (hfront free hf) hb hr
  | abbreviation _ free block rest word v _ hf hb hr =>
      exact Says.abbreviation m (c :: free) block rest word v records (hfront free hf) hb hr
  | record _ free block rest record records hf hb hr =>
      exact Says.record m (c :: free) block rest record records (hfront free hf) hb hr

/-- What the reader gives is what the text says. -/
theorem says_of_readBlocks (abbreviations : Abbreviations) (line : Nat) (s : List Char)
    (contents : Contents) (h : readBlocks abbreviations line s = .ok contents) :
    Says (meanings abbreviations) s contents.records := by
  -- The cases are those of the reader: the end, a block that cannot be read, the
  -- three kinds of block, and a character between blocks.
  fun_induction readBlocks abbreviations line s generalizing contents with
  | case1 abbreviations =>
      rw [← Except.ok.inj h]
      exact Says.free _ [] (by simp)
  | case2 => simp at h
  | case3 abbreviations line cs rest passed hb _ _ ih =>
      rcases block_sound abbreviations ('@' :: cs) rest .skipped hb with ⟨t, ht, hblock⟩
      rw [ht]
      exact Says.skipped _ [] t rest _ (by simp) hblock (ih contents h)
  | case4 abbreviations line cs rest word v passed hb _ _ ih =>
      rcases block_sound abbreviations ('@' :: cs) rest (.abbreviation word v) hb with
        ⟨t, ht, hblock⟩
      have hrest := ih contents h
      rw [meanings_cons] at hrest
      rw [ht]
      exact Says.abbreviation _ [] t rest word v _ (by simp) hblock hrest
  | case5 abbreviations line cs rest record passed hb _ _ ih =>
      rcases block_sound abbreviations ('@' :: cs) rest (.record record) hb with ⟨t, ht, hblock⟩
      rcases hrest : readBlocks abbreviations (line + passed) rest with fault | inner
      · rw [hrest] at h
        simp [Except.map] at h
      · rw [hrest] at h
        rw [← Except.ok.inj h, ht]
        exact Says.record _ [] t rest record inner.records (by simp) hblock (ih inner hrest)
  | case6 abbreviations line c cs hc ih => exact (ih contents h).cons c hc

/-- A block begins at an `@`. -/
theorem IsBlock.exists_cons {m : Meanings} {t : List Char} {b : Block} (h : IsBlock m t b) :
    ∃ s, t = '@' :: s := by
  cases h with
  | skipped => exact ⟨_, rfl⟩
  | abbreviation => exact ⟨_, rfl⟩
  | record => exact ⟨_, rfl⟩

/-- A text that says something is accepted, and gives what it says. -/
theorem readBlocks_of_says (m : Meanings) (s : List Char) (records : List Record)
    (h : Says m s records) :
    ∀ (abbreviations : Abbreviations) (line : Nat), meanings abbreviations = m →
      ∃ contents, readBlocks abbreviations line s = .ok contents ∧ contents.records = records := by
  -- A block behind free text is where the reader arrives, on some later line.
  have harrive (abbreviations : Abbreviations) (line : Nat) (free t rest : List Char) (b : Block)
      (hf : '@' ∉ free) (hb : IsBlock (meanings abbreviations) t b) :
      ∃ line' s', readBlocks abbreviations line (free ++ t ++ rest) =
        readBlocks abbreviations line' ('@' :: s') ∧
          block abbreviations ('@' :: s') = .ok (b, rest) := by
    rcases hb.exists_cons with ⟨s', rfl⟩
    refine ⟨line + free.count '\n', s' ++ rest, ?_, block_complete abbreviations _ rest b hb⟩
    rw [List.append_assoc, readBlocks_append_free abbreviations free _ hf line, List.cons_append]
  -- Line numbers only matter to errors, so any will do.
  induction h with
  | free m s hs =>
      intro abbreviations line _
      refine ⟨⟨[], abbreviations⟩, ?_, rfl⟩
      have hread := readBlocks_append_free abbreviations s [] hs line
      rw [List.append_nil] at hread
      rw [hread, readBlocks]
  | skipped m free t rest records hf hb _ ih =>
      rintro abbreviations line rfl
      rcases harrive abbreviations line free t rest .skipped hf hb with ⟨line', s', hs, hblock⟩
      rw [hs, readBlocks_block abbreviations line' s' rest .skipped hblock]
      exact ih abbreviations _ rfl
  | abbreviation m free t rest word v records hf hb _ ih =>
      rintro abbreviations line rfl
      rcases harrive abbreviations line free t rest (.abbreviation word v) hf hb with
        ⟨line', s', hs, hblock⟩
      rw [hs, readBlocks_block abbreviations line' s' rest (.abbreviation word v) hblock]
      exact ih ((word, v) :: abbreviations) _ (meanings_cons word v abbreviations)
  | record m free t rest record records hf hb _ ih =>
      rintro abbreviations line rfl
      rcases harrive abbreviations line free t rest (.record record) hf hb with
        ⟨line', s', hs, hblock⟩
      rw [hs, readBlocks_block abbreviations line' s' rest (.record record) hblock]
      dsimp only
      rcases ih abbreviations (line' + (('@' :: s').count '\n' - rest.count '\n')) rfl with
        ⟨contents, hread, hrecords⟩
      rw [hread]
      exact ⟨_, rfl, congrArg (record :: ·) hrecords⟩

/-- Reading is the grammar: a text is accepted with some records exactly if it
    says them, with no abbreviation in force at its start. -/
theorem readRecords_eq_ok_iff (text : String) (records : List Record) :
    readRecords text = .ok records ↔ Says (fun _ => none) text.toList records := by
  have hnone : meanings [] = fun _ => none := rfl
  constructor
  · intro h
    rw [readRecords] at h
    rcases hread : readBlocks [] 1 text.toList with fault | contents
    · rw [hread] at h
      simp [Except.map] at h
    · rw [hread] at h
      rw [← Except.ok.inj h, ← hnone]
      exact says_of_readBlocks [] 1 text.toList contents hread
  · intro h
    rcases readBlocks_of_says _ text.toList records h [] 1 hnone with ⟨contents, hread, hrecords⟩
    rw [readRecords, hread, ← hrecords]
    rfl

end Bibtex

end CiteRender
