import CiteRender.Proofs.Bibliography.LastDefinition
import CiteRender.Proofs.Bibtex.Concatenation
import CiteRender.Proofs.Render.FailFast
import CiteRender.Proofs.Render.Stages

/-!
# Merging Bibliographies

The bibliography of an article comes in blocks, and may be known in part before
the article is read. A key can have several records in one block, records in
several blocks, and an entry from before. The last record of the last block
that has one decides.

Every block is read alone, so abbreviations do not reach from one block into
the next, and the line of an error is counted from the start of its block. A
block that cannot be read stops the stage. The blocks before it stay merged,
and nothing is taken from the block itself.

That both cases are one is seen by going through the blocks that can be read
first. They lead to a ledger that `lastRecord?` describes, and a run over more
blocks goes on from there.

## Main definitions

* `lastRecord?`: The record of a key that wins.
* `Reads`: The records that are read from a block.
* `Ledger.OverwrittenBy`: A ledger after some blocks.

## Theorems

* `getElem?_merge_blocks`: The entries of one block more.
* `forEach_mergeBlock`: Blocks that can be read.
* `forEach_mergeBlock_stops`: A block that cannot be read, behind some that can.
* `extractBibliography_merges`: What the stage leaves in the ledger.
-/

namespace CiteRender

open Bibtex

/-- Of the records of some blocks, the last one of a key in the last block that has one. -/
def lastRecord? (key : String) (blocks : List (List Record)) : Option Record :=
  blocks.reverse.findSome? fun records => records.reverse.find? (·.key = key)

/-- Some records are what is read from a block, and from nothing but its text. -/
def Reads (block : Element Nat) (records : List Record) : Prop :=
  readRecords block.text = .ok records

theorem lastRecord?_append_singleton (key : String) (blocks : List (List Record))
    (records : List Record) :
    lastRecord? key (blocks ++ [records]) =
      (records.reverse.find? (·.key = key)).or (lastRecord? key blocks) := by
  rw [lastRecord?, List.reverse_append, List.reverse_singleton, List.singleton_append,
    List.findSome?_cons]
  cases records.reverse.find? (·.key = key) <;> rfl

/-- The entry of a key after a block is merged that others were merged before. -/
theorem getElem?_merge_blocks (entries merged : Bibliography) (blocks : List (List Record))
    (records : List Record) (key : String)
    (h : merged[key]? = ((lastRecord? key blocks).map Record.entry).or entries[key]?) :
    (Bibliography.merge merged (bibliographyOf records))[key]? =
      ((lastRecord? key (blocks ++ [records])).map Record.entry).or entries[key]? := by
  rw [Bibliography.getElem?_merge, getElem?_bibliographyOf, lastRecord?_append_singleton, h]
  cases records.reverse.find? (·.key = key) <;> rfl

/-- A ledger has the entries of another, overwritten by the records of some blocks. -/
structure Ledger.OverwrittenBy (ledger : Ledger) (blocks : List (List Record)) (later : Ledger) :
    Prop where
  cited : later.cited = ledger.cited
  entry : ∀ key, later.entry key =
    ((lastRecord? key blocks).map Record.entry).or (ledger.entry key)

theorem Ledger.overwrittenBy_nil (ledger : Ledger) : ledger.OverwrittenBy [] ledger :=
  ⟨rfl, fun _ => rfl⟩

theorem mergeBlock_of_reads (verbose : Bool) (block : Element Nat) (records : List Record)
    (ledger : Ledger) (h : Reads block records) :
    (mergeBlock verbose block ledger).failure = none ∧
      (mergeBlock verbose block ledger).state =
        { ledger with
          bibliography := Bibliography.merge ledger.bibliography (bibliographyOf records) } := by
  have hread : readBibliography block.text = .ok (bibliographyOf records) := by
    rw [readBibliography, h]
    rfl
  rw [mergeBlock, hread]
  exact ⟨rfl, rfl⟩

theorem mergeBlock_of_error (verbose : Bool) (block : Element Nat) (error : SyntaxError)
    (ledger : Ledger) (h : readRecords block.text = .error error) :
    mergeBlock verbose block ledger = .failed ledger (.bibtex error) := by
  have hread : readBibliography block.text = .error error := by
    rw [readBibliography, h]
    rfl
  rw [mergeBlock, hread]

/-- One more block that can be read. -/
theorem Ledger.OverwrittenBy.mergeBlock {ledger later : Ledger} {blocks : List (List Record)}
    (h : ledger.OverwrittenBy blocks later) (verbose : Bool) (block : Element Nat)
    (records : List Record) (hreads : Reads block records) :
    ledger.OverwrittenBy (blocks ++ [records]) (mergeBlock verbose block later).state := by
  rw [(mergeBlock_of_reads verbose block records later hreads).2]
  exact ⟨h.cited, fun key => getElem?_merge_blocks _ _ blocks records key (h.entry key)⟩

/-- A run over blocks that can be read, behind others that were. -/
theorem forEach_mergeBlock (verbose : Bool) (ledger : Ledger) (blocks : List (Element Nat))
    (contents : List (List Record)) (hreads : List.Forall₂ Reads blocks contents) :
    ∀ before later, ledger.OverwrittenBy before later →
      (Run.forEach (mergeBlock verbose) blocks later).failure = none ∧
        ledger.OverwrittenBy (before ++ contents)
          (Run.forEach (mergeBlock verbose) blocks later).state := by
  induction hreads with
  | nil =>
      intro before later h
      rw [List.append_nil]
      exact ⟨rfl, h⟩
  | @cons block records blocks contents hblock _ ih =>
      intro before later h
      have hdone := (mergeBlock_of_reads verbose block records later hblock).1
      -- What was merged before counts as one more history in front of the rest.
      have hrest := ih (before ++ [records]) _ (h.mergeBlock verbose block records hblock)
      rw [List.append_assoc, List.singleton_append] at hrest
      rcases Run.andThen_outcome _ (Run.forEach (mergeBlock verbose) blocks) hdone with
        ⟨hstate, hfailure⟩
      rw [Run.forEach, hstate, hfailure]
      exact hrest

/-- A run over blocks of which the first can be read and the next cannot. -/
theorem forEach_mergeBlock_stops (verbose : Bool) (ledger : Ledger)
    (before : List (Element Nat)) (block : Element Nat) (after : List (Element Nat))
    (contents : List (List Record)) (error : SyntaxError)
    (hreads : List.Forall₂ Reads before contents)
    (herror : readRecords block.text = .error error) :
    let run := Run.forEach (mergeBlock verbose) (before ++ block :: after) ledger
    run.failure = some (.bibtex error) ∧ ledger.OverwrittenBy contents run.state := by
  rcases forEach_mergeBlock verbose ledger before contents hreads [] ledger
    ledger.overwrittenBy_nil with ⟨hdone, hledger⟩
  set read := Run.forEach (mergeBlock verbose) before ledger
  intro run
  -- The blocks behind the bad one are never reached.
  have hstops : Run.forEach (mergeBlock verbose) (block :: after) read.state =
      .failed read.state (.bibtex error) := by
    rw [Run.forEach, mergeBlock_of_error verbose block error read.state herror]
    exact Run.andThen_of_failure _ _ _ rfl
  rcases Run.andThen_outcome read (Run.forEach (mergeBlock verbose) (block :: after)) hdone with
    ⟨hstate, hfailure⟩
  rw [hstops] at hstate hfailure
  rw [show run = read.andThen _ from Run.forEach_append (mergeBlock verbose) before _ ledger,
    hstate, hfailure]
  exact ⟨rfl, hledger⟩

/-- All blocks can be read, or there is a first that cannot. -/
theorem reads_or_stops (blocks : List (Element Nat)) :
    (∃ contents, List.Forall₂ Reads blocks contents) ∨
      ∃ before block after contents error, blocks = before ++ block :: after ∧
        List.Forall₂ Reads before contents ∧ readRecords block.text = .error error := by
  induction blocks with
  | nil => exact Or.inl ⟨[], .nil⟩
  | cons block blocks ih =>
      rcases hread : readRecords block.text with error | records
      · exact Or.inr ⟨[], block, blocks, [], error, rfl, .nil, hread⟩
      · rcases ih with ⟨contents, hreads⟩ | ⟨before, stop, after, contents, error, rfl, hreads, herror⟩
        · exact Or.inl ⟨records :: contents, .cons hread hreads⟩
        · exact Or.inr ⟨block :: before, stop, after, records :: contents, error, rfl,
            .cons hread hreads, herror⟩

/-- What the stage leaves in a ledger, for any selector of its blocks. The stage is given
    the document to read only, so there is nothing of it to be left. -/
theorem extractBibliography_merges (config : Config) (verbose : Bool) (document : Document)
    (ledger : Ledger) :
    let run := (extractBibliography config).run verbose document ledger
    run.state.cited = ledger.cited ∧
    -- The selector cannot be read.
    (∀ error, document.select config.bibliographyScript = .error error →
      run.state = ledger ∧
        run.failure = some (.document (.invalidSelector config.bibliographyScript))) ∧
    ∀ blocks, document.select config.bibliographyScript = .ok blocks →
      -- Every block can be read, or there is a first that cannot.
      ((∃ contents, List.Forall₂ Reads blocks contents) ∨
        ∃ before block after contents error, blocks = before ++ block :: after ∧
          List.Forall₂ Reads before contents ∧ readRecords block.text = .error error) ∧
      -- Every block can be read.
      (∀ contents, List.Forall₂ Reads blocks contents →
        run.failure = none ∧ ∀ key, run.state.entry key =
          ((lastRecord? key contents).map Record.entry).or (ledger.entry key)) ∧
      -- There is a first that cannot.
      (∀ before block after contents error, blocks = before ++ block :: after →
        List.Forall₂ Reads before contents → readRecords block.text = .error error →
          run.failure = some (.bibtex error) ∧ StopsAt [] 1 block.text.toList error ∧
          ∀ key, run.state.entry key =
            ((lastRecord? key contents).map Record.entry).or (ledger.entry key)) := by
  intro run
  rcases hselect : document.select config.bibliographyScript with error | blocks
  · have hrun : run = .failed ledger (.document error) := by
      show (extractBibliography config).run verbose document ledger = _
      rw [extractBibliography]
      dsimp only
      rw [hselect]
    rw [hrun, select_error document _ error hselect]
    exact ⟨rfl, fun _ _ => ⟨rfl, rfl⟩, fun blocks h => absurd h (by simp)⟩
  · have hrun : run = Run.forEach (mergeBlock verbose) blocks ledger := by
      show (extractBibliography config).run verbose document ledger = _
      rw [extractBibliography]
      dsimp only
      rw [hselect]
    have hall (contents) (hreads : List.Forall₂ Reads blocks contents) :
        run.failure = none ∧ ledger.OverwrittenBy contents run.state := by
      rw [hrun]
      exact forEach_mergeBlock verbose ledger blocks contents hreads [] ledger
        ledger.overwrittenBy_nil
    have hfirst (before block after contents error) (hblocks : blocks = before ++ block :: after)
        (hreads : List.Forall₂ Reads before contents)
        (herror : readRecords block.text = .error error) :
        run.failure = some (.bibtex error) ∧ ledger.OverwrittenBy contents run.state := by
      rw [hrun, hblocks]
      exact forEach_mergeBlock_stops verbose ledger before block after contents error hreads herror
    -- The cited keys are kept in both cases, and one of them holds.
    have hcases := reads_or_stops blocks
    refine ⟨?_, fun error h => absurd h (by simp), ?_⟩
    · rcases hcases with ⟨contents, hreads⟩ |
        ⟨before, block, after, contents, error, hblocks, hreads, herror⟩
      · exact (hall contents hreads).2.cited
      · exact (hfirst before block after contents error hblocks hreads herror).2.cited
    · intro found hfound
      obtain rfl := Except.ok.inj hfound
      refine ⟨hcases, fun contents hreads => ?_, fun before block after contents error hblocks
        hreads herror => ?_⟩
      · exact ⟨(hall contents hreads).1, (hall contents hreads).2.entry⟩
      · rcases hfirst before block after contents error hblocks hreads herror with
          ⟨hfailure, hledger⟩
        exact ⟨hfailure, (readRecords_eq_error_iff block.text error).mp herror, hledger.entry⟩

end CiteRender
