import CiteRender.Proofs.Bibtex.Bytes
import CiteRender.Proofs.Bibtex.Progress

/-!
# The Passes of the Reader

The readers that repeat, as the loops they are: over the pieces of a value, the fields of
a record, the characters of a quoted text and the blocks of a text. A reader by recursion
is a function, so that it ends is not something it could fail to do. A loop could, and
that it does not is said of it here, with the number of passes that it makes at most.

Each of the loops is shown to yield what the reader by recursion gives, and the number of
its passes is counted by the mark that lets it go on. A value goes on at a `#`, the
fields at a comma and the blocks at an `@`. So the bound holds for a text that breaks off
in the middle just as for one that can be read: nothing is assumed of it.

The loop over the blocks knows the line of a block from where it stands in the whole
text, while the reader by recursion carries it along. Both count the ends of lines before
the `@`.

## Main definitions

* `valueLoop`, `fieldLoop`, `quoteLoop`, `blockLoop`: The loops.
* `lineOf`: The line on which a text begins, by what is left of the whole.
* `fromBlock`: A text from its next block on.
* `readBehind`: What is read behind something that has been read.

## Theorems

* `valueLoop_yields`, `fieldLoop_yields`, `quoteLoop_yields`, `blockLoop_yields`: What the
  loops yield.
* `HasBlocks.length_records_le`: How many records there are at most.
* `reader_passes`: Every reader makes progress, and every loop ends.
-/

namespace CiteRender

namespace Bibtex

/-- The loop over the pieces of a value: what the pieces so far are joined to, and the text
    that is left. -/
def valueLoop (abbreviations : Abbreviations) :
    Loop (List Char × List Char) (Reading (List Char)) where
  exit _ := none
  pass state :=
    match piece abbreviations (skipGap state.2) with
    | .error fault => .leave (.error fault)
    | .ok (part, rest) =>
      match skipGap rest with
      | '#' :: next => .again (state.1 ++ part, next)
      | after => .leave (.ok (state.1 ++ part, after))

/-- The loop over the fields of a record: the fields so far, and the text that is left. -/
def fieldLoop (abbreviations : Abbreviations) :
    Loop (List (List Char × List Char) × List Char) (Reading (List (List Char × List Char))) where
  exit _ := none
  pass state :=
    match skipGap state.2 with
    | ',' :: rest =>
      match skipGap rest with
      | '}' :: tail => .leave (.ok (state.1, '}' :: tail))
      | start =>
        match field abbreviations start with
        | .error fault => .leave (.error fault)
        | .ok (pair, next) => .again (state.1 ++ [pair], next)
    | after => .leave (.ok (state.1, after))

/-- Where the loop over the characters of a quoted text stands: how many braces are open,
    what it has passed over, and the text that is left. -/
structure Quoting where
  depth : Nat
  passed : List Char
  left : List Char

/-- The loop over the characters of a quoted text. -/
def quoteLoop : Loop Quoting (Option (List Char × List Char)) where
  exit state := if state.left = [] then some none else none
  pass state :=
    match state.left with
    | [] => .leave none
    | c :: rest =>
      if c = '"' ∧ state.depth = 0 then .leave (some (state.passed, rest))
      else
        let depth :=
          if c = '{' then state.depth + 1 else if c = '}' then state.depth - 1 else state.depth
        .again ⟨depth, state.passed ++ [c], rest⟩

/-- Where the loop over the blocks of a text stands. -/
structure Blocks where
  records : List Record
  abbreviations : Abbreviations
  left : List Char

/-- The line of a text on which a text begins that it ends with. -/
def lineOf (text left : List Char) : Nat :=
  (text.take (text.length - left.length)).count '\n' + 1

/-- The text from its first `@` on. -/
def fromBlock (s : List Char) : List Char :=
  s.dropWhile fun c => c != '@'

/-- The loop over the blocks of a text. It goes on while there is an `@`. -/
def blockLoop (text : List Char) : Loop Blocks (Except SyntaxError (List Record)) where
  exit state := if '@' ∈ state.left then none else some (.ok state.records)
  pass state :=
    let start := fromBlock state.left
    match block state.abbreviations start with
    | .error fault => .leave (.error ⟨lineOf text start, fault⟩)
    | .ok (b, rest) =>
      .again ⟨state.records ++ b.records, b.define state.abbreviations, rest⟩

/-- What is read behind something that has been read. -/
def readBehind {α : Type} (done : List α) (reading : Reading (List α)) : Reading (List α) :=
  reading.map fun r => (done ++ r.1, r.2)

theorem readBehind_nil {α : Type} (reading : Reading (List α)) :
    readBehind [] reading = reading := by
  cases reading <;> rfl

theorem readBehind_readBehind {α : Type} (done more : List α) (reading : Reading (List α)) :
    readBehind done (readBehind more reading) = readBehind (done ++ more) reading := by
  cases reading with
  | error fault => rfl
  | ok r => simp [readBehind, Except.map]

/-- The loop over the pieces reads the value. It goes on as often as there is a `#`. -/
theorem valueLoop_yields (abbreviations : Abbreviations) :
    (valueLoop abbreviations).Yields
      (fun state => readBehind state.1 (value abbreviations state.2)) (fun _ => True)
      (fun state => state.2.count '#' + 1) where
  pos := fun _ _ _ => Nat.succ_pos _
  exits := fun _ _ _ h => absurd h nofun
  keeps := by
    rintro ⟨done, s⟩ - -
    simp only [valueLoop]
    split
    case h_1 fault hp =>
      show readBehind done (value abbreviations s) = _
      rw [value_fault abbreviations s fault hp]
      rfl
    case h_2 part rest hp =>
      split
      case h_1 next hr =>
        -- Only a pass that comes to a `#` goes on, and it leaves the `#` behind.
        refine ⟨trivial, ?_, ?_⟩
        · show readBehind done (value abbreviations s) = _
          rw [value_next abbreviations s part rest next hp hr]
          exact readBehind_readBehind done part _
        · have hs : '#' :: next <:+ s := ((hr ▸ skipGap_suffix rest).trans
            (isBehind_of_piece abbreviations part hp).suffix).trans (skipGap_suffix s)
          exact Nat.succ_lt_succ (count_lt_of_suffix '#' s next next hs (List.suffix_refl _))
      case h_2 hno =>
        show readBehind done (value abbreviations s) = _
        rw [value_last abbreviations s part rest hp hno]
        rfl

/-- The loop over the fields reads the fields. It goes on as often as there is a comma. -/
theorem fieldLoop_yields (abbreviations : Abbreviations) :
    (fieldLoop abbreviations).Yields
      (fun state => readBehind state.1 (fields abbreviations state.2)) (fun _ => True)
      (fun state => state.2.count ',' + 1) where
  pos := fun _ _ _ => Nat.succ_pos _
  exits := fun _ _ _ h => absurd h nofun
  keeps := by
    rintro ⟨done, s⟩ - -
    simp only [fieldLoop]
    split
    case h_1 rest hs =>
      split
      case h_1 tail hr =>
        -- The comma is one before the closing brace, and the loop is left.
        show readBehind done (fields abbreviations s) = _
        rw [fields_comma abbreviations s rest tail hs hr]
        simp [readBehind, Except.map]
      case h_2 hno =>
        split
        case h_1 fault hf =>
          show readBehind done (fields abbreviations s) = _
          rw [fields_fault abbreviations s rest fault hs hno hf]
          rfl
        case h_2 pair next hf =>
          refine ⟨trivial, ?_, ?_⟩
          · show readBehind done (fields abbreviations s) = _
            rw [fields_next abbreviations s rest next pair hs hno hf]
            exact readBehind_readBehind done [pair] _
          · have hrest : next <:+ rest :=
              (isBehind_of_field abbreviations pair hf).suffix.trans (skipGap_suffix rest)
            exact Nat.succ_lt_succ
              (count_lt_of_suffix ',' s rest next (hs ▸ skipGap_suffix s) hrest)
    case h_2 hno =>
      show readBehind done (fields abbreviations s) = _
      rw [fields_none abbreviations s hno]
      simp [readBehind, Except.map]

/-- The loop over the characters of a quoted text finds its end. -/
theorem quoteLoop_yields :
    quoteLoop.Yields
      (fun state => (quotedTail state.depth state.left).map fun r => (state.passed ++ r.1, r.2))
      (fun _ => True) (fun state => state.left.length) where
  pos := by
    rintro ⟨depth, passed, s⟩ - hexit
    rcases s with _ | ⟨c, rest⟩
    · exact absurd hexit nofun
    · exact Nat.succ_pos _
  exits := by
    rintro ⟨depth, passed, s⟩ result - hexit
    rcases s with _ | ⟨c, rest⟩
    · exact Option.some.inj hexit
    · exact absurd hexit nofun
  keeps := by
    rintro ⟨depth, passed, s⟩ - hexit
    rcases s with _ | ⟨c, rest⟩
    · exact absurd hexit nofun
    · simp only [quoteLoop]
      split
      case isTrue hend =>
        show (quotedTail depth (c :: rest)).map _ = _
        rw [quotedTail, if_pos hend]
        simp
      case isFalse hgo =>
        refine ⟨trivial, ?_, Nat.lt_succ_self _⟩
        -- The loop keeps what it has passed, the recursion puts it in front on its way back.
        show (quotedTail depth (c :: rest)).map _ = _
        rw [quotedTail, if_neg hgo, Option.map_map]
        congr 1
        funext r
        simp

theorem fromBlock_append (free tail : List Char) (hfree : '@' ∉ free) :
    fromBlock (free ++ '@' :: tail) = '@' :: tail := by
  have hpos : ∀ c ∈ free, (c != '@') = true := by
    intro c hc
    rw [bne_iff_ne]
    rintro rfl
    exact hfree hc
  rw [fromBlock, List.dropWhile_append_of_pos hpos]
  rfl

theorem lineOf_append (before left : List Char) :
    lineOf (before ++ left) left = before.count '\n' + 1 := by
  rw [lineOf, List.length_append, Nat.add_sub_cancel, List.take_left]

/-- The line behind a part of the text that has been passed over. -/
theorem lineOf_behind (text passed left : List Char) (hs : passed ++ left <:+ text) :
    lineOf text left = lineOf text (passed ++ left) + passed.count '\n' := by
  rcases hs with ⟨before, rfl⟩
  rw [lineOf_append, ← List.append_assoc, lineOf_append, List.count_append, Nat.add_right_comm]

theorem blockLoop_exit (text : List Char) (state : Blocks) :
    (blockLoop text).exit state = none ↔ '@' ∈ state.left := by
  simp [blockLoop]

/-- The loop over the blocks reads the records. It goes on as often as there is an `@`. -/
theorem blockLoop_yields (text : List Char) :
    (blockLoop text).Yields
      (fun state => (readBlocks state.abbreviations (lineOf text state.left) state.left).map
        fun contents => state.records ++ contents.records)
      (fun state => state.left <:+ text) (fun state => state.left.count '@') where
  pos := fun state _ hexit => List.count_pos_iff.2 ((blockLoop_exit text state).1 hexit)
  exits := by
    rintro ⟨records, abbreviations, s⟩ result - hexit
    have hfree : '@' ∉ s := by
      intro hmem
      rw [(blockLoop_exit text _).2 hmem] at hexit
      exact absurd hexit (by simp)
    have hresult : .ok records = result := by
      simpa [blockLoop, hfree] using hexit
    have hread := readBlocks_append_free abbreviations s [] hfree (lineOf text s)
    rw [List.append_nil, readBlocks] at hread
    dsimp only
    rw [hread, ← hresult]
    simp [Except.map]
  keeps := by
    rintro ⟨records, abbreviations, s⟩ hs hexit
    have hmem : '@' ∈ s := (blockLoop_exit text _).1 hexit
    rcases List.eq_append_cons_of_mem hmem with ⟨free, tail, rfl, hfree⟩
    have hstart : '@' :: tail <:+ text := (List.suffix_append free _).trans hs
    -- The reader by recursion goes to the `@` character by character, with the same line.
    have hread : readBlocks abbreviations (lineOf text (free ++ '@' :: tail))
        (free ++ '@' :: tail) =
          readBlocks abbreviations (lineOf text ('@' :: tail)) ('@' :: tail) := by
      rw [readBlocks_append_free abbreviations free _ hfree, lineOf_behind text free _ hs]
    simp only [blockLoop, fromBlock_append free tail hfree]
    rcases hb : block abbreviations ('@' :: tail) with fault | ⟨b, rest⟩
    · show Except.map _ (readBlocks abbreviations _ (free ++ '@' :: tail)) = _
      rw [hread, readBlocks_cons_fault abbreviations _ tail fault hb]
      rfl
    · have hbehind := isBehind_of_block abbreviations b hb
      refine ⟨hbehind.suffix.trans hstart, ?_, ?_⟩
      · rcases hbehind.suffix with ⟨passed, hpassed⟩
        show Except.map _ (readBlocks abbreviations _ (free ++ '@' :: tail)) = _
        rw [hread, readBlocks_cons_block abbreviations _ tail rest b hb, ← hpassed,
          List.count_append, Nat.add_sub_cancel,
          ← lineOf_behind text passed rest (hpassed ▸ hstart)]
        dsimp only
        cases readBlocks (b.define abbreviations) (lineOf text rest) rest with
        | error error => rfl
        | ok contents => simp [Except.map, Contents.behind]
      · exact count_lt_of_suffix '@' _ tail rest (List.suffix_append free _) hbehind.suffix_tail

theorem Block.length_records_le (b : Block) : b.records.length ≤ 1 := by
  cases b with
  | record record => exact Nat.le_refl 1
  | abbreviation word v => exact Nat.zero_le 1
  | skipped => exact Nat.zero_le 1

/-- A block has one record at most, and it begins at an `@`. -/
theorem HasBlocks.length_records_le {abbreviations : Abbreviations} {s : List Char}
    {blocks : List Block} (h : HasBlocks abbreviations s blocks) :
    (contentsOf abbreviations blocks).records.length ≤ s.count '@' := by
  induction h with
  | nil => exact Nat.le_refl 0
  | free abbreviations c s blocks hc _ ih =>
      rwa [List.count_cons_of_ne hc]
  | block abbreviations s rest b blocks hb _ ih =>
      have hone := b.length_records_le
      have hbehind := (isBehind_of_block abbreviations b hb).suffix_tail
      have hfewer := count_lt_of_suffix '@' _ s rest (List.suffix_refl _) hbehind
      rw [contentsOf_cons, Contents.behind, List.length_append]
      omega

/-- Every reader leaves a text that its own ends with, and all but the reader of fields a
    shorter one. So the loops that the readers are written as come to an end on every
    text, and with what the readers give. The loop over the blocks makes no more passes
    than there are `@` in the text, and no more records come of it. -/
theorem reader_passes (abbreviations : Abbreviations) (s : List Char) :
    (∀ b rest, block abbreviations s = .ok (b, rest) → IsBehind rest s) ∧
    (∀ pair rest, field abbreviations s = .ok (pair, rest) → IsBehind rest s) ∧
    (∀ v rest, value abbreviations s = .ok (v, rest) → IsBehind rest s) ∧
    (∀ inner rest, group s = .ok (inner, rest) → IsBehind rest s) ∧
    (∀ tail inner rest, s = '"' :: tail → quotedTail 0 tail = some (inner, rest) →
      IsBehind rest s) ∧
    (∀ pairs rest, fields abbreviations s = .ok (pairs, rest) → rest <:+ s) ∧
    (valueLoop abbreviations).runFor (s.count '#' + 1) ([], s) =
      some (value abbreviations s) ∧
    (fieldLoop abbreviations).runFor (s.count ',' + 1) ([], s) =
      some (fields abbreviations s) ∧
    (∃ reading, groupByBytes (String.ofList s) = some (.ok reading)) ∧
    quoteLoop.runFor s.length ⟨0, [], s⟩ = some (quotedTail 0 s) ∧
    (blockLoop s).runFor (s.count '@') ⟨[], [], s⟩ = some (readRecords (String.ofList s)) ∧
    ∀ records, readRecords (String.ofList s) = .ok records → records.length ≤ s.count '@' := by
  have hvalue := (valueLoop_yields abbreviations).runFor _ ([], s) trivial (Nat.le_refl _)
  have hfields := (fieldLoop_yields abbreviations).runFor _ ([], s) trivial (Nat.le_refl _)
  have hquote := quoteLoop_yields.runFor _ ⟨0, [], s⟩ trivial (Nat.le_refl _)
  have hblocks := (blockLoop_yields s).runFor _ ⟨[], [], s⟩ (List.suffix_refl s) (Nat.le_refl _)
  refine ⟨fun b rest => isBehind_of_block abbreviations b,
    fun pair rest => isBehind_of_field abbreviations pair,
    fun v rest => isBehind_of_value abbreviations v,
    fun inner rest => isBehind_of_group inner, ?_,
    fun pairs rest => suffix_of_fields abbreviations pairs, ?_, ?_,
    ⟨_, groupByBytes_eq _⟩, ?_, ?_, fun records h => ?_⟩
  · rintro tail inner rest rfl h
    exact (isBehind_of_quotedTail 0 inner h).cons '"'
  · rw [hvalue, readBehind_nil]
  · rw [hfields, readBehind_nil]
  · rw [hquote]
    simp
  · -- The loop counts lines from the text as a whole, and nothing is before it at the start.
    have hline : lineOf s s = 1 := lineOf_append [] s
    rw [hblocks, readRecords, String.toList_ofList]
    dsimp only
    rw [hline]
    rfl
  · rw [readRecords, String.toList_ofList] at h
    rcases hread : readBlocks [] 1 s with error | contents
    · rw [hread] at h
      exact absurd h (by simp [Except.map])
    · rw [hread] at h
      rcases hasBlocks_of_readBlocks [] s 1 contents hread with ⟨blocks, hblocks, rfl⟩
      rw [← Except.ok.inj h]
      exact hblocks.length_records_le

/-- A text that breaks off in its fourth block. The `@` in the comment makes no pass. -/
theorem reader_passes_truncated :
    let first := "@string\x7bb=\x7b1\x7d\x7d".toList
    let others := "@comment\x7b@\x7d\n@x\x7bk,t=b#2,\x7d@x\x7bk".toList
    block [] (first ++ others) = .ok (.abbreviation ['b'] ['1'], others) ∧
      IsBehind others (first ++ others) ∧ (first ++ others).count '@' = 5 ∧
      (blockLoop (first ++ others)).runFor 5 ⟨[], [], first ++ others⟩ =
        some (.error ⟨2, ⟨.symbol, []⟩⟩) := by
  intro first others
  have hfirst : block [] (first ++ others) = .ok (.abbreviation ['b'] ['1'], others) := by
    decide +kernel
  have hread : readRecords (String.ofList (first ++ others)) = .error ⟨2, ⟨.symbol, []⟩⟩ := by
    decide +kernel
  rcases reader_passes [] (first ++ others) with
    ⟨hblock, -, -, -, -, -, -, -, -, -, hloop, -⟩
  exact ⟨hfirst, hblock _ _ hfirst, rfl, hloop.trans (congrArg some hread)⟩

end Bibtex

end CiteRender
