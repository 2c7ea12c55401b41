import CiteRender.Bibtex.Record

/-!
# Reading BibTeX

A BibTeX text is free text with blocks that begin at an `@`. A block is a
record, the definition of an abbreviation (`@string`), or one that is passed
over (`@comment`, `@preamble`). Abbreviations hold from their definition on,
and a later definition replaces an earlier one.

A value is made of pieces joined by `#`: a brace group, a quoted text, a
number, or the name of an abbreviation. In a brace group a backslash hides
the character after it from the count of braces; in a quoted text braces
hide quotes.

Every reader takes the text that is left and gives back what it read and a
shorter text, or a fault. The lemmas on lengths say so, and the readers that
repeat end by them.

## Main definitions

* `groupTail`, `quotedTail`: The two scanners that count braces.
* `piece`, `value`: A value and its pieces.
* `field`, `fields`: The fields of a record.
* `block`: One block, from its `@`.
* `readBlocks`: All blocks of a text, with the abbreviations in force.
* `readRecords`: The records of a text, in source order.
* `readBibliography`: The bibliography of a text.

## Theorems

* `groupTail_length`, `quotedTail_length`: The scanners consume text.
* `piece_length`, `value_length`, `field_length`, `block_length`: So do the
  readers built from them.
-/

namespace CiteRender

namespace Bibtex

/-- The blanks between the tokens of a block: space, tab and line ends. -/
def isGap (c : Char) : Bool :=
  c == ' ' || c == '\t' || c == '\r' || c == '\n'

/-- The characters of keys, field names and abbreviation names. -/
def isNameChar (c : Char) : Bool :=
  c.isAlphanum || c == '_' || c == '-' || c == ':' || c == '.' || c == '/' || c == '+'

/-- What a reader gives: a result and the text that is left, or a fault. -/
abbrev Reading (α : Type) := Except Fault (α × List Char)

/-- The abbreviations in force, the latest definition first. -/
abbrev Abbreviations := List (List Char × List Char)

/-- What one block says. -/
inductive Block
  | record (record : Record)
  | abbreviation (name value : List Char)
  | skipped
  deriving DecidableEq

/-- The text after the blanks at its start. -/
def skipGap (s : List Char) : List Char :=
  s.dropWhile isGap

/-- Passes over one particular character. -/
def symbol (c : Char) : List Char → Reading Unit
  | d :: rest => if d = c then .ok ((), rest) else .error ⟨.symbol, d :: rest⟩
  | [] => .error ⟨.symbol, []⟩

/-- Reads the longest run of a class, which must not be empty. -/
def run (p : Char → Bool) (s : List Char) : Reading (List Char) :=
  if (s.takeWhile p).isEmpty then .error ⟨.run, s⟩ else .ok (s.takeWhile p, s.dropWhile p)

/-- Reads a key or a name. -/
def name (s : List Char) : Reading (List Char) :=
  run isNameChar s

/-- Reads up to the brace that closes a group with `depth` inner groups
    open. A backslash hides the character after it. -/
def groupTail : Nat → List Char → Option (List Char × List Char)
  | _, [] => none
  | depth, c :: rest =>
    if c = '}' then
      match depth with
      | 0 => some ([], rest)
      | depth + 1 => (groupTail depth rest).map fun r => (c :: r.1, r.2)
    else if c = '{' then (groupTail (depth + 1) rest).map fun r => (c :: r.1, r.2)
    else if c = '\\' then
      match rest with
      | [] => none
      | d :: rest => (groupTail depth rest).map fun r => (c :: d :: r.1, r.2)
    else (groupTail depth rest).map fun r => (c :: r.1, r.2)

/-- Reads up to the quote that closes a quoted text with `depth` braces
    open. A closing brace too many changes nothing. -/
def quotedTail : Nat → List Char → Option (List Char × List Char)
  | _, [] => none
  | depth, c :: rest =>
    if c = '"' ∧ depth = 0 then some ([], rest)
    else
      -- Subtraction stops at zero, so a closing brace too many changes nothing.
      let depth := if c = '{' then depth + 1 else if c = '}' then depth - 1 else depth
      (quotedTail depth rest).map fun r => (c :: r.1, r.2)

/-- Passes over a brace group. -/
def group : List Char → Reading (List Char)
  | '{' :: rest =>
    match groupTail 0 rest with
    | some r => .ok r
    | none => .error ⟨.closing, '{' :: rest⟩
  | s => .error ⟨.symbol, s⟩

/-- What a name stands for: the value of the abbreviation of that name, in
    any letter case, or the name itself. -/
def expand (abbreviations : Abbreviations) (word : List Char) : List Char :=
  (abbreviations.lookup (Text.lower word)).getD word

/-- Reads one piece of a value. -/
def piece (abbreviations : Abbreviations) (s : List Char) : Reading (List Char) :=
  match s with
  | '{' :: rest =>
    match groupTail 0 rest with
    | some r => .ok r
    | none => .error ⟨.run, s⟩
  | '"' :: rest =>
    match quotedTail 0 rest with
    | some r => .ok r
    | none => .error ⟨.run, s⟩
  | s =>
    match run Char.isDigit s with
    | .ok r => .ok r
    | .error _ =>
      match name s with
      | .ok (word, rest) => .ok (expand abbreviations word, rest)
      | .error fault => .error fault

theorem groupTail_length {depth : Nat} {s inner rest : List Char}
    (h : groupTail depth s = some (inner, rest)) : rest.length < s.length := by
  fun_induction groupTail depth s generalizing inner rest <;>
    grind [Option.map_eq_some_iff]

theorem quotedTail_length {depth : Nat} {s inner rest : List Char}
    (h : quotedTail depth s = some (inner, rest)) : rest.length < s.length := by
  fun_induction quotedTail depth s generalizing inner rest <;>
    grind [Option.map_eq_some_iff]

theorem skipGap_length (s : List Char) : (skipGap s).length ≤ s.length :=
  (List.dropWhile_suffix isGap).length_le

theorem run_length {p : Char → Bool} {s word rest : List Char}
    (h : run p s = .ok (word, rest)) : rest.length < s.length := by
  unfold run at h
  split at h
  · simp at h
  · rename_i hne
    simp only [Except.ok.injEq, Prod.mk.injEq] at h
    have hs := congrArg List.length (List.takeWhile_append_dropWhile (p := p) (l := s))
    rw [List.length_append, h.1, h.2] at hs
    have : word ≠ [] := by
      intro hw
      simp [h.1, hw] at hne
    have := List.length_pos_iff.2 this
    omega

theorem piece_length {abbreviations : Abbreviations} {s part rest : List Char}
    (h : piece abbreviations s = .ok (part, rest)) : rest.length < s.length := by
  unfold piece at h
  split at h
  · split at h
    · simp only [Except.ok.injEq] at h
      subst h
      rename_i hg
      have := groupTail_length hg
      simp only [List.length_cons]
      omega
    · simp at h
  · split at h
    · simp only [Except.ok.injEq] at h
      subst h
      rename_i hq
      have := quotedTail_length hq
      simp only [List.length_cons]
      omega
    · simp at h
  · split at h
    · simp only [Except.ok.injEq] at h
      subst h
      rename_i hr
      exact run_length hr
    · split at h
      · simp only [Except.ok.injEq, Prod.mk.injEq] at h
        rename_i hn
        rw [← h.2]
        exact run_length hn
      · simp at h

/-- Reads a value: pieces joined by `#`, with blanks anywhere around them. -/
def value (abbreviations : Abbreviations) (s : List Char) : Reading (List Char) :=
  match hp : piece abbreviations (skipGap s) with
  | .error fault => .error fault
  | .ok (part, rest) =>
    match hr : skipGap rest with
    | '#' :: next =>
      have : next.length < s.length := by
        have h1 := skipGap_length s
        have h2 := piece_length hp
        have h3 := skipGap_length rest
        rw [hr, List.length_cons] at h3
        omega
      match value abbreviations next with
      | .error fault => .error fault
      | .ok (more, rest) => .ok (part ++ more, rest)
    | after => .ok (part, after)
termination_by s.length

/-- The normal form of a value: no braces, no outer blanks, and one space
    for each run of blanks. -/
def normalise (v : List Char) : List Char :=
  Text.collapse (Text.trim (v.filter fun c => c != '{' && c != '}'))

/-- Reads `name = value`. The name is lowered and the value normalised. -/
def field (abbreviations : Abbreviations) (s : List Char) :
    Reading (List Char × List Char) :=
  match name (skipGap s) with
  | .error fault => .error fault
  | .ok (word, rest) =>
    match symbol '=' (skipGap rest) with
    | .error fault => .error fault
    | .ok (_, rest) =>
      match value abbreviations rest with
      | .error fault => .error fault
      | .ok (v, rest) => .ok ((Text.lower word, normalise v), rest)

theorem symbol_length {c : Char} {s rest : List Char} (h : symbol c s = .ok ((), rest)) :
    rest.length < s.length := by
  unfold symbol at h
  split at h
  · split at h
    · simp only [Except.ok.injEq, Prod.mk.injEq, true_and] at h
      simp [h]
    · simp at h
  · simp at h

theorem value_length {abbreviations : Abbreviations} {s v rest : List Char}
    (h : value abbreviations s = .ok (v, rest)) : rest.length < s.length := by
  fun_induction value abbreviations s generalizing v rest with
  | case1 => simp at h
  | case2 => simp at h
  | case3 s part after hp next hr shorter more tail hv ih =>
    simp only [Except.ok.injEq, Prod.mk.injEq] at h
    have := ih hv
    rw [← h.2]
    omega
  | case4 s part after hp =>
    simp only [Except.ok.injEq, Prod.mk.injEq] at h
    have h1 := skipGap_length s
    have h2 := piece_length hp
    have h3 := skipGap_length after
    rw [← h.2]
    omega

theorem field_length {abbreviations : Abbreviations} {s rest : List Char}
    {pair : List Char × List Char} (h : field abbreviations s = .ok (pair, rest)) :
    rest.length < s.length := by
  unfold field at h
  split at h
  · simp at h
  · rename_i word after hn
    split at h
    · simp at h
    · rename_i after' hs
      split at h
      · simp at h
      · rename_i v tail hv
        simp only [Except.ok.injEq, Prod.mk.injEq] at h
        have h1 := skipGap_length s
        have h2 := run_length hn
        have h3 := skipGap_length after
        have h4 := symbol_length hs
        have h5 := value_length hv
        rw [← h.2]
        omega

/-- Reads the fields of a record, each after a comma. A comma may also stand
    before the closing brace. -/
def fields (abbreviations : Abbreviations) (s : List Char) :
    Reading (List (List Char × List Char)) :=
  match hs : skipGap s with
  | ',' :: rest =>
    match hr : skipGap rest with
    | '}' :: tail => .ok ([], '}' :: tail)
    | start =>
      match hf : field abbreviations start with
      | .error fault => .error fault
      | .ok (pair, next) =>
        have : next.length < s.length := by
          have h1 := skipGap_length s
          have h2 := skipGap_length rest
          have h3 := field_length hf
          rw [hs, List.length_cons] at h1
          rw [hr] at h2
          omega
        match fields abbreviations next with
        | .error fault => .error fault
        | .ok (pairs, after) => .ok (pair :: pairs, after)
  | after => .ok ([], after)
termination_by s.length

theorem fields_length {abbreviations : Abbreviations} {s rest : List Char}
    {pairs : List (List Char × List Char)} (h : fields abbreviations s = .ok (pairs, rest)) :
    rest.length ≤ s.length := by
  fun_induction fields abbreviations s generalizing pairs rest with
  | case1 s after hs tail hr =>
    simp only [Except.ok.injEq, Prod.mk.injEq] at h
    have h1 := skipGap_length s
    have h2 := skipGap_length after
    rw [hs, List.length_cons] at h1
    rw [← h.2, ← hr]
    omega
  | case2 => simp at h
  | case3 => simp at h
  | case4 s rest hs pair next pairs after hp _ _ shorter ih =>
    simp only [Except.ok.injEq, Prod.mk.injEq] at h
    have := ih hp
    rw [← h.2]
    omega
  | case5 s =>
    simp only [Except.ok.injEq, Prod.mk.injEq] at h
    rw [← h.2]
    exact skipGap_length s

/-- A field or an abbreviation as a pair of texts. -/
def pairOfChars (pair : List Char × List Char) : String × String :=
  (String.ofList pair.1, String.ofList pair.2)

/-- Reads `{ name = value }`, the body of an `@string` block. -/
def abbreviationBody (abbreviations : Abbreviations) (s : List Char) :
    Except Fault (Block × List Char) := do
  let (_, rest) ← symbol '{' s
  let ((word, v), rest) ← field abbreviations rest
  let (_, rest) ← symbol '}' (skipGap rest)
  return (.abbreviation word v, rest)

/-- Reads `{ key, name = value, ... }`, the body of a record. -/
def recordBody (abbreviations : Abbreviations) (kind s : List Char) :
    Except Fault (Block × List Char) := do
  let (_, rest) ← symbol '{' s
  let (key, rest) ← name (skipGap rest)
  let (pairs, rest) ← fields abbreviations (skipGap rest)
  let (_, rest) ← symbol '}' (skipGap rest)
  return (.record ⟨String.ofList kind, String.ofList key, pairs.map pairOfChars⟩, rest)

/-- Reads one block from its `@`. Its type decides how, in any letter case. -/
def block (abbreviations : Abbreviations) (s : List Char) :
    Except Fault (Block × List Char) := do
  let (_, rest) ← symbol '@' s
  let (word, rest) ← run Char.isAlphanum (skipGap rest)
  let kind := Text.lower word
  if kind = "comment".toList ∨ kind = "preamble".toList then
    let (_, rest) ← group (skipGap rest)
    return (.skipped, rest)
  else if kind = "string".toList then abbreviationBody abbreviations (skipGap rest)
  else recordBody abbreviations kind (skipGap rest)

theorem group_length {s inner rest : List Char} (h : group s = .ok (inner, rest)) :
    rest.length < s.length := by
  unfold group at h
  split at h
  · split at h
    · simp only [Except.ok.injEq] at h
      subst h
      rename_i hg
      have := groupTail_length hg
      simp only [List.length_cons]
      omega
    · simp at h
  · simp at h

theorem abbreviationBody_length {abbreviations : Abbreviations} {s rest : List Char}
    {b : Block} (h : abbreviationBody abbreviations s = .ok (b, rest)) :
    rest.length < s.length := by
  simp only [abbreviationBody, bind, Except.bind, pure, Except.pure] at h
  split at h
  · simp at h
  · rename_i r1 h1
    split at h
    · simp at h
    · rename_i r2 h2
      split at h
      · simp at h
      · rename_i r3 h3
        simp only [Except.ok.injEq, Prod.mk.injEq] at h
        have l1 := symbol_length h1
        have l2 := field_length h2
        have l3 := symbol_length h3
        have l4 := skipGap_length r2.2
        rw [← h.2]
        omega

theorem recordBody_length {abbreviations : Abbreviations} {kind s rest : List Char}
    {b : Block} (h : recordBody abbreviations kind s = .ok (b, rest)) :
    rest.length < s.length := by
  simp only [recordBody, bind, Except.bind, pure, Except.pure] at h
  split at h
  · simp at h
  · rename_i r1 h1
    split at h
    · simp at h
    · rename_i r2 h2
      split at h
      · simp at h
      · rename_i r3 h3
        split at h
        · simp at h
        · rename_i r4 h4
          simp only [Except.ok.injEq, Prod.mk.injEq] at h
          have l1 := symbol_length h1
          have l2 := run_length h2
          have l3 := fields_length h3
          have l4 := symbol_length h4
          have l5 := skipGap_length r1.2
          have l6 := skipGap_length r2.2
          have l7 := skipGap_length r3.2
          rw [← h.2]
          omega

theorem block_length {abbreviations : Abbreviations} {s rest : List Char} {b : Block}
    (h : block abbreviations s = .ok (b, rest)) : rest.length < s.length := by
  simp only [block, bind, Except.bind, pure, Except.pure] at h
  split at h
  · simp at h
  · rename_i r1 h1
    have l1 := symbol_length h1
    split at h
    · simp at h
    · rename_i r2 h2
      have l2 := run_length h2
      have l3 := skipGap_length r1.2
      have l4 := skipGap_length r2.2
      split at h
      · split at h
        · simp at h
        · rename_i r3 h3
          simp only [Except.ok.injEq, Prod.mk.injEq] at h
          have l5 := group_length h3
          rw [← h.2]
          omega
      · split at h
        · have := abbreviationBody_length h
          omega
        · have := recordBody_length h
          omega

/-- What a text says: its records in source order, and the abbreviations in
    force at its end. -/
structure Contents where
  records : List Record
  abbreviations : Abbreviations
  deriving DecidableEq

/-- Reads every block of the text `s`, whose first line has number `line`,
    with some abbreviations in force. -/
def readBlocks (abbreviations : Abbreviations) (line : Nat) (s : List Char) :
    Except SyntaxError Contents :=
  match s with
  | [] => .ok ⟨[], abbreviations⟩
  | c :: cs =>
    if c = '@' then
      match hb : block abbreviations (c :: cs) with
      | .error fault => .error ⟨line, fault⟩
      | .ok (b, rest) =>
        have := block_length hb
        let passed := (c :: cs).count '\n' - rest.count '\n'
        match b with
        | .skipped => readBlocks abbreviations (line + passed) rest
        | .abbreviation word v => readBlocks ((word, v) :: abbreviations) (line + passed) rest
        | .record record =>
          (readBlocks abbreviations (line + passed) rest).map fun contents =>
            { contents with records := record :: contents.records }
    else readBlocks abbreviations (if c = '\n' then line + 1 else line) cs
termination_by s.length
decreasing_by
  · exact this
  · exact this
  · exact this
  · exact Nat.lt_succ_self _

/-- The records of a BibTeX text, in source order. -/
def readRecords (text : String) : Except SyntaxError (List Record) :=
  (readBlocks [] 1 text.toList).map Contents.records

/-- The bibliography of a BibTeX text; the last record of a key wins. -/
def readBibliography (text : String) : Except SyntaxError Bibliography :=
  (readRecords text).map bibliographyOf

end Bibtex

end CiteRender
