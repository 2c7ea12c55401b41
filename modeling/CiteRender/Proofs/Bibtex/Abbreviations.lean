import CiteRender.Proofs.Bibtex.Concatenation
import CiteRender.Proofs.Bibtex.Splicing

/-!
# Abbreviations in Texts

What becomes of a text when the references to an abbreviation are spelled out in
the records behind its definition. Both texts are read to the same end or fail at
the same fault, and their records differ in nothing but values with gaps that
what is kept of the definition does not fit in.

A definition is in force from its block on, so the texts are compared block by
block along with what abbreviations stand for. The comparison may go on past
other definitions while they leave alone the name and those that its expression
mentions; past the first that does not, the texts must be the same.

An expression may mention the very name it defines, and then means one thing in
the definition and another behind it. So the value of the expression is taken
twice below, and the two are the same if the name is not mentioned.

## Main definitions

* `IsDefinition`: A block that defines an abbreviation by an expression.
* `SpellsOut`: Texts with some references spelled out in their records.
* `SameIff`: Readings that differ in their records at most.

## Theorems

* `SpellsOut.readBlocks`: Reading both texts.
* `sameForReferences_update_digit`: A name that begins with a digit refers to nothing.
* `readRecords_spellOut`: The records behind a definition.
-/

namespace CiteRender

namespace Bibtex

/-- A block that defines a name by an expression of some value. -/
inductive IsDefinition (m : Meanings) : List Char → List Char → List Char → List Char → Prop
  | mk (a kind b c name d expression v e : List Char) (ha : IsGap a)
      (hw : IsRun Char.isAlphanum kind) (hkind : Text.lower kind = "string".toList) (hb : IsGap b)
      (hc : IsGap c) (hname : IsRun isNameChar name) (hd : IsGap d)
      (hv : IsValue m expression v) (he : IsGap e) :
      IsDefinition m
        ('@' :: a ++ kind ++ b ++ '{' :: (c ++ name ++ d ++ '=' :: expression) ++ e ++ ['}'])
        name expression v

theorem IsDefinition.isBlock {m : Meanings} {t name expression v : List Char}
    (h : IsDefinition m t name expression v) :
    IsBlock m t (.abbreviation (Text.lower name) (plainText v)) := by
  cases h with
  | mk a kind b c _ d _ _ e ha hw hkind hb hc hname hd hv he =>
      exact IsBlock.abbreviation a kind b _ e _ ha hw hkind hb
        (IsField.mk c name d expression v hc hname hd hv) he

theorem IsDefinition.isValue {m : Meanings} {t name expression v : List Char}
    (h : IsDefinition m t name expression v) : IsValue m expression v := by
  cases h with
  | mk => assumption

/-- What abbreviations stand for behind a block. -/
def Block.meanings (m : Meanings) : Block → Meanings
  | .abbreviation name v => Function.update m name (some v)
  | _ => m

theorem meanings_define (abbreviations : Abbreviations) (b : Block) :
    meanings (b.define abbreviations) = b.meanings (meanings abbreviations) := by
  cases b with
  | abbreviation name v => exact meanings_cons name v abbreviations
  | record r => rfl
  | skipped => rfl

/-- A block leaves alone a name and those that its expression mentions. -/
def Block.Keeps (word expression : List Char) (b : Block) : Prop :=
  ∀ name v, b = .abbreviation name v → name ≠ word ∧ ¬ Mentions name expression

theorem Block.Keeps.meanings {word expression : List Char} {b : Block} {m : Meanings}
    {u v : List Char} (h : b.Keeps word expression) (hm : m word = some u)
    (hv : IsValue m expression v) :
    b.meanings m word = some u ∧ IsValue (b.meanings m) expression v := by
  cases b with
  | record r => exact ⟨hm, hv⟩
  | skipped => exact ⟨hm, hv⟩
  | abbreviation name w =>
      rcases h name w rfl with ⟨hname, hmention⟩
      exact ⟨(Function.update_of_ne hname.symm _ _).trans hm,
        hv.update_of_not_mentions name (some w) hmention⟩

/-- A text, and the same text with some references to an abbreviation spelled out in
    its records, up to a place from which both are the same. -/
inductive SpellsOut (word expression : List Char) :
    Meanings → List Char → List Char → List Parts → Prop
  | same (m : Meanings) (s : List Char) : SpellsOut word expression m s s []
  | free (m : Meanings) (c : Char) (s s' : List Char) (values : List Parts) (hc : c ≠ '@')
      (hs : SpellsOut word expression m s s' values) :
      SpellsOut word expression m (c :: s) (c :: s') values
  | block (m : Meanings) (t s s' : List Char) (b : Block) (values : List Parts)
      (hb : IsBlock m t b) (hkeeps : b.Keeps word expression)
      (hs : SpellsOut word expression (b.meanings m) s s' values) :
      SpellsOut word expression m (t ++ s) (t ++ s') values
  | record (m : Meanings) (t t' kind key s s' : List Char) (shapes : List (List Char × Parts))
      (values : List Parts) (hr : SpellsOutRecord m word expression t t' kind key shapes)
      (hs : SpellsOut word expression m s s' values) :
      SpellsOut word expression m (t ++ s) (t' ++ s') (shapes.map Prod.snd ++ values)

/-- Two readings that fail at the same fault, or succeed with the same records exactly
    under some condition. -/
def SameIff (p : Prop) :
    Except SyntaxError (List Record) → Except SyntaxError (List Record) → Prop
  | .ok records, .ok records' => records = records' ↔ p
  | .error error, .error error' => error.fault = error'.fault
  | _, _ => False

/-- Readings of one text from different lines. -/
theorem sameIff_readBlocks (abbreviations : Abbreviations) (s : List Char) (line line' : Nat) :
    SameIff True ((readBlocks abbreviations line s).map Contents.records)
      ((readBlocks abbreviations line' s).map Contents.records) := by
  have hline := readBlocks_below line abbreviations s 0
  have hline' := readBlocks_below line' abbreviations s 0
  rw [Nat.zero_add] at hline hline'
  rw [hline, hline']
  cases readBlocks abbreviations 0 s with
  | ok contents => exact iff_true_intro rfl
  | error error => exact rfl

/-- As many records before the records of both readings. -/
theorem SameIff.behind {p : Prop} {result result' : Except SyntaxError Contents}
    (h : SameIff p (result.map Contents.records) (result'.map Contents.records))
    (records records' : List Record) (hlength : records.length = records'.length) :
    SameIff (records = records' ∧ p)
      ((result.map (Contents.behind records)).map Contents.records)
      ((result'.map (Contents.behind records')).map Contents.records) := by
  rcases result with error | contents <;> rcases result' with error' | contents'
  · exact h
  · exact h
  · exact h
  · show records ++ contents.records = records' ++ contents'.records ↔ _
    rw [← show contents.records = contents'.records ↔ p from h]
    exact ⟨fun heq => List.append_inj heq hlength, fun heq => heq.1 ▸ heq.2 ▸ rfl⟩

theorem SameIff.congr {p q : Prop} {result result' : Except SyntaxError (List Record)}
    (h : SameIff p result result') (hpq : p ↔ q) : SameIff q result result' :=
  propext hpq ▸ h

/-- A block in front of a text, on whatever line. -/
theorem readBlocks_isBlock (abbreviations : Abbreviations) (line : Nat) (t s : List Char)
    (b : Block) (hb : IsBlock (meanings abbreviations) t b) :
    ∃ line', readBlocks abbreviations line (t ++ s) =
      (readBlocks (b.define abbreviations) line' s).map (Contents.behind b.records) := by
  rcases hb.exists_cons with ⟨tail, rfl⟩
  exact ⟨_, readBlocks_cons_block abbreviations line (tail ++ s) s b
    (block_complete abbreviations _ s b hb)⟩

/-- The readings of a text and of the same text with references spelled out. Their
    records are the same exactly if the values are the same with the meaning of the
    abbreviation in their gaps and with the value of its expression. -/
theorem SpellsOut.readBlocks {word expression u v : List Char} {m : Meanings} {s s' : List Char}
    {values : List Parts} (h : SpellsOut word expression m s s' values) :
    ∀ (abbreviations : Abbreviations) (line line' : Nat), Bibtex.meanings abbreviations = m →
      m word = some u → IsValue m expression v →
      SameIff (∀ parts ∈ values,
          plainText (Text.between u parts) = plainText (Text.between v parts))
        ((Bibtex.readBlocks abbreviations line s).map Contents.records)
        ((Bibtex.readBlocks abbreviations line' s').map Contents.records) := by
  induction h with
  | same m s =>
      intro abbreviations line line' _ _ _
      exact (sameIff_readBlocks abbreviations s line line').congr (by simp)
  | free m c s s' values hc _ ih =>
      intro abbreviations line line' hm hword hv
      rw [readBlocks_cons_free abbreviations line c s hc,
        readBlocks_cons_free abbreviations line' c s' hc]
      exact ih abbreviations _ _ hm hword hv
  | block m t s s' b values hb hkeeps _ ih =>
      rintro abbreviations line line' rfl hword hv
      rcases readBlocks_isBlock abbreviations line t s b hb with ⟨next, hread⟩
      rcases readBlocks_isBlock abbreviations line' t s' b hb with ⟨next', hread'⟩
      -- Both texts have the block, and what it defines is nothing that is spelled out.
      rcases hkeeps.meanings hword hv with ⟨hword, hv⟩
      rw [hread, hread']
      exact ((ih _ next next' (meanings_define abbreviations b) hword hv).behind b.records b.records
        rfl).congr (by simp)
  | record m t t' kind key s s' shapes values hr _ ih =>
      rintro abbreviations line line' rfl hword hv
      -- One record each, so what comes behind is compared on its own.
      rcases hr.isBlock hword hv with ⟨hb, hb'⟩
      rcases readBlocks_isBlock abbreviations line t s _ hb with ⟨next, hread⟩
      rcases readBlocks_isBlock abbreviations line' t' s' _ hb' with ⟨next', hread'⟩
      rw [hread, hread']
      refine ((ih abbreviations next next' rfl hword hv).behind [recordWith u kind key shapes]
        [recordWith v kind key shapes] rfl).congr ?_
      rw [List.singleton_inj, recordWith_eq_iff, List.forall_mem_append, List.forall_mem_map]

/-- Meanings that are the same for all names that can be referred to, which are those
    that do not begin with a digit. -/
def SameForReferences (m m' : Meanings) : Prop :=
  ∀ word : List Char, (∀ c ∈ word.head?, c.isDigit = false) → m word = m' word

theorem SameForReferences.update {m m' : Meanings} (h : SameForReferences m m')
    (name : List Char) (u : Option (List Char)) :
    SameForReferences (Function.update m name u) (Function.update m' name u) := by
  intro word hword
  by_cases hname : word = name
  · rw [hname, Function.update_self, Function.update_self]
  · rw [Function.update_of_ne hname, Function.update_of_ne hname, h word hword]

theorem sameForReferences_update_digit (m : Meanings) (name : List Char)
    (u : Option (List Char)) (hname : ∃ c ∈ name.head?, c.isDigit = true) :
    SameForReferences (Function.update m name u) m := by
  intro word hword
  have hother : word ≠ name := by
    rintro rfl
    rcases hname with ⟨c, hc, hdigit⟩
    exact absurd (hword c hc) (by simp [hdigit])
  rw [Function.update_of_ne hother]

section

variable {m m' : Meanings}

theorem IsPiece.of_same {p v : List Char} (h : IsPiece m p v) (hm : SameForReferences m m') :
    IsPiece m' p v := by
  cases h with
  | group _ hi => exact IsPiece.group v hi
  | quoted _ hi => exact IsPiece.quoted v hi
  | number _ hp => exact IsPiece.number p hp
  | name c s hp hc =>
      have hhead : ∀ d ∈ (Text.lower (c :: s)).head?, d.isDigit = false := fun d hd =>
        Option.mem_some.mp hd ▸ (isDigit_toLower c).trans hc
      rw [hm _ hhead]
      exact IsPiece.name c s hp hc

theorem IsValue.of_same {e v : List Char} (h : IsValue m e v) (hm : SameForReferences m m') :
    IsValue m' e v := by
  induction h with
  | last a p b v ha hp hb => exact IsValue.last a p b v ha (hp.of_same hm) hb
  | joined a p b v e w ha hp hb _ ih => exact IsValue.joined a p b v e w ha (hp.of_same hm) hb ih

theorem IsField.of_same {f : List Char} {pair : List Char × List Char} (h : IsField m f pair)
    (hm : SameForReferences m m') : IsField m' f pair := by
  cases h with
  | mk a word b e v ha hw hb he => exact IsField.mk a word b e v ha hw hb (he.of_same hm)

theorem AreFields.of_same {s : List Char} {pairs : List (List Char × List Char)}
    (h : AreFields m s pairs) (hm : SameForReferences m m') : AreFields m' s pairs := by
  induction h with
  | none a ha => exact AreFields.none a ha
  | comma a b ha hb => exact AreFields.comma a b ha hb
  | cons a f s pair pairs ha hf _ ih => exact AreFields.cons a f s pair pairs ha (hf.of_same hm) ih

theorem IsBlock.of_same {t : List Char} {b : Block} (h : IsBlock m t b)
    (hm : SameForReferences m m') : IsBlock m' t b := by
  cases h with
  | skipped a word b inner ha hw hkind hb hi => exact IsBlock.skipped a word b inner ha hw hkind hb hi
  | abbreviation a word b f c pair ha hw hkind hb hf hc =>
      exact IsBlock.abbreviation a word b f c pair ha hw hkind hb (hf.of_same hm) hc
  | record a word b c key s pairs ha hw hpass hkind hb hc hkey hs =>
      exact IsBlock.record a word b c key s pairs ha hw hpass hkind hb hc hkey (hs.of_same hm)

theorem Says.of_same {s : List Char} {records : List Record} (h : Says m s records) :
    ∀ {m' : Meanings}, SameForReferences m m' → Says m' s records := by
  induction h with
  | free m s hs => exact fun _ => Says.free _ s hs
  | skipped m free t rest records hf hb _ ih =>
      exact fun hm => Says.skipped _ free t rest records hf (hb.of_same hm) (ih hm)
  | abbreviation m free t rest word v records hf hb _ ih =>
      exact fun hm => Says.abbreviation _ free t rest word v records hf (hb.of_same hm)
        (ih (hm.update word (some v)))
  | record m free t rest record records hf hb _ ih =>
      exact fun hm => Says.record _ free t rest record records hf (hb.of_same hm) (ih hm)

end

/-- Definitions that differ in what nothing can refer to, in front of one text. -/
theorem readBlocks_of_same {abbreviations abbreviations' : Abbreviations}
    (hsame : SameForReferences (meanings abbreviations) (meanings abbreviations'))
    {s : List Char} {line : Nat} {records : List Record}
    (h : (readBlocks abbreviations line s).map Contents.records = .ok records) (line' : Nat) :
    (readBlocks abbreviations' line' s).map Contents.records = .ok records := by
  rcases hread : readBlocks abbreviations line s with error | contents
  · rw [hread] at h
    exact absurd h (by simp [Except.map])
  · rw [hread] at h
    have hsays := (says_of_readBlocks abbreviations line s contents hread).of_same hsame
    rcases readBlocks_of_says _ s _ hsays abbreviations' line' rfl with ⟨contents', hread', heq⟩
    rw [hread', ← h]
    exact congrArg Except.ok heq

theorem map_behind_eq_ok_iff (result : Except SyntaxError Contents)
    (earlier records : List Record) :
    (result.map (Contents.behind earlier)).map Contents.records = .ok records ↔
      ∃ later, result.map Contents.records = .ok later ∧ earlier ++ later = records := by
  cases result with
  | error error => simp [Except.map]
  | ok contents => simp [Except.map, Contents.behind]

/-- Reading on behind a text and the definition of an abbreviation. -/
theorem readRecords_behind {before definition : String} {left : Contents}
    {name expression v : List Char} (hbefore : readBlocks [] 1 before.toList = .ok left)
    (hdefinition :
      IsDefinition (meanings left.abbreviations) definition.toList name expression v)
    (rest : String) :
    (∃ line, readRecords (before ++ rest) =
      ((readBlocks left.abbreviations line rest.toList).map
        (Contents.behind left.records)).map Contents.records) ∧
    ∃ line, readRecords (before ++ definition ++ rest) =
      ((readBlocks ((Text.lower name, plainText v) :: left.abbreviations) line rest.toList).map
        (Contents.behind left.records)).map Contents.records := by
  rcases hasBlocks_of_readBlocks [] before.toList 1 left hbefore with ⟨blocks, hblocks, rfl⟩
  constructor
  · -- Only the abbreviations of what stands before reach the rest, so the text is cut there.
    refine ⟨1 + before.toList.count '\n', ?_⟩
    rw [readRecords, String.toList_append, hblocks.readBlocks_append]
  · rcases readBlocks_isBlock _ (1 + before.toList.count '\n') definition.toList rest.toList _
      hdefinition.isBlock with ⟨line, hread⟩
    refine ⟨line, ?_⟩
    rw [readRecords, String.toList_append, String.toList_append, List.append_assoc,
      hblocks.readBlocks_append, hread]
    simp only [Block.records, Block.define]
    -- A definition adds no record, whether the rest is read or not.
    cases readBlocks ((Text.lower name, plainText v) :: (contentsOf [] blocks).abbreviations) line
      rest.toList <;> rfl

/-- The records behind the definition of an abbreviation, and the same records with
    references to it spelled out as the expression that defines it.

    Both texts are read alike, and if the expression does not mention the name itself,
    the records are the same exactly if the expression has no outer blanks that part
    words where it is put. If it does mention the name, they are the same exactly if
    the values of their fields are, with what the abbreviation stands for in the gaps
    and with what the expression means behind the definition. A name that begins with
    a digit can be defined, but nothing refers to it. -/
theorem readRecords_spellOut (before definition : String) (left : Contents)
    (name expression v : List Char) (hbefore : readBlocks [] 1 before.toList = .ok left)
    (hdefinition :
      IsDefinition (meanings left.abbreviations) definition.toList name expression v) :
    let word := Text.lower name
    let behind := Function.update (meanings left.abbreviations) word (some (plainText v))
    (¬ Mentions word expression → ∀ (rest rest' : String) (values : List Parts),
      SpellsOut word expression behind rest.toList rest'.toList values →
        SameIff (∀ parts ∈ values, FitsIn v parts) (readRecords (before ++ definition ++ rest))
          (readRecords (before ++ definition ++ rest'))) ∧
    (∃ spelled, IsValue behind expression spelled ∧
      ∀ (rest rest' : String) (values : List Parts),
        SpellsOut word expression behind rest.toList rest'.toList values →
          SameIff (∀ parts ∈ values, plainText (Text.between (plainText v) parts) =
              plainText (Text.between spelled parts))
            (readRecords (before ++ definition ++ rest))
            (readRecords (before ++ definition ++ rest'))) ∧
    ((∃ c ∈ name.head?, c.isDigit = true) → ∀ (rest : String) (records : List Record),
      readRecords (before ++ definition ++ rest) = .ok records ↔
        readRecords (before ++ rest) = .ok records) := by
  intro word behind
  -- Whatever the expression means behind the definition, both texts are read alike.
  have halike (spelled : List Char) (hspelled : IsValue behind expression spelled)
      (rest rest' : String) (values : List Parts)
      (h : SpellsOut word expression behind rest.toList rest'.toList values) :
      SameIff (∀ parts ∈ values, plainText (Text.between (plainText v) parts) =
          plainText (Text.between spelled parts))
        (readRecords (before ++ definition ++ rest))
        (readRecords (before ++ definition ++ rest')) := by
    rcases (readRecords_behind hbefore hdefinition rest).2 with ⟨line, hread⟩
    rcases (readRecords_behind hbefore hdefinition rest').2 with ⟨line', hread'⟩
    rw [hread, hread']
    exact ((h.readBlocks _ line line' (meanings_cons _ _ _) (Function.update_self _ _ _)
      hspelled).behind left.records left.records rfl).congr (by simp)
  refine ⟨fun hmention rest rest' values h => ?_, ?_, fun hdigit rest records => ?_⟩
  · have hv := hdefinition.isValue.update_of_not_mentions word (some (plainText v)) hmention
    refine (halike v hv rest rest' values h).congr ?_
    simp only [plainText_between_iff]
  · rcases hdefinition.isValue.exists_of behind with ⟨spelled, hspelled⟩
    exact ⟨spelled, hspelled, halike spelled hspelled⟩
  · -- Nothing refers to a name with a digit in front, so its definition may go.
    have hword : ∃ c ∈ word.head?, c.isDigit = true := by
      rcases hdigit with ⟨c, hc, hdigit⟩
      refine ⟨c.toLower, ?_, (isDigit_toLower c).trans hdigit⟩
      show (name.map Char.toLower).head? = some c.toLower
      rw [List.head?_map, Option.mem_def.mp hc, Option.map_some]
    have hsame := sameForReferences_update_digit (meanings left.abbreviations) word
      (some (plainText v)) hword
    rw [← meanings_cons] at hsame
    rcases readRecords_behind hbefore hdefinition rest with ⟨⟨line, hread⟩, line', hread'⟩
    rw [hread, hread', map_behind_eq_ok_iff, map_behind_eq_ok_iff]
    refine exists_congr fun later => and_congr_left' ⟨fun h => ?_, fun h => ?_⟩
    · exact readBlocks_of_same hsame h line
    · exact readBlocks_of_same (fun other hother => (hsame other hother).symm) h line'

/-- A blank at the start of an expression, where nothing comes before it. -/
theorem readRecords_spellOut_start :
    let definition := "@string\x7bP=\" a\"\x7d"
    let expression := ['"', ' ', 'a', '"']
    let behind := Function.update (meanings []) ['p'] (some (plainText [' ', 'a']))
    let rest := "@b\x7bk,t=p#1\x7d"
    let spelled := "@b\x7bk,t=\" a\"#1\x7d"
    readBlocks [] 1 "".toList = .ok ⟨[], []⟩ ∧
      IsDefinition (meanings []) definition.toList ['P'] expression [' ', 'a'] ∧
      ¬ Mentions ['p'] expression ∧
      SpellsOut ['p'] expression behind rest.toList spelled.toList [[none, some ['1']]] ∧
      SameIff (∀ parts ∈ [[none, some ['1']]], FitsIn [' ', 'a'] parts)
        (readRecords ("" ++ definition ++ rest)) (readRecords ("" ++ definition ++ spelled)) := by
  intro definition expression behind rest spelled
  have hread : readBlocks [] 1 "".toList = .ok ⟨[], []⟩ := by decide +kernel
  have hnil : IsGap [] := by simp [IsGap]
  have hvalue : IsValue (meanings []) expression [' ', 'a'] :=
    .last [] expression [] _ hnil
      (.quoted [' ', 'a'] (.plain 0 ' ' _ (by decide) (.plain 0 'a' _ (by decide) .nil))) hnil
  have hdefinition :
      IsDefinition (meanings []) definition.toList ['P'] expression [' ', 'a'] := by
    have htext : definition.toList = '@' :: [] ++ "string".toList ++ [] ++
        '{' :: ([] ++ ['P'] ++ [] ++ '=' :: expression) ++ [] ++ ['}'] := by decide +kernel
    rw [htext]
    exact .mk [] _ [] [] ['P'] [] _ _ [] hnil (by decide) (by decide) hnil hnil (by decide) hnil
      hvalue hnil
  have hmention : ¬ Mentions ['p'] expression :=
    not_mentions_of_head ['p'] '"' [' ', 'a', '"'] (by decide) (by decide) (by decide)
  have hspellsOut :
      SpellsOut ['p'] expression behind rest.toList spelled.toList [[none, some ['1']]] := by
    have hrest : rest.toList = ['@', 'b', '{', 'k', ',', 't', '=', 'p', '#', '1', '}'] := by
      decide +kernel
    have hspelled : spelled.toList =
        ['@', 'b', '{', 'k', ',', 't', '=', '"', ' ', 'a', '"', '#', '1', '}'] := by
      decide +kernel
    have hone : SpellsOutValue behind ['p'] expression ['1'] ['1'] [some ['1']] :=
      .last [] ['1'] ['1'] [] _ hnil (.kept ['1'] _ (.number ['1'] (by decide))) hnil
    have hjoined := SpellsOutValue.joined [] ['p'] _ [] _ _ none _ hnil
      (.reference ['p'] ⟨by decide, by simp, by decide⟩) hnil hone
    have hfields := SpellsOutFields.cons [] [] ['t'] [] _ _ [] [] _ [] hnil hnil (by decide) hnil
      hjoined (.none [] hnil)
    have hrecord := SpellsOutRecord.mk [] ['b'] [] [] ['k'] _ _ _ hnil (by decide) (by decide)
      (by decide) hnil hnil (by decide) hfields
    rw [hrest, hspelled]
    exact .record behind _ _ _ _ [] [] _ [] hrecord (.same behind [])
  exact ⟨hread, hdefinition, hmention, hspellsOut,
    (readRecords_spellOut "" definition _ ['P'] _ _ hread hdefinition).1 hmention rest spelled _
      hspellsOut⟩

/-- A blank at the end of an expression is lost before a number that is joined to it,
    and a name that begins with a digit is no value. Spelled out, both are read. -/
theorem readRecords_unlike_spelled :
    readRecords "@string\x7bp=\x7ba \x7d\x7d@b\x7bk,t=p#1\x7d" =
        .ok [⟨"b", "k", [("t", "a1")]⟩] ∧
      readRecords "@string\x7bp=\x7ba \x7d\x7d@b\x7bk,t=\x7ba \x7d#1\x7d" =
        .ok [⟨"b", "k", [("t", "a 1")]⟩] ∧
      readRecords "@string\x7b2d=\x7ba\x7d\x7d@b\x7bk,t=2d\x7d" =
        .error ⟨1, ⟨.symbol, "d\x7d".toList⟩⟩ ∧
      readRecords "@string\x7b2d=\x7ba\x7d\x7d@b\x7bk,t=\x7ba\x7d\x7d" =
        .ok [⟨"b", "k", [("t", "a")]⟩] := by
  decide +kernel

end Bibtex

end CiteRender
