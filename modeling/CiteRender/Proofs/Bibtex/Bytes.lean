import CiteRender.Proofs.Bibtex.Depth
import CiteRender.Proofs.Text.Loops

/-!
# Groups by Bytes

A text is kept as UTF-8, and the brace that closes a group is looked for byte by byte:
a number of open groups is raised and lowered, a backslash takes the scan one byte
further, and at the end the text is cut in two where the scan stands. Each of these
could go wrong. A number could be lowered below zero, a byte could be looked for behind
the end, and a cut could fall inside a character.

None does, though the scan knows nothing of characters. A backslash takes it past the
first byte of the character behind it only, and leaves it inside that character if it
has more than one byte. But no byte inside a character is the byte of a mark, so the
scan walks on to the next character with nothing changed, and at a closing brace it
stands between two characters again.

`groupScan_runFor` is the invariant: with some text passed over and some groups open, the
scan by bytes does what the scanner by characters does with the text that is left. The
induction is along the latter, and each of its steps is one pass of the scan, and possibly
some more over the rest of a character.

## Main definitions

* `Slip`: What could go wrong.
* `slice`, `cutAt`: Parts of a text by the numbers of bytes.
* `groupScan`, `groupByBytes`: The scan by bytes.
* `stripBraces`: A group without its outer braces, by bytes.
* `bytesOf`: The bytes of some characters.
* `IsPassed`: A byte that the scan passes over.
* `scanned`: What the scan is left with, by what the reader finds.

## Theorems

* `slice_append`, `cutAt_append`: Between two parts a text can be cut.
* `utf8EncodeChar_cases`: The bytes of a character.
* `groupScan_passOver`, `groupScan_mark`, `groupScan_hidden`: The passes of the scan.
* `groupScan_runFor`: The scan by bytes and the scanner by characters.
* `groupByBytes_eq`: Groups by bytes are the groups of the reader.
* `groupByBytes_shortest`: The scan finds the shortest group, and nothing goes wrong.
-/

namespace CiteRender

namespace Bibtex

/-- What could go wrong in a scan by bytes. -/
inductive Slip
  /-- a byte behind the end of the text -/
  | behindEnd
  /-- a number below zero -/
  | belowZero
  /-- a cut inside a character or behind the end of the text -/
  | insideCharacter
  deriving DecidableEq

/-- The part of a text between two numbers of bytes, which must be in order and must not
    lie inside a character. -/
def slice (text : String) (start stop : Nat) : Except Slip String :=
  if h : start ≤ stop ∧ String.Pos.Raw.IsValid text ⟨start⟩ ∧
      String.Pos.Raw.IsValid text ⟨stop⟩ then
    .ok (String.extract (⟨⟨start⟩, h.2.1⟩ : text.Pos) ⟨⟨stop⟩, h.2.2⟩)
  else .error .insideCharacter

/-- The two parts of a text of which the first has a number of bytes. -/
def cutAt (text : String) (size : Nat) : Except Slip (String × String) :=
  match slice text 0 size, slice text size text.utf8ByteSize with
  | .ok before, .ok behind => .ok (before, behind)
  | .error slip, _ => .error slip
  | _, .error slip => .error slip

/-- Where a scan stands, and how many braces are open there. -/
structure Scan where
  depth : Nat
  offset : Nat

/-- What the scan does at a byte. -/
def scanByte (text : String) (scan : Scan) (byte : UInt8) :
    Pass Scan (Except Slip (Except Fault (String × String))) :=
  if byte = '{'.toUInt8 then .again ⟨scan.depth + 1, scan.offset + 1⟩
  else if byte = '}'.toUInt8 then
    match scan.depth with
    | 0 => .leave (.error .belowZero)
    | 1 => .leave ((cutAt text (scan.offset + 1)).map .ok)
    | depth + 2 => .again ⟨depth + 1, scan.offset + 1⟩
  else if byte = '\\'.toUInt8 then .again ⟨scan.depth, scan.offset + 2⟩
  else .again ⟨scan.depth, scan.offset + 1⟩

/-- The scan for the brace that closes a group, from the brace that opens it. -/
def groupScan (text : String) : Loop Scan (Except Slip (Except Fault (String × String))) where
  exit scan :=
    if scan.offset < text.utf8ByteSize then none else some (.ok (.error ⟨.closing, text.toList⟩))
  pass scan :=
    match text.toByteArray[scan.offset]? with
    | none => .leave (.error .behindEnd)
    | some byte => scanByte text scan byte

/-- The group that a text begins with, with its braces, and the rest. The scan makes no
    more passes than the text has bytes. -/
def groupByBytes (text : String) : Option (Except Slip (Except Fault (String × String))) :=
  if text.toList.head? = some '{' then (groupScan text).runFor text.utf8ByteSize ⟨0, 0⟩
  else some (.ok (.error ⟨.symbol, text.toList⟩))

/-- A group without its outer braces. -/
def stripBraces (group : String) : Except Slip String :=
  if group.utf8ByteSize = 0 then .error .belowZero else slice group 1 (group.utf8ByteSize - 1)

theorem extract_middle (a b c : ByteArray) :
    (a ++ b ++ c).extract a.size (a.size + b.size) = b := by
  rw [ByteArray.append_assoc]
  have hbehind := ByteArray.extract_append_size_add (a := a) (b := b ++ c) (i := 0) (j := b.size)
  rw [Nat.add_zero] at hbehind
  rw [hbehind, ByteArray.extract_append_eq_left rfl]

/-- The part between the ends of two texts is what stands there. -/
theorem slice_append (a b c : String) :
    slice (a ++ b ++ c) a.utf8ByteSize (a.utf8ByteSize + b.utf8ByteSize) = .ok b := by
  have hstart : String.Pos.Raw.IsValid (a ++ b ++ c) ⟨a.utf8ByteSize⟩ :=
    String.Pos.Raw.isValid_iff_exists_append.2 ⟨a, b ++ c, String.append_assoc, rfl⟩
  have hstop : String.Pos.Raw.IsValid (a ++ b ++ c) ⟨a.utf8ByteSize + b.utf8ByteSize⟩ :=
    String.Pos.Raw.isValid_iff_exists_append.2
      ⟨a ++ b, c, rfl, by rw [String.rawEndPos, String.utf8ByteSize_append]⟩
  have hbytes := extract_middle a.toByteArray b.toByteArray c.toByteArray
  rw [String.size_toByteArray, String.size_toByteArray, ← String.toByteArray_append,
    ← String.toByteArray_append] at hbytes
  rw [slice, dif_pos ⟨Nat.le_add_right _ _, hstart, hstop⟩]
  congr 1
  rw [← String.toByteArray_inj, String.toByteArray_extract]
  exact hbytes

theorem cutAt_append (a b : String) : cutAt (a ++ b) a.utf8ByteSize = .ok (a, b) := by
  have hbefore := slice_append "" a b
  have hbehind := slice_append a b ""
  rw [String.empty_append, String.utf8ByteSize_empty, Nat.zero_add] at hbefore
  rw [String.append_empty, ← String.utf8ByteSize_append] at hbehind
  rw [cutAt, hbefore, hbehind]

theorem ofList_group (inner : List Char) :
    String.ofList ('{' :: inner ++ ['}']) = "\x7b" ++ String.ofList inner ++ "\x7d" := by
  rw [String.ofList_append, String.ofList_cons]
  rfl

theorem utf8ByteSize_group (inner : List Char) :
    (String.ofList ('{' :: inner ++ ['}'])).utf8ByteSize =
      1 + (String.ofList inner).utf8ByteSize + 1 := by
  rw [ofList_group, String.utf8ByteSize_append, String.utf8ByteSize_append]
  rfl

/-- A group without its outer braces is what stands between them. -/
theorem stripBraces_group (inner : List Char) :
    stripBraces (String.ofList ('{' :: inner ++ ['}'])) = .ok (String.ofList inner) := by
  rw [stripBraces, utf8ByteSize_group, if_neg (by omega), Nat.add_sub_cancel, ofList_group]
  exact slice_append "\x7b" (String.ofList inner) "\x7d"

/-- The bytes of some characters. -/
def bytesOf (s : List Char) : List UInt8 :=
  s.flatMap String.utf8EncodeChar

theorem bytesOf_append (s t : List Char) : bytesOf (s ++ t) = bytesOf s ++ bytesOf t :=
  List.flatMap_append

theorem bytesOf_cons (c : Char) (s : List Char) :
    bytesOf (c :: s) = String.utf8EncodeChar c ++ bytesOf s := rfl

theorem bytesOf_concat (s : List Char) (c : Char) :
    bytesOf (s ++ [c]) = bytesOf s ++ String.utf8EncodeChar c := by
  rw [bytesOf_append, bytesOf_cons]
  exact congrArg _ (List.append_nil _)

theorem toByteArray_eq_bytesOf (text : String) :
    text.toByteArray = (bytesOf text.toList).toByteArray := by
  conv => lhs; rw [← String.ofList_toList (s := text)]
  rw [String.toByteArray_ofList, List.utf8Encode, bytesOf]

theorem length_bytesOf (text : String) : (bytesOf text.toList).length = text.utf8ByteSize := by
  rw [← String.size_toByteArray, toByteArray_eq_bytesOf]
  exact List.size_toByteArray.symm

theorem getElem?_toByteArray (l : List UInt8) (i : Nat) : l.toByteArray[i]? = l[i]? := by
  simp [getElem?_def]

/-- A character is one byte, or none of its bytes is one that is a character. -/
theorem utf8EncodeChar_cases (c : Char) :
    (c.toNat < 128 ∧ String.utf8EncodeChar c = [c.toUInt8]) ∨
      128 ≤ c.toNat ∧ ∀ byte ∈ String.utf8EncodeChar c, 128 ≤ byte.toNat := by
  rw [String.utf8EncodeChar, show c.val.toNat = c.toNat from rfl]
  by_cases hc : c.toNat ≤ 127
  · refine Or.inl ⟨by omega, ?_⟩
    rw [if_pos hc]
    rfl
  · refine Or.inr ⟨by omega, ?_⟩
    rw [if_neg hc]
    split
    · simp
      omega
    · split
      · simp
        omega
      · simp
        omega

/-- A byte that is none of the three the scan looks for. -/
def IsPassed (byte : UInt8) : Prop :=
  byte ≠ '{'.toUInt8 ∧ byte ≠ '}'.toUInt8 ∧ byte ≠ '\\'.toUInt8

theorem isPassed_of_le (byte : UInt8) (h : 128 ≤ byte.toNat) : IsPassed byte := by
  refine ⟨?_, ?_, ?_⟩ <;>
    · rintro rfl
      exact absurd h (by decide)

/-- The bytes of a character that is no mark. -/
theorem isPassed_of_ne (c : Char) (hc : c ≠ '{' ∧ c ≠ '}' ∧ c ≠ '\\') :
    ∀ byte ∈ String.utf8EncodeChar c, IsPassed byte := by
  rcases utf8EncodeChar_cases c with ⟨hsmall, hbytes⟩ | ⟨_, hlarge⟩
  · rw [hbytes]
    have hne (d : Char) (hd : d.toNat < 128) (hcd : c ≠ d) : c.toUInt8 ≠ d.toUInt8 := by
      intro heq
      have hmod : c.toNat % 256 = d.toNat % 256 := congrArg UInt8.toNat heq
      exact hcd (Char.toNat_inj.1 (by omega))
    simpa [IsPassed] using
      ⟨hne _ (by decide) hc.1, hne _ (by decide) hc.2.1, hne _ (by decide) hc.2.2⟩
  · exact fun byte hbyte => isPassed_of_le byte (hlarge byte hbyte)

/-- The bytes of any character behind its first. -/
theorem isPassed_of_mem_tail (c : Char) :
    ∀ byte ∈ (String.utf8EncodeChar c).tail, IsPassed byte := by
  rcases utf8EncodeChar_cases c with ⟨_, hbytes⟩ | ⟨_, hlarge⟩
  · rw [hbytes]
    simp
  · exact fun byte hbyte => isPassed_of_le byte (hlarge byte (List.mem_of_mem_tail hbyte))

section

variable {text : String}

/-- At a byte of the text the loop goes on, with what it does at that byte. -/
theorem groupScan_byte (depth : Nat) (before after : List UInt8) (byte : UInt8)
    (h : bytesOf text.toList = before ++ byte :: after) :
    (groupScan text).exit ⟨depth, before.length⟩ = none ∧
      (groupScan text).pass ⟨depth, before.length⟩ =
        scanByte text ⟨depth, before.length⟩ byte := by
  have hsize := length_bytesOf text
  rw [h, List.length_append, List.length_cons] at hsize
  have hbyte : text.toByteArray[before.length]? = some byte := by
    rw [toByteArray_eq_bytesOf, getElem?_toByteArray, h,
      List.getElem?_append_right (Nat.le_refl _), Nat.sub_self, List.getElem?_cons_zero]
  have hinside : before.length < text.utf8ByteSize := by omega
  refine ⟨if_pos hinside, ?_⟩
  simp only [groupScan, hbyte]

/-- Bytes that are none of the three are passed over one by one. -/
theorem groupScan_passOver (depth n : Nat) (before others after : List UInt8)
    (h : bytesOf text.toList = before ++ others ++ after)
    (hothers : ∀ byte ∈ others, IsPassed byte) :
    (groupScan text).runFor (others.length + n) ⟨depth, before.length⟩ =
      (groupScan text).runFor n ⟨depth, (before ++ others).length⟩ := by
  induction others generalizing before with
  | nil => rw [List.length_nil, Nat.zero_add, List.append_nil]
  | cons byte others ih =>
      rcases List.forall_mem_cons.1 hothers with ⟨⟨hopen, hclose, hslash⟩, hothers⟩
      rcases groupScan_byte depth before _ byte (by simpa using h) with ⟨hexit, hpass⟩
      rw [scanByte, if_neg hopen, if_neg hclose, if_neg hslash] at hpass
      have hrest := ih (before ++ [byte]) (by simpa using h) hothers
      rw [List.length_append, List.append_assoc] at hrest
      rw [List.length_cons, Nat.add_right_comm]
      exact (Loop.runFor_again _ _ _ _ hexit hpass).trans hrest

/-- What the scan is left with, by what the reader finds behind a text that the scan has
    passed over. -/
def scanned (text : String) (passed : List Char) :
    Option (List Char × List Char) → Except Slip (Except Fault (String × String))
  | some (inner, rest) => .ok (.ok (String.ofList (passed ++ inner ++ ['}']), String.ofList rest))
  | none => .ok (.error ⟨.closing, text.toList⟩)

theorem scanned_map (passed more : List Char) (found : Option (List Char × List Char)) :
    scanned text passed (found.map fun r => (more ++ r.1, r.2)) =
      scanned text (passed ++ more) found := by
  cases found with
  | none => rfl
  | some r => simp [scanned]

/-- What is passed over and what is left, in bytes. -/
theorem utf8ByteSize_eq (passed s : List Char) (htext : text.toList = passed ++ s) :
    text.utf8ByteSize = (bytesOf passed).length + (bytesOf s).length := by
  rw [← length_bytesOf, htext, bytesOf_append, List.length_append]

/-- A pass over a mark that the scan goes on behind. -/
theorem groupScan_mark (c : Char) (tail passed : List Char) (depth next n : Nat)
    (htext : text.toList = passed ++ c :: tail) (hmark : String.utf8EncodeChar c = [c.toUInt8])
    (hscan : scanByte text ⟨depth, (bytesOf passed).length⟩ c.toUInt8 =
      .again ⟨next, (bytesOf passed).length + 1⟩) :
    (groupScan text).runFor (n + 1) ⟨depth, (bytesOf passed).length⟩ =
      (groupScan text).runFor n ⟨next, (bytesOf (passed ++ [c])).length⟩ := by
  have hbytes : bytesOf text.toList = bytesOf passed ++ c.toUInt8 :: bytesOf tail := by
    rw [htext, bytesOf_append, bytesOf_cons, hmark, List.singleton_append]
  rcases groupScan_byte depth _ _ _ hbytes with ⟨hexit, hpass⟩
  have hsize : (bytesOf (passed ++ [c])).length = (bytesOf passed).length + 1 := by
    rw [bytesOf_concat, hmark, List.length_append, List.length_singleton]
  rw [hsize]
  exact Loop.runFor_again _ _ _ _ hexit (hpass.trans hscan)

/-- A backslash takes the scan behind the first byte of the hidden character, and from
    there it passes over the others. -/
theorem groupScan_hidden (d : Char) (tail passed : List Char) (depth n : Nat)
    (htext : text.toList = passed ++ '\\' :: d :: tail) :
    (groupScan text).runFor ((String.utf8EncodeChar d).length + n)
        ⟨depth, (bytesOf passed).length⟩ =
      (groupScan text).runFor n ⟨depth, (bytesOf (passed ++ ['\\', d])).length⟩ := by
  have hothers := isPassed_of_mem_tail d
  rcases hd : String.utf8EncodeChar d with _ | ⟨first, others⟩
  · have := Char.utf8Size_pos d
    rw [← String.length_utf8EncodeChar, hd] at this
    exact absurd this (Nat.lt_irrefl 0)
  rw [hd, List.tail_cons] at hothers
  have hpassed : bytesOf (passed ++ ['\\', d]) =
      bytesOf passed ++ ['\\'.toUInt8, first] ++ others := by
    rw [bytesOf_append, bytesOf_cons, bytesOf_cons, hd, List.append_assoc]
    exact congrArg _ (congrArg _ (List.append_nil _))
  have hbytes : bytesOf text.toList =
      bytesOf passed ++ '\\'.toUInt8 :: (first :: others ++ bytesOf tail) := by
    rw [htext, bytesOf_append, bytesOf_cons, bytesOf_cons, hd]
    rfl
  -- The backslash takes the first byte of the character with it. The others are passed over one by
  -- one, none of them being a mark.
  rcases groupScan_byte depth _ _ _ hbytes with ⟨hexit, hpass⟩
  have hbehind := groupScan_passOver depth n (bytesOf passed ++ ['\\'.toUInt8, first]) others
    (bytesOf tail) (by simpa using hbytes) hothers
  rw [hpassed, ← hbehind, List.length_append, List.length_cons, Nat.add_right_comm]
  exact Loop.runFor_again _ _ _ _ hexit hpass

/-- At the brace that closes the group the text can be cut. -/
theorem scanByte_closing (tail passed : List Char) (htext : text.toList = passed ++ '}' :: tail) :
    scanByte text ⟨1, (bytesOf passed).length⟩ '}'.toUInt8 =
      .leave (scanned text passed (some ([], tail))) := by
  have hcut : cutAt text ((bytesOf passed).length + 1) =
      .ok (String.ofList (passed ++ ['}']), String.ofList tail) := by
    have := cutAt_append (String.ofList (passed ++ ['}'])) (String.ofList tail)
    rwa [← String.ofList_append, List.append_assoc, List.singleton_append, ← htext,
      String.ofList_toList, ← length_bytesOf, String.toList_ofList, bytesOf_append,
      List.length_append] at this
  have hscan : scanByte text ⟨1, (bytesOf passed).length⟩ '}'.toUInt8 =
      .leave ((cutAt text ((bytesOf passed).length + 1)).map .ok) := rfl
  rw [hscan, hcut, scanned, List.append_nil]
  rfl

/-- With some groups open, the scan by bytes does what the scanner by characters does with
    the text that is left. -/
theorem groupScan_runFor (depth : Nat) (s passed : List Char) (n : Nat)
    (htext : text.toList = passed ++ s) (hn : (bytesOf s).length ≤ n) :
    (groupScan text).runFor n ⟨depth + 1, (bytesOf passed).length⟩ =
      some (scanned text passed (groupTail depth s)) := by
  fun_induction groupTail depth s generalizing passed n with
  | case1 =>
      have hsize := utf8ByteSize_eq passed [] htext
      refine Loop.runFor_of_exit _ _ _ _ (if_neg ?_)
      rw [hsize]
      exact Nat.lt_irrefl _
  | case2 tail =>
      rcases Nat.exists_eq_add_of_le' hn with ⟨m, rfl⟩
      have hbytes : bytesOf text.toList = bytesOf passed ++ '}'.toUInt8 :: bytesOf tail := by
        rw [htext, bytesOf_append]
        rfl
      rcases groupScan_byte 1 _ _ _ hbytes with ⟨hexit, hpass⟩
      exact Loop.runFor_leave _ _ _ _ hexit (hpass.trans (scanByte_closing tail passed htext))
  | case3 tail depth ih =>
      rcases Nat.exists_eq_add_of_le' hn with ⟨m, rfl⟩
      have hrest := ih (passed ++ ['}']) _ (by simpa using htext) (Nat.le_add_left _ m)
      rw [← scanned_map] at hrest
      exact (groupScan_mark '}' tail passed _ (depth + 1) _ htext rfl rfl).trans hrest
  | case4 depth tail _ ih =>
      rcases Nat.exists_eq_add_of_le' hn with ⟨m, rfl⟩
      have hrest := ih (passed ++ ['{']) _ (by simpa using htext) (Nat.le_add_left _ m)
      rw [← scanned_map] at hrest
      exact (groupScan_mark '{' tail passed _ (depth + 2) _ htext rfl rfl).trans hrest
  | case5 depth =>
      -- The backslash is the last character, and takes the scan behind the end.
      rcases Nat.exists_eq_add_of_le' hn with ⟨m, rfl⟩
      have hbytes : bytesOf text.toList = bytesOf passed ++ ['\\'.toUInt8] := by
        rw [htext, bytesOf_append]
        rfl
      have hsize := utf8ByteSize_eq passed ['\\'] htext
      rcases groupScan_byte (depth + 1) _ _ _ hbytes with ⟨hexit, hpass⟩
      refine (Loop.runFor_again _ m _ _ hexit hpass).trans
        (Loop.runFor_of_exit _ _ _ _ (if_neg ?_))
      rw [hsize]
      show ¬ (bytesOf passed).length + 2 < (bytesOf passed).length + 1
      omega
  | case6 depth d tail _ _ ih =>
      rw [show bytesOf ('\\' :: d :: tail) = '\\'.toUInt8 :: bytesOf (d :: tail) from rfl,
        List.length_cons, bytesOf_cons, List.length_append] at hn
      rcases Nat.exists_eq_add_of_le' hn with ⟨m, rfl⟩
      have hrest := ih (passed ++ ['\\', d]) _ (by simpa using htext) (Nat.le_add_left _ (m + 1))
      rw [← scanned_map] at hrest
      rw [show m + ((String.utf8EncodeChar d).length + (bytesOf tail).length + 1) =
        (String.utf8EncodeChar d).length + (m + 1 + (bytesOf tail).length) by omega]
      exact (groupScan_hidden d tail passed _ _ htext).trans hrest
  | case7 depth c tail hclose hopen hslash ih =>
      have hbytes : bytesOf text.toList =
          bytesOf passed ++ String.utf8EncodeChar c ++ bytesOf tail := by
        rw [htext, bytesOf_append, bytesOf_cons, List.append_assoc]
      rw [bytesOf_cons, List.length_append] at hn
      rcases Nat.exists_eq_add_of_le' hn with ⟨m, rfl⟩
      have hrest := ih (passed ++ [c]) _ (by simpa using htext) (Nat.le_add_left _ m)
      rw [bytesOf_concat, ← scanned_map] at hrest
      rw [Nat.add_left_comm]
      exact (groupScan_passOver _ _ _ _ _ hbytes (isPassed_of_ne c ⟨hopen, hclose, hslash⟩)).trans
        hrest

end

/-- A text that begins with no brace has no group. -/
theorem group_eq_error (s : List Char) (h : s.head? ≠ some '{') :
    group s = .error ⟨.symbol, s⟩ := by
  unfold group
  split
  · exact absurd rfl h
  · rfl

/-- The scan by bytes finds the group that the reader finds, and nothing goes wrong. -/
theorem groupByBytes_eq (text : String) :
    groupByBytes text = some (.ok ((group text.toList).map fun r =>
      (String.ofList ('{' :: r.1 ++ ['}']), String.ofList r.2))) := by
  rw [groupByBytes]
  split
  case isTrue hhead =>
    rcases List.head?_eq_some_iff.1 hhead with ⟨tail, htext⟩
    have hopen := groupScan_mark '{' tail [] 0 1 (bytesOf tail).length htext rfl rfl
    have hrest := groupScan_runFor 0 tail ['{'] (bytesOf tail).length htext (Nat.le_refl _)
    rw [← length_bytesOf, htext]
    refine (hopen.trans hrest).trans ?_
    cases hscan : groupTail 0 tail with
    | none => simp [group, scanned, hscan, htext, Except.map]
    | some r => simp [group, scanned, hscan, Except.map]
  case isFalse hhead =>
    rw [group_eq_error text.toList hhead]
    rfl

theorem group_of_groupByBytes (text : String) (found : String × String)
    (h : groupByBytes text = some (.ok (.ok found))) :
    ∃ inner rest, group text.toList = .ok (inner, rest) ∧
      found = (String.ofList ('{' :: inner ++ ['}']), String.ofList rest) := by
  rw [groupByBytes_eq] at h
  cases hgroup : group text.toList with
  | error fault =>
      rw [hgroup] at h
      exact absurd (Except.ok.inj (Option.some.inj h)) nofun
  | ok r =>
      rw [hgroup] at h
      exact ⟨r.1, r.2, rfl, (Except.ok.inj (Except.ok.inj (Option.some.inj h))).symm⟩

/-- A group is read as one piece of a value, without its braces. -/
theorem piece_of_group (abbreviations : Abbreviations) (s inner rest : List Char)
    (h : group s = .ok (inner, rest)) : piece abbreviations s = .ok (inner, rest) := by
  rcases group_sound s inner rest h with ⟨rfl, hi⟩
  have hscan := (groupTail_eq_some_iff (inner ++ '}' :: rest) inner rest).2 ⟨rfl, hi⟩
  simp [piece, hscan]

/-- The scan by bytes comes to an end with nothing gone wrong. It finds a group exactly if
    the text begins with a brace and the depth returns to zero, and what it finds is the
    shortest text at whose end it has. The braces can be stripped off that, and what they
    leave is what the reader reads. -/
theorem groupByBytes_shortest (text : String) :
    (∃ reading, groupByBytes text = some (.ok reading)) ∧
    ((∃ found, groupByBytes text = some (.ok (.ok found))) ↔
      text.toList.head? = some '{' ∧ ∃ p, p <+: text.toList ∧ FirstReturn p) ∧
    ∀ found rest, groupByBytes text = some (.ok (.ok (found, rest))) →
      found ++ rest = text ∧ FirstReturn found.toList ∧
      (∀ p, p <+: text.toList → p ≠ [] → braceDepth p = 0 → found.toList <+: p) ∧
      2 ≤ found.utf8ByteSize ∧
      ∃ inner, stripBraces found = .ok inner ∧
        group text.toList = .ok (inner.toList, rest.toList) ∧
        ∀ abbreviations, piece abbreviations text.toList = .ok (inner.toList, rest.toList) := by
  refine ⟨⟨_, groupByBytes_eq text⟩, ⟨?_, ?_⟩, fun found rest h => ?_⟩
  · rintro ⟨found, h⟩
    rcases group_of_groupByBytes text found h with ⟨inner, rest, hgroup, -⟩
    rcases firstReturn_of_group _ inner rest hgroup with ⟨htext, hfirst⟩
    exact ⟨by rw [htext]; rfl, _, ⟨rest, htext.symm⟩, hfirst⟩
  · -- A first return is where the reader of characters stops, and the bytes follow it.
    rintro ⟨hhead, p, hp, hfirst⟩
    rcases (exists_group_iff text.toList).2 ⟨hhead, p, hp, hfirst.ne_nil, hfirst.returns⟩ with
      ⟨inner, rest, hgroup⟩
    exact ⟨_, by rw [groupByBytes_eq, hgroup]; rfl⟩
  · rcases group_of_groupByBytes text (found, rest) h with ⟨inner, rest', hgroup, heq⟩
    rcases Prod.mk.inj heq with ⟨rfl, rfl⟩
    rcases firstReturn_of_group _ inner rest' hgroup with ⟨htext, hfirst⟩
    simp only [String.toList_ofList]
    refine ⟨?_, hfirst, ?_, ?_, String.ofList inner, stripBraces_group inner, ?_⟩
    · rw [← String.ofList_append, ← htext, String.ofList_toList]
    · exact fun p hp hne hzero => hfirst.shortest ⟨rest', htext.symm⟩ hp hne hzero
    · rw [utf8ByteSize_group]
      omega
    · rw [String.toList_ofList]
      exact ⟨hgroup, fun abbreviations => piece_of_group abbreviations _ _ _ hgroup⟩

/-- A group with another inside, and with a brace and a character of two bytes that are
    hidden. -/
theorem groupByBytes_shortest_hidden :
    let text := "\x7bé\\é\x7ba\\\x7d\x7d\x7d b"
    let found := "\x7bé\\é\x7ba\\\x7d\x7d\x7d"
    groupByBytes text = some (.ok (.ok (found, " b"))) ∧
      found ++ " b" = text ∧ FirstReturn found.toList ∧ 2 ≤ found.utf8ByteSize ∧
      ∃ inner, stripBraces found = .ok inner ∧
        group text.toList = .ok (inner.toList, " b".toList) := by
  intro text found
  have hfound : groupByBytes text = some (.ok (.ok (found, " b"))) := by decide +kernel
  rcases (groupByBytes_shortest text).2.2 found " b" hfound with
    ⟨htext, hfirst, -, hsize, inner, hstrip, hgroup, -⟩
  exact ⟨hfound, htext, hfirst, hsize, inner, hstrip, hgroup⟩

end Bibtex

end CiteRender
