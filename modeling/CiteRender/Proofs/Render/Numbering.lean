import CiteRender.Proofs.Render.Runs
import Mathlib.Data.List.Induction
import Mathlib.Data.List.Nodup

/-!
# Numbering over Whole Runs

A ledger is used again and again: keys are recorded by hand or from a document,
entries are put in or replaced, and articles are rendered, some of them
without success. Through all of this the numbers stay what they are. The list
of cited keys is the list of everything recorded so far with each key at its
first place, so a later list extends an earlier one and a number once given is
never given to another key.

The statement that carries the induction is `RecordsOf`: the cited keys of a
ledger are the first appearances in a list of recorded keys. One step adds the
keys it records to that list. What a render records depends on its document
alone. It records nothing if a bibliography block stops it, since the keys are
read after the blocks, and whatever goes wrong later comes too late to matter.

## Main definitions

* `Operation`: Something done to a ledger.
* `Operation.apply`, `applyAll`: Its effect, and that of several in order.
* `Operation.recorded`: The keys it records.
* `RecordsOf`: The cited keys are the first appearances in a list.

## Theorems

* `eraseDups_append_singleton`, `nodup_eraseDups`: First appearances.
* `citeAll_recordsOf`: Recording keys.
* `apply_recordsOf`, `applyAll_recordsOf`: One operation, and a run of them.
* `number_eq_some_iff`: What a number means.
* `numbering_of_operations`: Numbering over a run.
-/

namespace CiteRender

/-- Something done to a ledger. -/
inductive Operation where
  | cite (key : String)
  | insert (key : String) (entry : Entry)
  | extract (config : Config) (verbose : Bool) (document : Document)
  | render (config : Config) (verbose : Bool) (document : Document)

/-- The keys that the markers of a document name, in order. -/
def namedKeys (config : Config) (document : Document) : List String :=
  match document.select config.citeTag with
  | .ok markers => markers.flatMap markerKeys
  | .error _ => []

/-- Whether every bibliography block of a document can be read. -/
def isReadable (config : Config) (document : Document) : Bool :=
  match document.select config.bibliographyScript with
  | .ok blocks => blocks.all fun block => (Bibtex.readBibliography block.text).isOk
  | .error _ => false

namespace Operation

/-- The effect of an operation on a ledger, also of one that fails. -/
def apply : Operation → Ledger → Ledger
  | cite key, ledger => ledger.cite key
  | insert key entry, ledger => ledger.insertEntry key entry
  | extract config verbose document, ledger =>
    ((extractCitations config).run verbose document ledger).state
  | render config verbose document, ledger =>
    ((Pipeline.standard config).render verbose (document, ledger)).state.2

/-- The keys that an operation records, in order and with repetitions. -/
def recorded : Operation → List String
  | cite key => [key]
  | insert _ _ => []
  | extract config _ document => namedKeys config document
  | render config _ document =>
    if isReadable config document then namedKeys config document else []

/-- The effect of operations in order. -/
def applyAll (operations : List Operation) (ledger : Ledger) : Ledger :=
  operations.foldl (fun ledger operation => operation.apply ledger) ledger

end Operation

/-- The cited keys of a ledger are the first appearances in a list of keys. -/
def RecordsOf (keys : List String) (ledger : Ledger) : Prop :=
  ledger.cited = keys.eraseDups

/-- First appearances, one key at a time. -/
theorem eraseDups_append_singleton (keys : List String) (key : String) :
    (keys ++ [key]).eraseDups =
      if key ∈ keys then keys.eraseDups else keys.eraseDups ++ [key] := by
  rw [List.eraseDups_append]
  by_cases hkey : key ∈ keys
  · simp [List.removeAll, hkey]
  · simp [List.removeAll, hkey, List.eraseDups_cons]

theorem nodup_eraseDups (keys : List String) : keys.eraseDups.Nodup := by
  induction keys using List.reverseRecOn with
  | nil => exact List.nodup_nil
  | append_singleton keys key ih =>
      rw [eraseDups_append_singleton]
      by_cases hkey : key ∈ keys
      · rw [if_pos hkey]
        exact ih
      · rw [if_neg hkey]
        refine ih.append (List.nodup_singleton key) ?_
        rw [List.disjoint_singleton, List.mem_eraseDups]
        exact hkey

/-- A list without repetitions is the list of its first appearances. -/
theorem eraseDups_of_nodup (keys : List String) (h : keys.Nodup) : keys.eraseDups = keys := by
  induction keys using List.reverseRecOn with
  | nil => rfl
  | append_singleton keys key ih =>
      rcases List.nodup_append.mp h with ⟨hkeys, -, hdisjoint⟩
      have hnew : key ∉ keys := fun hmem => hdisjoint key hmem key (List.mem_singleton_self _) rfl
      rw [eraseDups_append_singleton, if_neg hnew, ih hkeys]

theorem cite_recordsOf (keys : List String) (key : String) (ledger : Ledger)
    (h : RecordsOf keys ledger) : RecordsOf (keys ++ [key]) (ledger.cite key) := by
  rw [RecordsOf] at h ⊢
  have hmem : key ∈ ledger.cited ↔ key ∈ keys := by
    rw [h, List.mem_eraseDups]
  rw [eraseDups_append_singleton, Ledger.cite]
  by_cases hkey : key ∈ keys
  · rw [if_pos hkey, if_pos (hmem.mpr hkey), h]
  · rw [if_neg hkey, if_neg (fun hc => hkey (hmem.mp hc)), h]

theorem citeAll_recordsOf (keys more : List String) (ledger : Ledger)
    (h : RecordsOf keys ledger) : RecordsOf (keys ++ more) (ledger.citeAll more) := by
  induction more generalizing keys ledger with
  | nil =>
      rw [List.append_nil]
      exact h
  | cons key more ih =>
      have hrest := ih (keys ++ [key]) (ledger.cite key) (cite_recordsOf keys key ledger h)
      rw [List.append_assoc] at hrest
      exact hrest

theorem extractCitations_recordsOf (config : Config) (verbose : Bool) (document : Document)
    (keys : List String) (ledger : Ledger) (h : RecordsOf keys ledger) :
    RecordsOf (keys ++ namedKeys config document)
      ((extractCitations config).run verbose document ledger).state := by
  rw [extractCitations, namedKeys]
  dsimp only
  rcases document.select config.citeTag with error | markers
  · dsimp only [Run.failed]
    rw [List.append_nil]
    exact h
  · exact citeAll_recordsOf keys (markers.flatMap markerKeys) ledger h

/-- Merging a block puts in entries and cites nothing. -/
theorem mergeBlock_cited (verbose : Bool) (block : Element Nat) (ledger : Ledger) :
    (mergeBlock verbose block ledger).state.cited = ledger.cited := by
  rw [mergeBlock]
  rcases Bibtex.readBibliography block.text with error | entries
  · rfl
  · rfl

theorem extractBibliography_cited (config : Config) (verbose : Bool) (document : Document)
    (ledger : Ledger) :
    ((extractBibliography config).run verbose document ledger).state.cited = ledger.cited := by
  rw [extractBibliography]
  dsimp only
  rcases document.select config.bibliographyScript with error | blocks
  · rfl
  · exact Run.forEach_keeps (fun known => known.cited = ledger.cited) (mergeBlock verbose) blocks
      (fun block known hknown => (mergeBlock_cited verbose block known).trans hknown) ledger rfl

theorem extractBibliography_failure_eq_none_iff (config : Config) (verbose : Bool)
    (document : Document) (ledger : Ledger) :
    ((extractBibliography config).run verbose document ledger).failure = none ↔
      isReadable config document = true := by
  have hblock (block : Element Nat) (ledger : Ledger) :
      (mergeBlock verbose block ledger).failure = none ↔
        (Bibtex.readBibliography block.text).isOk = true := by
    rw [mergeBlock]
    rcases Bibtex.readBibliography block.text with error | entries
    · simp [Run.failed, Except.isOk, Except.toBool]
    · simp [Except.isOk, Except.toBool]
  rw [extractBibliography, isReadable]
  dsimp only
  rcases document.select config.bibliographyScript with error | blocks
  · simp [Run.failed]
  · dsimp only
    rw [Run.forEach_failure_eq_none_iff _ (mergeBlock verbose) hblock blocks ledger,
      List.all_eq_true]

/-- A render records the keys of its markers, unless a bibliography block
    stopped it before they were read. -/
theorem render_recordsOf (config : Config) (verbose : Bool) (document : Document)
    (keys : List String) (ledger : Ledger) (h : RecordsOf keys ledger) :
    RecordsOf (keys ++ if isReadable config document then namedKeys config document else [])
      ((Pipeline.standard config).render verbose (document, ledger)).state.2 := by
  rw [Pipeline.render_ledger, Pipeline.standard, runStages, Run.forEach]
  -- The blocks are read first, and the markers only if that did not fail.
  set first := runStage .extract verbose document (extractBibliography config) ledger with hfirst
  have hkept : RecordsOf keys first.state :=
    (extractBibliography_cited config verbose document ledger).trans h
  have hfailure : first.failure = none ↔ isReadable config document = true := by
    rw [← extractBibliography_failure_eq_none_iff config verbose document ledger, hfirst, runStage,
      Option.map_eq_none_iff]
  by_cases hread : isReadable config document = true
  · rw [if_pos hread, Run.andThen_of_done _ _ (hfailure.mpr hread), Run.forEach]
    refine Run.andThen_keeps (RecordsOf _) _ _ ?_ fun _ h => h
    exact extractCitations_recordsOf config verbose document keys first.state hkept
  · rcases hfail : first.failure with _ | error
    · exact absurd (hfailure.mp hfail) hread
    · rw [if_neg hread, List.append_nil, Run.andThen_of_failure _ _ error hfail]
      exact hkept

namespace Operation

/-- One operation adds the keys that it records. -/
theorem apply_recordsOf (operation : Operation) (keys : List String) (ledger : Ledger)
    (h : RecordsOf keys ledger) :
    RecordsOf (keys ++ operation.recorded) (operation.apply ledger) := by
  cases operation with
  | cite key => exact cite_recordsOf keys key ledger h
  | insert key entry =>
      rw [recorded, List.append_nil]
      exact h
  | extract config verbose document =>
      exact extractCitations_recordsOf config verbose document keys ledger h
  | render config verbose document =>
      exact render_recordsOf config verbose document keys ledger h

/-- A run of operations adds what each of them records, in order. -/
theorem applyAll_recordsOf (operations : List Operation) (keys : List String) (ledger : Ledger)
    (h : RecordsOf keys ledger) :
    RecordsOf (keys ++ operations.flatMap recorded) (applyAll operations ledger) := by
  induction operations generalizing keys ledger with
  | nil =>
      rw [List.flatMap_nil, List.append_nil]
      exact h
  | cons operation operations ih =>
      have hrest := ih (keys ++ operation.recorded) (operation.apply ledger)
        (apply_recordsOf operation keys ledger h)
      rw [List.append_assoc, ← List.flatMap_cons] at hrest
      exact hrest

end Operation

/-- The number of a key is its place in a list without repetitions. -/
theorem Ledger.number_eq_some_iff (ledger : Ledger) (hnodup : ledger.cited.Nodup) (key : String)
    (n : Nat) :
    ledger.number key = some n ↔
      1 ≤ n ∧ n ≤ ledger.cited.length ∧ ledger.cited[n - 1]? = some key := by
  rw [Ledger.number, Option.map_eq_some_iff]
  constructor
  · rintro ⟨i, hi, rfl⟩
    rcases List.idxOf?_eq_some_iff.mp hi with ⟨hlt, hkey, -⟩
    refine ⟨by omega, by omega, ?_⟩
    rw [Nat.add_sub_cancel, List.getElem?_eq_getElem hlt, hkey]
  · rintro ⟨hpos, hle, hkey⟩
    refine ⟨n - 1, List.idxOf?_eq_some_iff.mpr ⟨by omega, ?_, ?_⟩, by omega⟩
    · exact (List.getElem?_eq_some_iff.mp hkey).2
    · -- An earlier place of the same key would repeat it.
      intro j hj hsame
      rcases List.getElem?_eq_some_iff.mp hkey with ⟨hlt, hat⟩
      have := (List.Nodup.getElem_inj_iff hnodup).mp (hsame.trans hat.symm)
      omega

/-- Numbering over a run of operations, on a ledger without citations. The run
    is cut into what came before some moment and what comes after it. -/
theorem numbering_of_operations (bibliography : Bibliography) (before after : List Operation) :
    let early := Operation.applyAll before { bibliography }
    let late := Operation.applyAll (before ++ after) { bibliography }
    late.cited.Nodup ∧
      late.cited = ((before ++ after).flatMap Operation.recorded).eraseDups ∧
      early.cited <+: late.cited ∧
      (∀ key n, early.number key = some n → late.number key = some n) ∧
      (∀ key n, late.number key = some n ↔
        1 ≤ n ∧ n ≤ late.cited.length ∧ late.cited[n - 1]? = some key) ∧
      ∀ key other n, late.number key = some n → late.number other = some n → key = other := by
  intro early late
  have hearly : early.cited = (before.flatMap Operation.recorded).eraseDups :=
    Operation.applyAll_recordsOf before [] { bibliography } rfl
  have hlate : late.cited = ((before ++ after).flatMap Operation.recorded).eraseDups :=
    Operation.applyAll_recordsOf (before ++ after) [] { bibliography } rfl
  have hnodup : late.cited.Nodup := by
    rw [hlate]
    exact nodup_eraseDups _
  -- The first appearances in a list begin with those in what it begins with.
  have hprefix : early.cited <+: late.cited := by
    rw [hearly, hlate, List.flatMap_append, List.eraseDups_append]
    exact List.prefix_append _ _
  have hnumber := late.number_eq_some_iff hnodup
  refine ⟨hnodup, hlate, hprefix, ?_, hnumber, ?_⟩
  · intro key n hkey
    -- The same place of the longer list has the same key.
    have hearlyNodup : early.cited.Nodup := hnodup.sublist hprefix.sublist
    rcases (early.number_eq_some_iff hearlyNodup key n).mp hkey with ⟨hpos, hle, hat⟩
    rcases hprefix with ⟨more, hmore⟩
    refine (hnumber key n).mpr ⟨hpos, ?_, ?_⟩
    · rw [← hmore, List.length_append]
      omega
    · rw [← hmore, List.getElem?_append_left (by omega)]
      exact hat
  · intro key other n hkey hother
    have hat := ((hnumber key n).mp hkey).2.2
    rw [((hnumber other n).mp hother).2.2] at hat
    exact (Option.some.inj hat).symm

end CiteRender
