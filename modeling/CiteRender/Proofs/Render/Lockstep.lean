import CiteRender.Proofs.Bibliography.Layouts
import CiteRender.Proofs.Render.Numbering

/-!
# Runs in Lockstep

Two runs of the same stages, on inputs or from states that are not the same. If
each step fails alike from related states and leaves related states, so do whole
runs, by the same two facts on going on from a run that single runs rest on.

The relation that is carried through extraction is one of ledgers. They cite the
same keys, and what is asked of the entries of a key may be anything that holds
once the two entries are the same. A block puts the same entries into both
ledgers, so it can only make them more alike. Of the documents, only the texts of
their blocks and the keys of their markers matter.

## Main definitions

* `Run.Alike`: Runs that fail alike in related states.
* `Ledger.Alike`: Ledgers with the same citations and related entries.
* `ReadsAlike`: Documents that extractors cannot tell apart.

## Theorems

* `Run.Alike.andThen`, `Run.Alike.forEach`: Runs made of runs.
* `getElem?_merge_alike`: Bibliographies overwritten by the same entries.
* `extract_alike`: Extraction from documents that read alike.
-/

namespace CiteRender

namespace Run

variable {α σ ε : Type}

/-- Two runs fail for the same reason, or both do not, and end in related states. -/
structure Alike (P : σ → σ → Prop) (run run' : Run σ ε) : Prop where
  failure : run.failure = run'.failure
  state : P run.state run'.state

theorem Alike.andThen {P : σ → σ → Prop} {run run' : Run σ ε} {next next' : σ → Run σ ε}
    (h : Alike P run run') (hnext : ∀ s s', P s s' → Alike P (next s) (next' s')) :
    Alike P (run.andThen next) (run'.andThen next') := by
  rcases hfail : run.failure with _ | error
  · have hfail' := h.failure.symm.trans hfail
    rcases andThen_outcome run next hfail with ⟨hstate, hfailure⟩
    rcases andThen_outcome run' next' hfail' with ⟨hstate', hfailure'⟩
    have hlater := hnext _ _ h.state
    exact ⟨by rw [hfailure, hfailure', hlater.failure], by rw [hstate, hstate']; exact hlater.state⟩
  · rw [andThen_of_failure run next error hfail,
      andThen_of_failure run' next' error (h.failure.symm.trans hfail)]
    exact h

/-- Runs over lists with related items, if each step keeps the states related. -/
theorem Alike.forEach {P : σ → σ → Prop} {S : α → α → Prop} {step step' : α → σ → Run σ ε}
    {items items' : List α} (hitems : List.Forall₂ S items items')
    (hstep : ∀ item item', S item item' → ∀ s s', P s s' → Alike P (step item s) (step' item' s')) :
    ∀ s s', P s s' → Alike P (Run.forEach step items s) (Run.forEach step' items' s') := by
  induction hitems with
  | nil => exact fun s s' h => ⟨rfl, h⟩
  | cons hitem _ ih => exact fun s s' h => (hstep _ _ hitem s s' h).andThen ih

end Run

/-- Stages of one name in lists of stages. -/
theorem runStage_alike {ρ σ : Type} {P : σ → σ → Prop} {phase : Phase} {verbose verbose' : Bool}
    {input input' : ρ} {stage : Stage ρ σ} {s s' : σ}
    (h : Run.Alike P (stage.run verbose input s) (stage.run verbose' input' s')) :
    Run.Alike P (runStage phase verbose input stage s) (runStage phase verbose' input' stage s') :=
  ⟨congrArg (Option.map _) h.failure, h.state⟩

/-- Ledgers that cite the same keys and whose entries for each key are related. -/
structure Ledger.Alike (R : String → Option Entry → Option Entry → Prop) (ledger ledger' : Ledger) :
    Prop where
  cited : ledger.cited = ledger'.cited
  entries : ∀ key, R key (ledger.entry key) (ledger'.entry key)

/-- Results that are the same when seen through a function: one error, or two values that
    it does not tell apart. -/
theorem error_or_ok_of_map_eq {α β ε : Type} {f : α → β} {a b : Except ε α}
    (h : a.map f = b.map f) :
    (∃ error, a = .error error ∧ b = .error error) ∨
      ∃ x y, a = .ok x ∧ b = .ok y ∧ f x = f y := by
  rcases a with error | x <;> rcases b with error' | y
  · exact Or.inl ⟨error, rfl, congrArg Except.error (Except.error.inj h).symm⟩
  · exact absurd h (by simp [Except.map])
  · exact absurd h (by simp [Except.map])
  · exact Or.inr ⟨x, y, rfl, rfl, Except.ok.inj h⟩

/-- Documents that extractors cannot tell apart: their bibliography blocks have the same
    texts, and their markers name the same keys. -/
structure ReadsAlike (config : Config) (document document' : Document) : Prop where
  blocks : (document.select config.bibliographyScript).map (List.map Element.text) =
    (document'.select config.bibliographyScript).map (List.map Element.text)
  keys : (document.select config.citeTag).map (List.flatMap markerKeys) =
    (document'.select config.citeTag).map (List.flatMap markerKeys)

section

variable {R : String → Option Entry → Option Entry → Prop}

/-- Overwriting two bibliographies with the same entries. -/
theorem getElem?_merge_alike (hR : ∀ key entry, R key (some entry) (some entry))
    (entries entries' later : Bibliography) (h : ∀ key, R key entries[key]? entries'[key]?) :
    ∀ key, R key (Bibliography.merge entries later)[key]?
      (Bibliography.merge entries' later)[key]? := by
  intro key
  rw [Bibliography.getElem?_merge, Bibliography.getElem?_merge]
  rcases later[key]? with _ | entry
  · exact h key
  · exact hR key entry

theorem mergeBlock_alike (hR : ∀ key entry, R key (some entry) (some entry))
    (verbose verbose' : Bool) (block block' : Element Nat) (htext : block.text = block'.text)
    (ledger ledger' : Ledger) (h : Ledger.Alike R ledger ledger') :
    Run.Alike (Ledger.Alike R) (mergeBlock verbose block ledger)
      (mergeBlock verbose' block' ledger') := by
  rw [mergeBlock, mergeBlock, htext]
  rcases Bibtex.readBibliography block'.text with error | entries
  · exact ⟨rfl, h⟩
  · exact ⟨rfl, h.cited, getElem?_merge_alike hR _ _ entries h.entries⟩

theorem citeAll_alike (keys : List String) (ledger ledger' : Ledger)
    (h : Ledger.Alike R ledger ledger') :
    Ledger.Alike R (ledger.citeAll keys) (ledger'.citeAll keys) := by
  induction keys generalizing ledger ledger' with
  | nil => exact h
  | cons key keys ih =>
      refine ih _ _ ?_
      rw [Ledger.cite, Ledger.cite, ← h.cited]
      by_cases hkey : key ∈ ledger.cited
      · rw [if_pos hkey, if_pos hkey]
        exact h
      · rw [if_neg hkey, if_neg hkey]
        exact ⟨rfl, h.entries⟩

/-- Extraction from documents that read alike. -/
theorem extract_alike (hR : ∀ key entry, R key (some entry) (some entry)) (config : Config)
    (verbose verbose' : Bool) (document document' : Document)
    (hread : ReadsAlike config document document') (ledger ledger' : Ledger)
    (h : Ledger.Alike R ledger ledger') :
    Run.Alike (Ledger.Alike R)
      (runStages .extract verbose document (Pipeline.standard config).extractors ledger)
      (runStages .extract verbose' document' (Pipeline.standard config).extractors ledger') := by
  -- Blocks are taken one after the other, markers all at once.
  have hbibliography (ledger ledger' : Ledger) (h : Ledger.Alike R ledger ledger') :
      Run.Alike (Ledger.Alike R) ((extractBibliography config).run verbose document ledger)
        ((extractBibliography config).run verbose' document' ledger') := by
    rw [extractBibliography]
    dsimp only
    rcases error_or_ok_of_map_eq hread.blocks with ⟨error, hblocks, hblocks'⟩ |
      ⟨blocks, blocks', hblocks, hblocks', htexts⟩
    · rw [hblocks, hblocks']
      exact ⟨rfl, h⟩
    · rw [hblocks, hblocks']
      have hitems : List.Forall₂ (fun block block' => block.text = block'.text) blocks blocks' := by
        rwa [← List.forall₂_eq_eq_eq, List.forall₂_map_left_iff, List.forall₂_map_right_iff]
          at htexts
      exact Run.Alike.forEach hitems (mergeBlock_alike hR verbose verbose') ledger ledger' h
  have hcitations (ledger ledger' : Ledger) (h : Ledger.Alike R ledger ledger') :
      Run.Alike (Ledger.Alike R) ((extractCitations config).run verbose document ledger)
        ((extractCitations config).run verbose' document' ledger') := by
    rw [extractCitations]
    dsimp only
    rcases error_or_ok_of_map_eq hread.keys with ⟨error, hmarkers, hmarkers'⟩ |
      ⟨markers, markers', hmarkers, hmarkers', hkeys⟩
    · rw [hmarkers, hmarkers']
      exact ⟨rfl, h⟩
    · rw [hmarkers, hmarkers']
      dsimp only
      rw [hkeys]
      exact ⟨rfl, citeAll_alike _ ledger ledger' h⟩
  refine (runStage_alike (hbibliography ledger ledger' h)).andThen fun l l' hl => ?_
  exact (runStage_alike (hcitations l l' hl)).andThen fun l l' hl => ⟨rfl, hl⟩

end

end CiteRender
