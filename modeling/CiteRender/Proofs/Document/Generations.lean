import CiteRender.Proofs.Document.Elements
import CiteRender.Template

/-!
# The Generation of a Document

What decides the generation of a template, without the loop that finds it. The loop goes
through the addresses of the scripts, overwrites what it has found, and leaves off at an
address that it does not know. Two addresses decide what it gives: the first that names the
template but no known generation, wherever it stands, and if there is none the last that
names the template at all.

The tests of an address overlap, as both known names begin with the name of the template and
an address may hold both. So an address is told apart by what it mentions and not by which
test it passes first, and the older generation counts where both are mentioned.

## Main definitions

* `Mentions`: An address has a text in it.
* `NamesTemplate`, `NamesUnknown`: The addresses that decide.
* `namedGeneration`: The generation that an address names.

## Theorems

* `generationOf_eq`: What one address tells.
* `lastGeneration_eq`: What some addresses tell.
* `scriptSources_eq`: The addresses of a document.
* `detectTemplate_eq`: Which address decides.
* `detectTemplate_decides`: Each answer with the addresses it is given for.
-/

namespace CiteRender

/-- A text that is looked for is found exactly if it occurs. -/
theorem Text.contains_iff (part s : List Char) : contains part s = true ↔ part <:+: s := by
  induction s with
  | nil => rw [contains, List.isEmpty_iff, List.infix_nil]
  | cons c s ih =>
      rw [contains, Bool.or_eq_true, ih, List.isPrefixOf_iff_prefix, List.infix_cons_iff]

/-- An address has a text in it. -/
def Mentions (part source : String) : Prop :=
  part.toList <:+: source.toList

instance (part source : String) : Decidable (Mentions part source) :=
  decidable_of_iff _ (Text.contains_iff part.toList source.toList)

/-- An address of some generation of the template. -/
def NamesTemplate (source : String) : Prop :=
  Mentions "template." source

instance : DecidablePred NamesTemplate := fun source =>
  inferInstanceAs (Decidable (Mentions "template." source))

/-- An address of a generation that is not known. -/
def NamesUnknown (source : String) : Prop :=
  NamesTemplate source ∧ ¬ Mentions "template.v1.js" source ∧ ¬ Mentions "template.v2.js" source

instance : DecidablePred NamesUnknown := fun source =>
  inferInstanceAs (Decidable (NamesTemplate source ∧ ¬ Mentions "template.v1.js" source ∧
    ¬ Mentions "template.v2.js" source))

/-- The generation that a known address of the template names. -/
def namedGeneration (source : String) : Generation :=
  if Mentions "template.v1.js" source then .legacy else .current

/-- Both known names begin with the name of the template. -/
theorem Mentions.namesTemplate {name source : String} (h : Mentions name source)
    (hname : "template.".toList <+: name.toList) : NamesTemplate source :=
  hname.isInfix.trans h

/-- What one address tells. -/
theorem generationOf_eq (source : String) :
    generationOf source =
      if NamesUnknown source then .error (.unknownMarker source)
      else .ok (if NamesTemplate source then some (namedGeneration source) else none) := by
  have hmentions (part : String) :
      Text.contains part.toList source.toList = true ↔ Mentions part source :=
    Text.contains_iff part.toList source.toList
  simp only [generationOf, hmentions]
  -- In the order of the tests: each case has what the earlier ones rule out.
  by_cases hlegacy : Mentions "template.v1.js" source
  · have htemplate := hlegacy.namesTemplate (by decide)
    simp [hlegacy, htemplate, NamesUnknown, namedGeneration]
  · by_cases hcurrent : Mentions "template.v2.js" source
    · have htemplate := hcurrent.namesTemplate (by decide)
      simp [hlegacy, hcurrent, htemplate, NamesUnknown, namedGeneration]
    · by_cases htemplate : NamesTemplate source
      · have hmention : Mentions "template." source := htemplate
        simp [hlegacy, hcurrent, htemplate, hmention, NamesUnknown]
      · have hmention : ¬ Mentions "template." source := htemplate
        simp [hlegacy, hcurrent, htemplate, hmention, NamesUnknown]

/-- What some addresses tell, after those that told `found`. -/
theorem lastGeneration_eq (sources : List String) :
    ∀ found, lastGeneration found sources =
      match sources.find? NamesUnknown with
      | some source => .error (.unknownMarker source)
      | none => .ok (((sources.filter NamesTemplate).getLast?.map namedGeneration).or found) := by
  induction sources with
  | nil => exact fun _ => rfl
  | cons source sources ih =>
      intro found
      rw [lastGeneration, generationOf_eq]
      by_cases hunknown : NamesUnknown source
      · rw [if_pos hunknown, List.find?_cons_of_pos (by simpa using hunknown)]
      · rw [if_neg hunknown, List.find?_cons_of_neg (by simpa using hunknown)]
        dsimp only
        rw [ih]
        by_cases htemplate : NamesTemplate source
        · -- What was found before is forgotten, and what comes later forgets this one.
          rw [if_pos htemplate, List.filter_cons_of_pos (by simpa using htemplate),
            List.getLast?_cons]
          cases (sources.filter NamesTemplate).getLast? <;> rfl
        · rw [if_neg htemplate, List.filter_cons_of_neg (by simpa using htemplate), Option.none_or]

/-- The addresses of a document are those of its scripts in document order. -/
theorem scriptSources_eq (document : Document) :
    scriptSources document =
      ((Node.elementsIn document.nodes).filter fun e => e.tag.name = "script").map fun e =>
        (e.attribute? "src").getD "" := by
  rw [scriptSources, document.matching_named "script" (by decide)]

/-- Which address decides. -/
theorem detectTemplate_eq (document : Document) :
    detectTemplate document =
      match (scriptSources document).find? NamesUnknown,
        ((scriptSources document).filter NamesTemplate).getLast? with
      | some source, _ => .error (.unknownMarker source)
      | none, none => .error .noMarkers
      | none, some source => .ok (namedGeneration source) := by
  rw [detectTemplate, lastGeneration_eq]
  rcases hunknown : (scriptSources document).find? NamesUnknown with _ | source
  · rcases hlast : ((scriptSources document).filter NamesTemplate).getLast? with _ | source
    all_goals rw [hunknown, hlast]; rfl
  · rw [hunknown]

/-- An address comes first among those with a property. -/
theorem find?_eq_some_iff_split (p : String → Prop) [DecidablePred p] (sources : List String)
    (source : String) :
    sources.find? p = some source ↔
      ∃ before after, sources = before ++ source :: after ∧ p source ∧ ∀ s ∈ before, ¬ p s := by
  rw [List.find?_eq_some_iff_append]
  constructor
  · rintro ⟨hp, before, after, hsplit, hbefore⟩
    exact ⟨before, after, hsplit, of_decide_eq_true hp, by simpa using hbefore⟩
  · rintro ⟨before, after, hsplit, hp, hbefore⟩
    exact ⟨decide_eq_true hp, before, after, hsplit, by simpa using hbefore⟩

/-- An address comes last among those with a property. -/
theorem getLast?_filter_eq_some_iff_split (p : String → Prop) [DecidablePred p]
    (sources : List String) (source : String) :
    (sources.filter p).getLast? = some source ↔
      ∃ before after, sources = before ++ source :: after ∧ p source ∧ ∀ s ∈ after, ¬ p s := by
  rw [List.getLast?_filter, find?_eq_some_iff_split]
  -- What comes before it in the reverse is what comes after it.
  constructor
  · rintro ⟨before, after, hsplit, hp, hbefore⟩
    refine ⟨after.reverse, before.reverse, ?_, hp, by simpa using hbefore⟩
    rw [← List.reverse_reverse sources, hsplit]
    simp
  · rintro ⟨before, after, rfl, hp, hafter⟩
    exact ⟨after.reverse, before.reverse, by simp, hp, by simpa using hafter⟩

/-- Each answer with the addresses it is given for. One that is not known decides wherever it
    stands, and is the first of them. If none mentions the template there is no generation.
    Otherwise the last that mentions it decides. -/
theorem detectTemplate_decides (document : Document) :
    let sources := ((Node.elementsIn document.nodes).filter fun e => e.tag.name = "script").map
      fun e => (e.attribute? "src").getD ""
    (∀ source, detectTemplate document = .error (.unknownMarker source) ↔
      ∃ before after, sources = before ++ source :: after ∧ NamesUnknown source ∧
        ∀ s ∈ before, ¬ NamesUnknown s) ∧
    (detectTemplate document = .error .noMarkers ↔ ∀ s ∈ sources, ¬ NamesTemplate s) ∧
    ∀ generation, detectTemplate document = .ok generation ↔
      (∀ s ∈ sources, ¬ NamesUnknown s) ∧
        ∃ source, (∃ before after, sources = before ++ source :: after ∧ NamesTemplate source ∧
          ∀ s ∈ after, ¬ NamesTemplate s) ∧ generation = namedGeneration source := by
  intro sources
  have hsources : scriptSources document = sources := scriptSources_eq document
  have hdetect := detectTemplate_eq document
  have hnone : (∀ s ∈ sources, ¬ NamesTemplate s) ↔
      (sources.filter NamesTemplate).getLast? = none := by
    simp
  have hknown : (∀ s ∈ sources, ¬ NamesUnknown s) ↔ sources.find? NamesUnknown = none := by
    simp
  -- An address that is not known is one of the template, so there is a last one too.
  have hlast : (sources.filter NamesTemplate).getLast? = none →
      sources.find? NamesUnknown = none :=
    fun h => hknown.mp fun s hs hunknown => hnone.mpr h s hs hunknown.1
  -- Each answer is now about two lookups in the list, and nothing else is known of them.
  simp only [← find?_eq_some_iff_split, ← getLast?_filter_eq_some_iff_split]
  rw [hsources] at hdetect
  rw [hnone, hknown, hdetect]
  generalize sources.find? NamesUnknown = first at hlast ⊢
  generalize (sources.filter NamesTemplate).getLast? = last at hlast ⊢
  rcases first with _ | first
  · rcases last with _ | last <;> simp [eq_comm]
  · rcases last with _ | last
    · exact absurd (hlast rfl) (by simp)
    · simp

end CiteRender
