import CiteRender.Document.Query

/-!
# Template Generations

An article loads the runtime of its template by a script. The address of the
script tells the generation. When several scripts do, the last one decides,
but an address of an unknown generation anywhere is an error.

## Main definitions

* `Generation`: The two generations.
* `TemplateError`: Why a document has no generation.
* `generationOf`: What one address tells.
* `detectTemplate`: The generation of a document.
-/

namespace CiteRender

/-- A generation of the template. -/
inductive Generation where
  | legacy
  | current
  deriving DecidableEq

/-- The label of a generation. -/
def Generation.label : Generation → String
  | legacy => "v1"
  | current => "v2"

/-- Why a document has no generation. -/
inductive TemplateError where
  | noMarkers
  | unknownMarker (source : String)
  deriving DecidableEq

/-- The wording of an error. -/
def TemplateError.message : TemplateError → String
  | noMarkers => "Does not seem to use the Distill template at all"
  | unknownMarker source =>
    "Uses the Distill template, but an unknown version: " ++ source

/-- What the address of one script tells: a generation, nothing, or an error. -/
def generationOf (source : String) : Except TemplateError (Option Generation) :=
  let mentions (part : String) : Bool := Text.contains part.toList source.toList
  if mentions "template.v1.js" then .ok (some .legacy)
  else if mentions "template.v2.js" then .ok (some .current)
  else if mentions "template." then .error (.unknownMarker source)
  else .ok none

/-- The generation that some addresses tell in order, after those that told
    `found`. -/
def lastGeneration (found : Option Generation) :
    List String → Except TemplateError (Option Generation)
  | [] => .ok found
  | source :: rest =>
    match generationOf source with
    | .error error => .error error
    | .ok told => lastGeneration (told.or found) rest

/-- The addresses of the scripts of a document; an absent one is empty. -/
def scriptSources (document : Document) : List String :=
  (document.matching [.compound [.named "script".toList]]).map fun script =>
    (script.attribute? "src").getD ""

/-- The generation of a document. -/
def detectTemplate (document : Document) : Except TemplateError Generation :=
  match lastGeneration none (scriptSources document) with
  | .error error => .error error
  | .ok none => .error .noMarkers
  | .ok (some generation) => .ok generation

/-- Whether a document uses the current generation. -/
def usesCurrentTemplate (document : Document) : Except TemplateError Bool :=
  (detectTemplate document).map fun generation => generation = .current

end CiteRender
