import CiteRender.Bibtex.Reader
import CiteRender.Citation.Keys
import CiteRender.Config.Basic
import CiteRender.Render.Stage

/-!
# Extraction

The two stages that fill the ledger from the document. The bibliography is
merged from the script blocks in document order, so a later block overwrites
an earlier one; a block that is no BibTeX stops the stage, and the blocks
before it stay merged. The citations are the keys of the markers, in
document order.

## Main definitions

* `mergeBlock`, `extractBibliography`: The bibliography of an article.
* `markerKeys`, `extractCitations`: The citations of an article.
-/

namespace CiteRender

/-- Merges the bibliography of one script block. -/
def mergeBlock (verbose : Bool) (block : Element Nat) (ledger : Ledger) :
    Run Ledger StageError :=
  match Bibtex.readBibliography block.text with
  | .error error => .failed ledger (.bibtex error)
  | .ok entries =>
    { state := { ledger with bibliography := Bibliography.merge ledger.bibliography entries }
      events := notice verbose (.parsedBlock entries.size) }

/-- Reads the bibliography from the script blocks that a selector finds. -/
def extractBibliography (config : Config) : Extractor where
  name := "ExtractBibliography"
  run verbose document ledger :=
    match document.select config.bibliographyScript with
    | .error error => .failed ledger (.document error)
    | .ok blocks => Run.forEach (mergeBlock verbose) blocks ledger

/-- The keys that a marker names. -/
def markerKeys (marker : Element Nat) : List String :=
  ((marker.attribute? "key").map splitKeys).getD []

/-- Records the keys of the markers that a selector finds. -/
def extractCitations (config : Config) : Extractor where
  name := "ExtractCitations"
  run verbose document ledger :=
    match document.select config.citeTag with
    | .error error => .failed ledger (.document error)
    | .ok markers =>
      let ledger := ledger.citeAll (markers.flatMap markerKeys)
      { state := ledger
        events := notice verbose (.collected markers.length ledger.cited.length) }

end CiteRender
