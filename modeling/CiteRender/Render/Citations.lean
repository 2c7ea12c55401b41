import CiteRender.Citation.Line
import CiteRender.Render.Extraction

/-!
# Rendering Citations

The stage that writes the numeric form of its keys into each marker, and
appends the list of references to the first bibliography placeholder. A
marker without keys shows the placeholder for the empty key. The markers are
found before any is filled, so a marker inside another is filled even
though it has lost its place by then.

Running the stage twice appends a second list; nothing is removed.

## Main definitions

* `shownKeys`: The keys whose numbers a marker shows.
* `fillMarker`: The effect on one marker.
* `appendItem`, `appendReferences`: The list of references.
* `renderCitations`: The stage.
-/

namespace CiteRender

/-- The keys whose numbers a marker shows: those it names, or the empty key. -/
def shownKeys (marker : Element Nat) : List String :=
  match markerKeys marker with
  | [] => [""]
  | keys => keys

/-- The numeric form that a marker shows. -/
def markerReferences (ledger : Ledger) (marker : Element Nat) : List (Reference Nat) :=
  ledger.numeric (shownKeys marker)

/-- What is reported of a marker: keys with an entry but no number, and that
    the marker is degraded. -/
def markerEvents (ledger : Ledger) (marker : Element Nat) : List Event :=
  (ledger.neverCited (shownKeys marker)).map Event.neverCited ++
    if isDegraded (markerReferences ledger marker) then [.unresolved (markerKeys marker)] else []

/-- The document with one marker filled. -/
def fillMarker (ledger : Ledger) (document : Document) (marker : Element Nat) : Document :=
  document.setText marker.label (numericText (markerReferences ledger marker))

/-- The document with markers filled in order. -/
def fillMarkers (ledger : Ledger) (document : Document) (markers : List (Element Nat)) :
    Document :=
  markers.foldl (fillMarker ledger) document

/-- Appends the line of a key to a list. -/
def appendItem (ledger : Ledger) (list : Nat) (document : Document) (key : String) :
    Except DocumentError Document :=
  (document.createElement "li").map fun created =>
    (created.1.setText created.2 (lineText (bibliographyLine (ledger.entry key)))).appendChild
      list created.2

/-- Appends the list of references to a placeholder. -/
def appendReferences (ledger : Ledger) (document : Document) (placeholder : Nat) :
    Except DocumentError Document :=
  (document.createElement "ol").bind fun created =>
    (ledger.cited.foldlM (appendItem ledger created.2) created.1).map fun document =>
      document.appendChild placeholder created.2

/-- The document with its list of references, if it has a placeholder. -/
def fillBibliography (config : Config) (ledger : Ledger) (document : Document) :
    Except DocumentError Document :=
  (document.selectFirst config.bibliographyTag).bind fun found =>
    match found with
    | none => .ok document
    | some placeholder => appendReferences ledger document placeholder.label

/-- The number of markers that show a placeholder. -/
def degradedCount (ledger : Ledger) (markers : List (Element Nat)) : Nat :=
  markers.countP fun marker => isDegraded (markerReferences ledger marker)

/-- Fills the markers and the bibliography. -/
def renderCitations (config : Config) : Transform where
  name := "Bibliography"
  run verbose ledger document :=
    match document.select config.citeTag with
    | .error error => .failed document (.document error)
    | .ok markers =>
      let marked := fillMarkers ledger document markers
      let warnings := markers.flatMap (markerEvents ledger)
      match fillBibliography config ledger marked with
      | .error error =>
        -- The markers stay filled: a failure leaves what was done before it.
        { state := marked, events := warnings, failure := some (.document error) }
      | .ok filled =>
        { state := filled
          events := warnings ++
            notice verbose
              (.rendered ledger.cited.length (degradedCount ledger markers)) }

end CiteRender
