import CiteRender.Bibtex.Record
import CiteRender.Citation.Ledger
import CiteRender.Document.Edit
import CiteRender.Render.Event

/-!
# Stages

A stage of a render reads one thing and changes another: an extractor reads
the document and changes the ledger, a transform reads the ledger and
changes the document. A stage that fails may have changed something before,
so the result of a run always has a state, the events on the way to it, and
a failure if there was one.

## Main definitions

* `Run`: What came of running something.
* `Run.andThen`: Running something else, unless the first failed.
* `StageError`: Why a stage fails.
* `Stage`, `Extractor`, `Transform`: The stages.
-/

namespace CiteRender

/-- What came of running something: the state it left, the events on the way,
    and why it failed, if it did. -/
structure Run (σ ε : Type) where
  state : σ
  events : List Event := []
  failure : Option ε := none

namespace Run

variable {σ τ ε : Type}

/-- Goes on from the state of a run, unless it failed. -/
def andThen (run : Run σ ε) (next : σ → Run σ ε) : Run σ ε :=
  match run.failure with
  | some _ => run
  | none =>
    let later := next run.state
    { later with events := run.events ++ later.events }

/-- The run with events before its own. -/
def after (events : List Event) (run : Run σ ε) : Run σ ε :=
  { run with events := events ++ run.events }

/-- The run with its state seen in another way. -/
def mapState (f : σ → τ) (run : Run σ ε) : Run τ ε :=
  { state := f run.state, events := run.events, failure := run.failure }

/-- A run that fails at once. -/
def failed (state : σ) (error : ε) : Run σ ε :=
  { state, failure := some error }

/-- Runs a step for each item of a list in order, until one fails. -/
def forEach {α : Type} (step : α → σ → Run σ ε) : List α → σ → Run σ ε
  | [], state => { state }
  | item :: rest, state => (step item state).andThen (forEach step rest)

end Run

/-- Why a stage fails. -/
inductive StageError where
  | document (error : DocumentError)
  | bibtex (error : Bibtex.SyntaxError)
  | failed (reason : String)
  deriving DecidableEq

/-- The wording of an error. -/
def StageError.message : StageError → String
  | document error => error.message
  | bibtex error => error.message
  | failed reason => reason

/-- A stage that reads a `ρ` and changes a `σ`. The flag asks for notices. -/
structure Stage (ρ σ : Type) where
  name : String
  run : (verbose : Bool) → ρ → σ → Run σ StageError

/-- A stage that reads the document and changes the ledger. -/
abbrev Extractor := Stage Document Ledger

/-- A stage that reads the ledger and changes the document. -/
abbrev Transform := Stage Ledger Document

end CiteRender
