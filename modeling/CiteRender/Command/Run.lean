import CiteRender.Citation.Keys
import CiteRender.Citation.Line
import CiteRender.Command.Failure
import CiteRender.Command.Plan
import CiteRender.Command.Request

/-!
# Running Commands

What each command does. A render makes its checks in a fixed order and stops
at the first that fails: the configuration, the article, its template, its
mark, the bibliography, the stages, and last the output. Nothing is written
before all but the last have passed.

## Main definitions

* `Attempt`: A plan that may fail.
* `planRender`, `planTemplate`, `planCite`: The plans of the commands.
* `Report`: What a command line comes to.
* `runCommandLine`: The plan of a command line.
-/

namespace CiteRender

/-- A plan that may fail. -/
abbrev Attempt (α : Type) := ExceptT Failure Plan α

namespace Attempt

/-- A check that is made without the surroundings. -/
def check {ε α : Type} (failure : ε → Failure) (result : Except ε α) : Attempt α :=
  ExceptT.mk (.done (result.mapError failure))

/-- The text of a file. -/
def file (failure : FileFault → Failure) (path : String) : Attempt String :=
  ExceptT.mk ((Plan.file path).bind fun text => .done (text.mapError failure))

/-- The text of the standard input. -/
def input : Attempt String :=
  ExceptT.mk (Plan.input.bind fun text => .done (text.mapError .standardInput))

/-- A text written to a file. -/
def save (path text : String) : Attempt Unit :=
  ExceptT.mk ((Plan.save path text).bind fun done => .done (done.mapError (.output path)))

end Attempt

/-- What a render gives: the text for the standard output, and the events. -/
structure Rendering where
  output : String
  events : List Event := []

/-- The configuration of a file, or the default one. -/
def loadConfig : Option String → Attempt Config
  | none => pure {}
  | some path => do
    let text ← Attempt.file (fun fault => .config path (.unreadable fault.message)) path
    Attempt.check (.config path) (Config.read text)

/-- The article of a file or of the standard input. -/
def loadArticle (path : String) : Attempt Document :=
  Document.parse <$>
    if Path.isInputMark path then Attempt.input else Attempt.file (.input path) path

/-- The references of a file. -/
def loadReferences (path : String) : Attempt Bibliography := do
  let text ← Attempt.file (fun fault => .bibliography path (.unreadable fault.message)) path
  Attempt.check (.bibliography path) (References.read path text)

/-- The references of a file, or none. -/
def loadPreliminary : Option String → Attempt Bibliography
  | none => pure Bibliography.empty
  | some path => loadReferences path

/-- Passes an article whose template has a known generation, if asked to. -/
def checkTemplate (asked : Bool) (document : Document) : Except TemplateError Unit :=
  if asked then (detectTemplate document).map fun _ => () else .ok ()

/-- Passes an article that is not marked as rendered, or any if forced. -/
def checkMark (options : RenderOptions) (config : Config) (document : Document) :
    Except Failure Unit :=
  if document.isMarked config.prerenderedAttribute && !options.force then
    .error (.alreadyRendered options.input config.prerenderedAttribute)
  else .ok ()

/-- The run of the pipeline that the options ask for. -/
def runPipeline (options : RenderOptions) (config : Config) (entries : Bibliography)
    (document : Document) : Run (Document × Ledger) PipelineError :=
  let pipeline := Pipeline.standard config
  let verbose := !options.quiet
  (pipeline.render verbose (document, { bibliography := entries })).andThen fun state =>
    if options.distillify then
      (pipeline.distillify verbose state.2 state.1).mapState fun document => (document, state.2)
    else { state }

/-- The result of a run that did not fail. -/
def Run.result {σ ε : Type} (run : Run σ ε) : Except ε (σ × List Event) :=
  match run.failure with
  | some error => .error error
  | none => .ok (run.state, run.events)

/-- Puts an article where the options say. -/
def deliver (output : Option String) (html : String) (events : List Event) : Attempt Rendering :=
  match output with
  | some path => (fun _ => ⟨"", events⟩) <$> Attempt.save path html
  | none => pure ⟨html, events⟩

/-- Renders an article. -/
def planRender (options : RenderOptions) : Attempt Rendering := do
  let config ← loadConfig options.config
  let document ← loadArticle options.input
  Attempt.check .template (checkTemplate options.checkTemplate document)
  Attempt.check id (checkMark options config document)
  let entries ← loadPreliminary options.bibliography
  let run := runPipeline options config entries document
  let (state, events) ← Attempt.check .pipeline run.result
  deliver options.output state.1.html events

/-- Tells the generation of the template of an article. -/
def planTemplate (input : String) : Attempt Rendering := do
  let document ← loadArticle input
  let generation ← Attempt.check .template (detectTemplate document)
  return ⟨generation.label ++ "\n", []⟩

/-- Lines, each with its end. -/
def lines (texts : List String) : String :=
  String.join (texts.map (· ++ "\n"))

/-- The citation of keys in a style. -/
def citeIn (style : Style) (keys : List String) (ledger : Ledger) : String :=
  match style with
  | .numeric => lines [numericText (ledger.numeric keys)]
  | .authorYear => lines [authorYearText (ledger.authorYear keys)]
  | .full => lines <| keys.map fun key =>
      String.ofList (Text.trimEnd (lineText (bibliographyLine (ledger.entry key))).toList)
  | .lookup => lines (keys.map fun key => (lookupAddress (ledger.entry key)).getD "?")

/-- Cites keys, which are numbered in their order. -/
def planCite (keys path : String) (style : Style) : Attempt Rendering := do
  let entries ← loadReferences path
  let keys := splitKeys keys
  let ledger := Ledger.citeAll { bibliography := entries } keys
  return ⟨citeIn style keys ledger, []⟩

/-- What a request does. -/
def Request.plan : Request → Attempt Rendering
  | render options => planRender options
  | template input => planTemplate input
  | cite keys bibliography style => planCite keys bibliography style

/-- What a command line comes to: the exit code, the texts for the standard
    output and the standard error, and the events. -/
structure Report where
  code : Nat
  output : String := ""
  complaint : String := ""
  events : List Event := []

/-- The line that tells the version. -/
def versionText : String :=
  "distill-render 0.1.0\n"

/-- How the command line is used. -/
def helpText : String :=
  "Prerender citations and bibliographies in Distill article HTML\n\n" ++
  "Usage:\n" ++
  "  distill-render render INPUT [-b FILE] [-o FILE] [--config FILE] [--distillify]\n" ++
  "                 [--check-template] [--force] [-q]\n" ++
  "  distill-render template INPUT\n" ++
  "  distill-render cite KEYS -b FILE [-s numeric|author-year|full|lookup]\n"

/-- The report of a command line that is no request. -/
def Stop.report : Stop → Report
  | help => { code := 0, output := helpText }
  | version => { code := 0, output := versionText }
  | misuse m => { code := 2, complaint := "error: " ++ m.message ++ "\n" }

/-- The report of a request. -/
def reportOf : Except Failure Rendering → Report
  | .ok rendering => { code := 0, output := rendering.output, events := rendering.events }
  | .error failure => { code := failure.code, complaint := failure.report }

/-- The plan of a command line. -/
def runCommandLine (arguments : List String) : Plan Report :=
  match Request.read arguments with
  | .error stop => .done stop.report
  | .ok request => request.plan.run.bind fun result => .done (reportOf result)

end CiteRender
