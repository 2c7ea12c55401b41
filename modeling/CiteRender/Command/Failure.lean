import CiteRender.Bibliography.References
import CiteRender.Command.Files
import CiteRender.Config.Reader
import CiteRender.Render.Pipeline
import CiteRender.Template

/-!
# Failures

Why a command fails. Each kind of failure has an exit code of its own, and
most come with a hint.

## Main definitions

* `Failure`: Why a command fails.
* `Failure.code`: Its exit code.
* `Failure.report`: What is said of it.
-/

namespace CiteRender

/-- Why a command fails. Files are given by their paths. -/
inductive Failure where
  | config (path : String) (error : Config.Error)
  | input (path : String) (fault : FileFault)
  | standardInput (fault : FileFault)
  | template (error : TemplateError)
  /-- the body of an article has the attribute that marks it as rendered -/
  | alreadyRendered (path mark : String)
  | bibliography (path : String) (error : References.Error)
  | pipeline (error : PipelineError)
  | output (path : String) (fault : FileFault)
  deriving DecidableEq

namespace Failure

/-- The exit code of a failure. -/
def code : Failure → Nat
  | input _ _ => 10
  | standardInput _ => 10
  | bibliography _ _ => 11
  | template _ => 12
  | alreadyRendered _ _ => 13
  | pipeline _ => 14
  | output _ _ => 15
  | config _ _ => 16

/-- What is said of a file. -/
def ofFile (path message : String) : String :=
  "\x27" ++ path ++ "\x27: " ++ message

/-- The wording of a failure. -/
def message : Failure → String
  | config path error => ofFile path error.message
  | input path fault => ofFile path fault.message
  | standardInput fault => "failed to read from stdin: " ++ fault.message
  | template error => error.message
  | alreadyRendered path mark => "\x27" ++ path ++ "\x27 is already marked " ++ mark
  | bibliography path error => ofFile path error.message
  | pipeline error => error.message
  | output path fault => ofFile path fault.message

/-- What may help with the failures of an exit code. -/
def hint : Failure → Option String
  | input _ _ => some "verify the file path is correct"
  | standardInput _ => some "verify the file path is correct"
  | bibliography _ _ =>
    some ("use a .bib file, a JSON array of entries with \"id\", " ++
      "a JSON object keyed by citation key, or JSONL")
  | template _ => some "the article should load template.v1.js or template.v2.js"
  | alreadyRendered _ _ =>
    some "rendering again appends a second bibliography; pass --force to do it anyway"
  | pipeline _ => none
  | output _ _ => some "check that the output directory exists and is writable"
  | config _ _ =>
    some "keys are cite-tag, bibliography-tag, bibliography-script, prerendered-attribute"

/-- What is said of a failure. -/
def report (failure : Failure) : String :=
  "Error: " ++ failure.message ++
    ((failure.hint.map fun hint => "\n  hint: " ++ hint).getD "") ++ "\n"

end Failure

end CiteRender
