import CiteRender.Command.Arguments

/-!
# Requests

What a command line asks for. There are three commands, and each has a form
that its arguments must fit.

## Main definitions

* `Style`, `RenderOptions`, `Request`: What can be asked for.
* `renderForm`, `templateForm`, `citeForm`: The forms of the commands.
* `Request.read`: The request that some arguments make.
-/

namespace CiteRender

/-- A form in which keys are cited. -/
inductive Style where
  | numeric
  | authorYear
  | full
  | lookup
  deriving DecidableEq

/-- The style of a name. -/
def Style.ofName? : String → Option Style
  | "numeric" => some .numeric
  | "author-year" => some .authorYear
  | "full" => some .full
  | "lookup" => some .lookup
  | _ => none

/-- What a render is asked to do. -/
structure RenderOptions where
  /-- the article -/
  input : String
  bibliography : Option String := none
  /-- the file to write to, in place of the standard output -/
  output : Option String := none
  config : Option String := none
  distillify : Bool := false
  checkTemplate : Bool := false
  /-- render an article that is marked as rendered -/
  force : Bool := false
  /-- give warnings only -/
  quiet : Bool := false
  deriving DecidableEq

/-- What a command line asks for. -/
inductive Request where
  | render (options : RenderOptions)
  | template (input : String)
  | cite (keys bibliography : String) (style : Style)
  deriving DecidableEq

/-- Whether a text can be a path. -/
def isPath (value : String) : Bool :=
  !value.isEmpty

/-- An option whose value is a path. -/
def pathSwitch (name : String) (letter : Option Char) : Switch :=
  ⟨name, letter, some isPath⟩

/-- What a render takes. -/
def renderForm : Form where
  plainName := "INPUT"
  acceptsPlain := isPath
  switches := [pathSwitch "bib" (some 'b'), pathSwitch "output" (some 'o'),
    pathSwitch "config" none, ⟨"distillify", none, none⟩, ⟨"check-template", none, none⟩,
    ⟨"force", none, none⟩, ⟨"quiet", some 'q', none⟩]

/-- What the command takes that tells the generation of a template. -/
def templateForm : Form where
  plainName := "INPUT"
  acceptsPlain := isPath
  switches := []

/-- What the command takes that cites keys. -/
def citeForm : Form where
  plainName := "KEYS"
  acceptsPlain := fun _ => true
  switches := [pathSwitch "bib" (some 'b'),
    ⟨"style", some 's', some fun name => (Style.ofName? name).isSome⟩]

namespace Request

/-- Something that must be given. -/
def need {α : Type} (name : String) : Option α → Except Stop α
  | some a => .ok a
  | none => .error (.misuse (.missing name))

/-- The request to render. -/
def ofRender (given : Given) : Except Stop Request :=
  (need renderForm.plainName given.plain).map fun input => .render {
    input
    bibliography := given.value? "bib"
    output := given.value? "output"
    config := given.value? "config"
    distillify := given.has "distillify"
    checkTemplate := given.has "check-template"
    force := given.has "force"
    quiet := given.has "quiet" }

/-- The request to tell a generation. -/
def ofTemplate (given : Given) : Except Stop Request :=
  (need templateForm.plainName given.plain).map .template

/-- The request to cite. Without a style the numeric one is meant. -/
def ofCite (given : Given) : Except Stop Request :=
  (need citeForm.plainName given.plain).bind fun keys =>
    (need "bib" (given.value? "bib")).map fun bibliography =>
      .cite keys bibliography (((given.value? "style").bind Style.ofName?).getD .numeric)

/-- The names of the commands, and of the one that explains them. -/
def commandNames : List String :=
  ["render", "template", "cite", "help"]

/-- Whether an argument asks a question by a letter. -/
def asks (letter : Char) (argument : String) : Bool :=
  match argument.toList with
  | '-' :: c :: _ => c = letter
  | _ => false

/-- The request that some arguments make. -/
def read : List String → Except Stop Request
  | [] => .error (.misuse (.missing "COMMAND"))
  | "render" :: arguments => (readArguments renderForm arguments).bind ofRender
  | "template" :: arguments => (readArguments templateForm arguments).bind ofTemplate
  | "cite" :: arguments => (readArguments citeForm arguments).bind ofCite
  | ["help"] => .error .help
  -- A command has no commands of its own, so a second name means nothing.
  | "help" :: name :: more =>
    .error <|
      match commandNames.contains name, more with
      | true, [] => .help
      | true, other :: _ => .misuse (.unknown other)
      | false, _ => .misuse (.unknown name)
  | argument :: _ =>
    .error <|
      if argument = "--help" ∨ asks 'h' argument then .help
      else if argument = "--version" ∨ asks 'V' argument then .version
      else .misuse (.unknown argument)

end Request

end CiteRender
