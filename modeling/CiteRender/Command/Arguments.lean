import CiteRender.Text.Blank

/-!
# Arguments

How the arguments of a command are read. Each command has one plain argument
and some options. An option is given by its name after two hyphens, or by its
letter after one. Several letters may share a hyphen. The value of an option
follows in the same argument, after an equals sign if the option is given by
its name, or is the next argument. After an argument `--` all are plain.

Arguments are read from the first to the last, and the first that does not
fit ends the reading; so does a question for help.

## Main definitions

* `Switch`, `Form`: The options of a command, and what it takes.
* `Stop`: Why the reading ends early.
* `Given`: What was given.
* `readArguments`: What some arguments give.
-/

namespace CiteRender

/-- An option of a command. `accepts` is there if it takes a value, and says
    which values it takes. -/
structure Switch where
  name : String
  letter : Option Char := none
  accepts : Option (String → Bool) := none

/-- What a command takes: which plain argument, and which options. -/
structure Form where
  plainName : String
  acceptsPlain : String → Bool
  switches : List Switch

/-- What is wrong with arguments. -/
inductive Misuse where
  | unknown (argument : String)
  | repeated (name : String)
  | noValue (name : String)
  | needlessValue (name : String)
  | badValue (name value : String)
  | missing (name : String)
  deriving DecidableEq

/-- The wording of a misuse. -/
def Misuse.message : Misuse → String
  | unknown argument => "unexpected argument: " ++ argument
  | repeated name => "given more than once: " ++ name
  | noValue name => "a value is required: " ++ name
  | needlessValue name => "takes no value: " ++ name
  | badValue name value => "invalid value for " ++ name ++ ": " ++ value
  | missing name => "required, but not given: " ++ name

/-- Why the reading of arguments ends early. -/
inductive Stop where
  | help
  | version
  | misuse (misuse : Misuse)
  deriving DecidableEq

/-- What was given: the plain argument, the options without a value, and the
    options with theirs. -/
structure Given where
  plain : Option String := none
  flags : List String := []
  values : List (String × String) := []

namespace Given

/-- Whether an option was given. -/
def has (given : Given) (name : String) : Bool :=
  given.flags.contains name

/-- The value of an option. -/
def value? (given : Given) (name : String) : Option String :=
  given.values.lookup name

/-- Takes the plain argument, which may be given once. -/
def takePlain (form : Form) (given : Given) (argument : String) : Except Stop Given :=
  if given.plain.isSome then .error (.misuse (.unknown argument))
  else if form.acceptsPlain argument then .ok { given with plain := some argument }
  else .error (.misuse (.badValue form.plainName argument))

/-- Takes an option without a value. -/
def takeFlag (given : Given) (name : String) : Except Stop Given :=
  if given.has name then .error (.misuse (.repeated name))
  else .ok { given with flags := name :: given.flags }

/-- Takes an option with its value. -/
def takeValue (given : Given) (switch : Switch) (value : String) : Except Stop Given :=
  if (given.value? switch.name).isSome then .error (.misuse (.repeated switch.name))
  else if switch.accepts.any fun accepts => accepts value then
    .ok { given with values := (switch.name, value) :: given.values }
  else .error (.misuse (.badValue switch.name value))

end Given

/-- How far the reading of arguments has come: what was given, the option that
    waits for its value, and whether all further arguments are plain. -/
structure Progress where
  given : Given := {}
  waiting : Option Switch := none
  plainOnly : Bool := false

namespace Progress

/-- Goes on with something given. -/
def giving (progress : Progress) (given : Except Stop Given) : Except Stop Progress :=
  given.map fun given => { progress with given, waiting := none }

/-- Takes an option given by its name, with a value if there is one. -/
def takeNamed (form : Form) (progress : Progress) (name : String) (value : Option String) :
    Except Stop Progress :=
  match form.switches.find? fun switch => switch.name = name, value with
  | none, none =>
    .error (if name = "help" then .help else .misuse (.unknown name))
  | none, some _ => .error (.misuse (.unknown name))
  | some switch, value =>
    match switch.accepts, value with
    | none, none => progress.giving (progress.given.takeFlag name)
    | none, some _ => .error (.misuse (.needlessValue name))
    | some _, some value => progress.giving (progress.given.takeValue switch value)
    | some _, none => .ok { progress with waiting := some switch }

/-- Takes options given by their letters. What follows the letter of an option
    with a value is the value, with or without an equals sign. -/
def takeLetters (form : Form) (progress : Progress) : List Char → Except Stop Progress
  | [] => .ok progress
  | c :: rest =>
    match form.switches.find? fun switch => switch.letter = some c with
    | none => .error (if c = 'h' then .help else .misuse (.unknown (String.singleton c)))
    | some switch =>
      match switch.accepts, rest with
      | none, rest =>
        (progress.giving (progress.given.takeFlag switch.name)).bind fun progress =>
          takeLetters form progress rest
      | some _, [] => .ok { progress with waiting := some switch }
      | some _, '=' :: value =>
        progress.giving (progress.given.takeValue switch (String.ofList value))
      | some _, value => progress.giving (progress.given.takeValue switch (String.ofList value))

/-- Whether an argument is an option, or ends the options. -/
def isOption (argument : String) : Bool :=
  match argument.toList with
  | '-' :: _ :: _ => true
  | _ => false

/-- Takes one argument. -/
def take (form : Form) (progress : Progress) (argument : String) : Except Stop Progress :=
  if progress.plainOnly then progress.giving (progress.given.takePlain form argument)
  else
    match progress.waiting with
    | some switch =>
      -- The mark `-` for the standard input is a value, all else with a hyphen is not.
      if isOption argument then .error (.misuse (.noValue switch.name))
      else progress.giving (progress.given.takeValue switch argument)
    | none =>
      match argument.toList with
      | ['-', '-'] => .ok { progress with plainOnly := true }
      | '-' :: '-' :: word =>
        let name := word.takeWhile (· != '=')
        let value := (word.dropWhile (· != '=')).tail?
        progress.takeNamed form (String.ofList name) (value.map String.ofList)
      | '-' :: c :: letters => progress.takeLetters form (c :: letters)
      | _ => progress.giving (progress.given.takePlain form argument)

end Progress

/-- What some arguments give. -/
def readArguments (form : Form) (arguments : List String) : Except Stop Given :=
  (arguments.foldlM (Progress.take form) {}).bind fun progress =>
    match progress.waiting with
    | some switch => .error (.misuse (.noValue switch.name))
    | none => .ok progress.given

end CiteRender
