import CiteRender.Config.Basic
import CiteRender.Json.Fault

/-!
# Reading a Configuration

A configuration file is a JSON object of settings, or an array of them in
the order of their declaration. What it leaves out keeps its default. The
file is read from left to right, and the first thing wrong with it decides
the error, be it the text or its content.

## Main definitions

* `Config.readSetting`: One setting, which must be a text.
* `Config.readMembers`, `Config.readItems`: The two forms of a file.
* `Config.Error`: Why a file gives no configuration.
* `Config.read`: The configuration that a whole text is.
-/

namespace CiteRender

namespace Config

/-- Why a file gives no configuration. -/
inductive Error where
  /-- the file could not be read -/
  | unreadable (reason : String)
  | json (fault : Json.Fault)
  deriving DecidableEq

/-- The wording of an error. -/
def Error.message : Error → String
  | unreadable reason => "Failed to read file: " ++ reason
  | json fault => "Invalid configuration: " ++ fault.message

/-- Lets a reader of JSON tokens fail with a fault. -/
def token {α : Type} (result : Except Json.Problem α) : Except Json.Fault α :=
  result.mapError .problem

/-- The fault of a value that has another type than `wanted`. Its first token
    is read, as the text itself may be wrong there. -/
def wrongValue (wanted : String) (s : List Char) : Json.Fault :=
  let found (value : Json.Value) : Json.Fault := .mismatch (value.mismatch wanted)
  let after {α : Type} (result : Except Json.Problem α) (value : α → Json.Value) :
      Json.Fault :=
    match result with
    | .error problem => .problem problem
    | .ok r => found (value r)
  match s with
  | [] => .problem .ended
  | 'n' :: rest => after (Json.readWord "ull".toList rest) fun _ => .null
  | 't' :: rest => after (Json.readWord "rue".toList rest) fun _ => .bool true
  | 'f' :: rest => after (Json.readWord "alse".toList rest) fun _ => .bool false
  | '"' :: rest => after (Json.readText rest) fun r => .text r.1
  | '[' :: _ => found (.array [])
  | '\x7b' :: _ => found (.object [])
  | c :: rest =>
    if c = '-' ∨ c.isDigit then after (Json.readNumber (c :: rest)) fun r => .number r.1
    else .problem .malformed

/-- Reads a setting, which must be a text. -/
def readSetting (s : List Char) : Except Json.Fault (String × List Char) :=
  match Json.skipGap s with
  | '"' :: rest => token (Json.readText rest)
  | rest => .error (wrongValue "a string" rest)

/-- Reads the members that are left of an object up to its closing brace.
    `seen` holds the settings read so far, and `fuel` bounds their number. -/
def readMembers : (fuel : Nat) → (seen : List (String × String)) → List Char →
    Except Json.Fault (List (String × String) × List Char)
  | 0, _, _ => .error (.problem .ended)
  | fuel + 1, seen, s =>
    match s with
    | '"' :: rest => do
      let (name, rest) ← token (Json.readText rest)
      if name ∉ settingNames then
        throw (.mismatch (.unknownMember name settingNames))
      if (seen.lookup name).isSome then throw (.mismatch (.repeatedMember name))
      let rest ← token (Json.readColon rest)
      let (value, rest) ← readSetting rest
      let seen := (name, value) :: seen
      match Json.skipGap rest with
      | '\x7d' :: rest => return (seen, rest)
      | ',' :: rest => do
        let rest ← token (Json.startOfNext '\x7d' rest)
        readMembers fuel seen rest
      | rest => throw (.problem (Json.unexpected rest))
    | rest => .error (.problem (Json.unexpected rest))

/-- Reads the items of an array from its second on, one for each of `names`,
    up to its closing bracket. More items than names are malformed. -/
def readItems : (names : List String) → (seen : List (String × String)) → List Char →
    Except Json.Fault (List (String × String) × List Char)
  | names, seen, s =>
    match names, Json.skipGap s with
    | _, ']' :: rest => .ok (seen, rest)
    | [], [] => .error (.problem .ended)
    | [], _ :: _ => .error (.problem .malformed)
    | name :: names, ',' :: rest => do
      let rest ← token (Json.startOfNext ']' rest)
      let (value, rest) ← readSetting rest
      readItems names ((name, value) :: seen) rest
    | _ :: _, rest => .error (.problem (Json.unexpected rest))

/-- Reads the settings of either form, and gives them with the text behind. -/
def readSettings (s : List Char) : Except Json.Fault (List (String × String) × List Char) :=
  match Json.skipGap s with
  | '\x7b' :: rest =>
    match Json.skipGap rest with
    | '\x7d' :: rest => .ok ([], rest)
    | rest => readMembers rest.length [] rest
  | '[' :: rest =>
    match Json.skipGap rest with
    | ']' :: rest => .ok ([], rest)
    | [] => .error (.problem .ended)
    | rest =>
      match settingNames with
      | [] => .error (.problem .malformed)
      | name :: names => do
        let (value, rest) ← readSetting rest
        readItems names [(name, value)] rest
  | rest => .error (wrongValue "struct RenderConfig" rest)

/-- The configuration that a whole text is. -/
def read (text : String) : Except Error Config :=
  match readSettings text.toList with
  | .error fault => .error (.json fault)
  | .ok (settings, rest) =>
    if (Json.skipGap rest).isEmpty then
      .ok (settings.foldr (fun setting config => config.set setting.1 setting.2) {})
    else .error (.json (.problem .malformed))

end Config

end CiteRender
