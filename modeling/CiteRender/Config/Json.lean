import CiteRender.Config.Basic
import CiteRender.Json.Fault

/-!
# A Configuration as JSON

The configuration that a JSON value describes, where the value has been read
already: an object of settings, or an array of them in the order of their
declaration. The members of an object are taken in the order of their names,
and the first that does not fit decides the error.

## Main definitions

* `Config.ofJson`: The configuration that a value describes.
-/

namespace CiteRender

namespace Config

/-- The configuration with the setting of one member replaced. -/
def setMember (config : Config) (name : String) (value : Json.Value) :
    Except Json.Mismatch Config :=
  if name ∈ settingNames then
    match value with
    | .text s => .ok (config.set name s)
    | value => .error (value.mismatch "a string")
  else .error (.unknownMember name settingNames)

/-- The configuration that a value describes. What it leaves out keeps its
    default. -/
def ofJson : Json.Value → Except Json.Mismatch Config
  | .object members =>
    members.foldlM (fun config member => config.setMember member.1 member.2) {}
  | .array items => Json.setItems setMember settingNames {} items
  | value => .error (value.mismatch "struct RenderConfig")

end Config

end CiteRender
