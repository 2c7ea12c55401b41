/-!
# Render Configuration

The names of the markup that a render looks for. The tags and the script
block are selectors, so any selector will do for them.

## Main definitions

* `Config`: The four settings, with their defaults.
* `Config.settings`: The settings by name.
* `Config.set`: A setting replaced by name.
-/

namespace CiteRender

/-- The names of the markup that a render looks for. -/
structure Config where
  /-- inline citation markers, whose `key` attribute lists keys -/
  citeTag : String := "dt-cite"
  /-- the place of the bibliography -/
  bibliographyTag : String := "dt-bibliography"
  /-- the script blocks that hold BibTeX -/
  bibliographyScript : String := "script[type=\"text/bibliography\"]"
  /-- the attribute that marks a rendered body -/
  prerenderedAttribute : String := "distill-prerendered"
  deriving DecidableEq

namespace Config

/-- The settings by name, in the order of their declaration. -/
def settings (config : Config) : List (String × String) :=
  [("cite-tag", config.citeTag), ("bibliography-tag", config.bibliographyTag),
    ("bibliography-script", config.bibliographyScript),
    ("prerendered-attribute", config.prerenderedAttribute)]

/-- The names of the settings, in the order of their declaration. -/
def settingNames : List String :=
  ["cite-tag", "bibliography-tag", "bibliography-script", "prerendered-attribute"]

/-- The configuration with one setting replaced; a name that is no setting
    changes nothing. -/
def set (config : Config) (name value : String) : Config :=
  match name with
  | "cite-tag" => { config with citeTag := value }
  | "bibliography-tag" => { config with bibliographyTag := value }
  | "bibliography-script" => { config with bibliographyScript := value }
  | "prerendered-attribute" => { config with prerenderedAttribute := value }
  | _ => config

end Config

end CiteRender
