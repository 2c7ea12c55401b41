import CiteRender.Text.Blank

/-!
# Doctypes

A doctype has a name, a public and a system identifier, any of which may be
missing. Some doctypes of old documents, and a missing or broken one, ask
for the layout of old browsers; of the tree this changes only one thing: a
table then does not end the paragraph it stands in.

## Main definitions

* `Html.Doctype`: A doctype as read.
* `Html.Doctype.isOld`: Whether it asks for the layout of old browsers.
-/

namespace CiteRender

namespace Html

/-- A doctype as read. `broken` says that it did not follow the form. -/
structure Doctype where
  name : Option (List Char) := none
  publicId : Option (List Char) := none
  systemId : Option (List Char) := none
  broken : Bool := false
  deriving DecidableEq

/-- Public identifiers that ask for old layout. -/
def oldPublicIds : List String :=
  ["-//w3o//dtd w3 html strict 3.0//en//", "-/w3c/dtd html 4.0 transitional/en", "html"]

/-- Beginnings of public identifiers that ask for old layout. -/
def oldPublicStarts : List String :=
  ["-//advasoft ltd//dtd html 3.0 aswedit + extensions//",
    "-//as//dtd html 3.0 aswedit + extensions//",
    "-//ietf//dtd html 2.0 level 1//", "-//ietf//dtd html 2.0 level 2//",
    "-//ietf//dtd html 2.0 strict level 1//", "-//ietf//dtd html 2.0 strict level 2//",
    "-//ietf//dtd html 2.0 strict//", "-//ietf//dtd html 2.0//", "-//ietf//dtd html 2.1e//",
    "-//ietf//dtd html 3.0//", "-//ietf//dtd html 3.2 final//", "-//ietf//dtd html 3.2//",
    "-//ietf//dtd html 3//", "-//ietf//dtd html level 0//", "-//ietf//dtd html level 1//",
    "-//ietf//dtd html level 2//", "-//ietf//dtd html level 3//",
    "-//ietf//dtd html strict level 0//", "-//ietf//dtd html strict level 1//",
    "-//ietf//dtd html strict level 2//", "-//ietf//dtd html strict level 3//",
    "-//ietf//dtd html strict//", "-//ietf//dtd html//",
    "-//metrius//dtd metrius presentational//",
    "-//microsoft//dtd internet explorer 2.0 html strict//",
    "-//microsoft//dtd internet explorer 2.0 html//",
    "-//microsoft//dtd internet explorer 2.0 tables//",
    "-//microsoft//dtd internet explorer 3.0 html strict//",
    "-//microsoft//dtd internet explorer 3.0 html//",
    "-//microsoft//dtd internet explorer 3.0 tables//",
    "-//netscape comm. corp.//dtd html//", "-//netscape comm. corp.//dtd strict html//",
    "-//o\x27reilly and associates//dtd html 2.0//",
    "-//o\x27reilly and associates//dtd html extended 1.0//",
    "-//o\x27reilly and associates//dtd html extended relaxed 1.0//",
    "-//softquad software//dtd hotmetal pro 6.0::19990601::extensions to html 4.0//",
    "-//softquad//dtd hotmetal pro 4.0::19971010::extensions to html 4.0//",
    "-//spyglass//dtd html 2.0 extended//", "-//sq//dtd html 2.0 hotmetal + extensions//",
    "-//sun microsystems corp.//dtd hotjava html//",
    "-//sun microsystems corp.//dtd hotjava strict html//",
    "-//w3c//dtd html 3 1995-03-24//", "-//w3c//dtd html 3.2 draft//",
    "-//w3c//dtd html 3.2 final//", "-//w3c//dtd html 3.2//", "-//w3c//dtd html 3.2s draft//",
    "-//w3c//dtd html 4.0 frameset//", "-//w3c//dtd html 4.0 transitional//",
    "-//w3c//dtd html experimental 19960712//", "-//w3c//dtd html experimental 970421//",
    "-//w3c//dtd w3 html//", "-//w3o//dtd w3 html 3.0//", "-//webtechs//dtd mozilla html 2.0//",
    "-//webtechs//dtd mozilla html//"]

/-- Beginnings of public identifiers that ask for old layout unless there is
    a system identifier. -/
def lonePublicStarts : List String :=
  ["-//w3c//dtd html 4.01 frameset//", "-//w3c//dtd html 4.01 transitional//"]

/-- The system identifier that asks for old layout. -/
def oldSystemId : String :=
  "http://www.ibm.com/data/dtd/v11/ibmxhtml1-transitional.dtd"

/-- Whether a text begins with one of some texts. -/
def beginsWithOne (starts : List String) (s : List Char) : Bool :=
  starts.any fun start => start.toList.isPrefixOf s

/-- Whether a doctype asks for the layout of old browsers. -/
def Doctype.isOld (d : Doctype) : Bool :=
  let publicId := d.publicId.map Text.lower
  let systemId := d.systemId.map Text.lower
  d.broken || d.name ≠ some "html".toList || systemId = some oldSystemId.toList ||
    publicId.any (fun id =>
      oldPublicIds.any (fun old => old.toList = id) || beginsWithOne oldPublicStarts id ||
        (systemId.isNone && beginsWithOne lonePublicStarts id))

end Html

end CiteRender
