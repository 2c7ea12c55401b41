import CiteRender.Html.Building.Formatting

/-!
# Elements of Other Vocabularies

Markup of SVG and MathML may stand inside HTML. Tags are read in lower case,
so the names that these vocabularies write with capitals are restored, and
attributes such as `xlink:href` are put into their own vocabulary.

## Main definitions

* `Html.svgTagName`, `Html.attributeNameIn`: Names restored.
* `Html.foreignAttribute`: An attribute in its vocabulary.
* `Html.Builder.openForeign`: Opens an element of another vocabulary.
-/

namespace CiteRender

namespace Html

/-- The SVG elements whose names have capitals. -/
def svgTagNames : List String :=
  ["altGlyph", "altGlyphDef", "altGlyphItem", "animateColor", "animateMotion",
    "animateTransform", "clipPath", "feBlend", "feColorMatrix", "feComponentTransfer",
    "feComposite", "feConvolveMatrix", "feDiffuseLighting", "feDisplacementMap",
    "feDistantLight", "feDropShadow", "feFlood", "feFuncA", "feFuncB", "feFuncG", "feFuncR",
    "feGaussianBlur", "feImage", "feMerge", "feMergeNode", "feMorphology", "feOffset",
    "fePointLight", "feSpecularLighting", "feSpotLight", "feTile", "feTurbulence",
    "foreignObject", "glyphRef", "linearGradient", "radialGradient", "textPath"]

/-- The SVG attributes whose names have capitals. -/
def svgAttributeNames : List String :=
  ["attributeName", "attributeType", "baseFrequency", "baseProfile", "calcMode",
    "clipPathUnits", "diffuseConstant", "edgeMode", "filterUnits", "glyphRef",
    "gradientTransform", "gradientUnits", "kernelMatrix", "kernelUnitLength", "keyPoints",
    "keySplines", "keyTimes", "lengthAdjust", "limitingConeAngle", "markerHeight",
    "markerUnits", "markerWidth", "maskContentUnits", "maskUnits", "numOctaves", "pathLength",
    "patternContentUnits", "patternTransform", "patternUnits", "pointsAtX", "pointsAtY",
    "pointsAtZ", "preserveAlpha", "preserveAspectRatio", "primitiveUnits", "refX", "refY",
    "repeatCount", "repeatDur", "requiredExtensions", "requiredFeatures", "specularConstant",
    "specularExponent", "spreadMethod", "startOffset", "stdDeviation", "stitchTiles",
    "surfaceScale", "systemLanguage", "tableValues", "targetX", "targetY", "textLength",
    "viewBox", "viewTarget", "xChannelSelector", "yChannelSelector", "zoomAndPan"]

/-- The name in a list that a lowered name stands for, or the name itself. -/
def restoreName (names : List String) (name : String) : String :=
  (names.find? fun known => Text.lower known.toList = name.toList).getD name

/-- The name of an SVG element. -/
def svgTagName (name : String) : String :=
  restoreName svgTagNames name

/-- The name of an attribute of an element of a vocabulary. -/
def attributeNameIn (space : Space) (name : String) : String :=
  match space with
  | .html => name
  | .svg => restoreName svgAttributeNames name
  | .mathml => restoreName ["definitionURL"] name

/-- An attribute of an element outside HTML, in its own vocabulary. -/
def foreignAttribute (space : Space) (a : String × String) : Attribute :=
  match a.1 with
  | "xlink:actuate" => ⟨.xlink, "actuate", a.2⟩
  | "xlink:arcrole" => ⟨.xlink, "arcrole", a.2⟩
  | "xlink:href" => ⟨.xlink, "href", a.2⟩
  | "xlink:role" => ⟨.xlink, "role", a.2⟩
  | "xlink:show" => ⟨.xlink, "show", a.2⟩
  | "xlink:title" => ⟨.xlink, "title", a.2⟩
  | "xlink:type" => ⟨.xlink, "type", a.2⟩
  | "xml:lang" => ⟨.xml, "lang", a.2⟩
  | "xml:space" => ⟨.xml, "space", a.2⟩
  | "xmlns" => ⟨.xmlns, "xmlns", a.2⟩
  | "xmlns:xlink" => ⟨.xmlns, "xlink", a.2⟩
  | name => ⟨.plain, attributeNameIn space name, a.2⟩

/-- Opens an element of another vocabulary. One that closes itself has no
    content. -/
def Builder.openForeign (b : Builder) (space : Space) (name : String) (tag : StartTag) :
    Builder :=
  let attributes := tag.attributes.map (foreignAttribute space)
  if tag.selfClosing then (b.addElement ⟨space, name⟩ attributes).1
  else (b.openElement ⟨space, name⟩ attributes).1

end Html

end CiteRender
