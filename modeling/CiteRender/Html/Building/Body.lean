import CiteRender.Html.Building.Vocabulary
import CiteRender.Html.Encoding

/-!
# Rules for Head and Body

The rules for what stands in the head of a document and in its body. They
serve other modes too, which send them the tokens they have no rule for.

## Main definitions

* `Html.Builder.inHead`: The rules for the head.
* `Html.Builder.endInTemplate`: What the end of the text means in a template.
* `Html.Builder.bodyStart`, `Html.Builder.bodyClose`: Tags in the body.
* `Html.Builder.inBody`: The rules for the body.
-/

namespace CiteRender

namespace Html

/-- The elements that belong in the head wherever they stand. -/
def headNames : List String :=
  ["base", "basefont", "bgsound", "link", "meta", "noframes", "script", "style", "template",
    "title"]

/-- The elements of the head without content. -/
def headVoidNames : List String :=
  ["base", "basefont", "bgsound", "link", "meta"]

/-- The blocks that end a paragraph and have no other rule. -/
def blockNames : List String :=
  ["address", "article", "aside", "blockquote", "center", "details", "dialog", "dir", "div",
    "dl", "fieldset", "figcaption", "figure", "footer", "header", "hgroup", "main", "menu",
    "nav", "ol", "p", "search", "section", "summary", "ul"]

/-- The blocks that their end tag closes with all inside. -/
def blockCloseNames : List String :=
  ["address", "article", "aside", "blockquote", "button", "center", "details", "dialog", "dir",
    "div", "dl", "fieldset", "figcaption", "figure", "footer", "header", "hgroup", "listing",
    "main", "menu", "nav", "ol", "pre", "search", "section", "select", "summary", "ul"]

/-- The formatting elements other than `a` and `nobr`. -/
def formattingNames : List String :=
  ["b", "big", "code", "em", "font", "i", "s", "small", "strike", "strong", "tt", "u"]

/-- The table parts and other elements that mean nothing in the body. -/
def misplacedNames : List String :=
  ["caption", "col", "colgroup", "frame", "head", "tbody", "td", "tfoot", "th", "thead", "tr"]

/-- Whether an input field is hidden. -/
def isHiddenInput (tag : StartTag) : Bool :=
  tag.attributes.any fun a => a.1 = "type" && Text.lower a.2.toList = "hidden".toList

namespace Builder

/-- Opens a template. -/
def openTemplate (b : Builder) (tag : StartTag) : Builder :=
  { (b.insert tag).pushMarker.forbidFrameset with
    mode := .inTemplate, templateModes := .inTemplate :: b.templateModes }

/-- Leaves the innermost template, whose element is closed. -/
def leaveTemplate (b : Builder) : Builder :=
  let b := b.clearToMarker
  { b with templateModes := b.templateModes.drop 1 }.resetMode

/-- Closes the innermost template. -/
def closeTemplate (b : Builder) : Builder :=
  if b.hasOpen "template" then
    ((b.closeImplied thoroughlyImpliedNames).closeUntil ["template"]).leaveTemplate
  else b

/-- Leaves the head for a token that does not belong there. -/
def leaveHead (b : Builder) : Outcome :=
  .again { b.pop with mode := .afterHead }

/-- The rules for the head. -/
def inHead (b : Builder) (token : Token) : Outcome :=
  match token with
  | .blanks s => .done (b.insertText s)
  | .comment s => .done (b.insertComment s)
  | .start tag =>
    if tag.name = "html" then .done (b.mergeHtml tag)
    else if headVoidNames.contains tag.name then
      .done { b.insertVoid tag with readsAnew := tag.declaresEncoding }
    else if tag.name = "title" then .done (b.insertWithText tag (.withReferences "title"))
    else if ["noframes", "style", "noscript"].contains tag.name then
      .done (b.insertWithText tag (.raw tag.name))
    else if tag.name = "script" then .done (b.insertWithText tag .script)
    else if tag.name = "template" then .done (b.openTemplate tag)
    else if tag.name = "head" then .done b
    else b.leaveHead
  | .close name =>
    if name = "head" then .done { b.pop with mode := .afterHead }
    else if ["body", "html", "br"].contains name then b.leaveHead
    else if name = "template" then .done b.closeTemplate
    else .done b
  | _ => b.leaveHead

/-- The end of the text: each open template ends first. -/
def endInTemplate (b : Builder) : Outcome :=
  if b.hasOpen "template" then .again (b.closeUntil ["template"]).leaveTemplate
  else .done b

/-- The name of the list item that a new one ends, given the open elements. -/
def endedItem (b : Builder) (names : List String) : List Nat → Option String
  | [] => none
  | id :: rest =>
    let tag := b.tag id
    if tag.isOneOf names then some tag.name
    else if isSpecial tag && !tag.isOneOf ["address", "div", "p"] then none
    else endedItem b names rest

/-- Opens a list item after closing the one it ends. -/
def openItem (b : Builder) (names : List String) (tag : StartTag) : Builder :=
  let b := b.forbidFrameset
  let b :=
    match b.endedItem names b.opened with
    | some name => (b.closeImpliedExcept name).closeUntil [name]
    | none => b
  b.closeParagraphInScope.insert tag

/-- Opens a form, unless one is open. -/
def openForm (b : Builder) (tag : StartTag) : Builder :=
  if b.form.isSome && !b.hasOpen "template" then b
  else
    let b := b.closeParagraphInScope
    let r := b.openElement (.html tag.name) (plainAttributes tag)
    if b.hasOpen "template" then r.1 else { r.1 with form := some r.2 }

/-- Opens a link after closing one that is open. -/
def openLink (b : Builder) (tag : StartTag) : Builder :=
  let b :=
    match b.findFormatting "a" with
    | some (id, _) => ((b.closeFormatting "a").removeFormatting id).removeOpen id
    | none => b
  b.reopen.openFormatting tag

/-- Puts a frameset in the place of the body. -/
def replaceBody (b : Builder) (tag : StartTag) : Builder :=
  match b.framesetAllowed, b.body? with
  | true, some body =>
    let b := { b with nodes := b.nodes.detach body, opened := [b.outermost] }
    { b.insert tag with mode := .inFrameset }
  | _, _ => b

/-- Gives the body the attributes of a second start tag. -/
def mergeBody (b : Builder) (tag : StartTag) : Builder :=
  match b.body? with
  | some body =>
    if b.hasOpen "template" then b
    else { b.forbidFrameset with nodes := b.nodes.addAttributes body tag.attributes }
  | none => b

/-- Closes an option that is the innermost element. -/
def closeOption (b : Builder) : Builder :=
  if b.currentTag.isNamed "option" then b.pop else b

/-- Whether a selection list is in reach. -/
def selects (b : Builder) : Bool :=
  b.inScope defaultBounds ["select"]

/-- Opens a selection list. A second start tag ends the one in reach. -/
def openSelect (b : Builder) (tag : StartTag) : Builder :=
  if b.selects then b.closeUntil ["select"] else (b.reopen.insert tag).forbidFrameset

/-- Opens an option. In a selection list all that may end before it does so,
    but a group goes on; elsewhere only another option ends. -/
def openOption (b : Builder) (tag : StartTag) : Builder :=
  (if b.selects then b.closeImpliedExcept "optgroup" else b.closeOption).reopen.insert tag

/-- Opens a group of options. In a selection list all that may end before it
    does so; elsewhere only an option ends. -/
def openGroup (b : Builder) (tag : StartTag) : Builder :=
  (if b.selects then b.closeImplied impliedNames else b.closeOption).reopen.insert tag

/-- Adds a rule across the page. In a selection list it ends an option. -/
def addRule (b : Builder) (tag : StartTag) : Builder :=
  let b := b.closeParagraphInScope
  ((if b.selects then b.closeImplied impliedNames else b).insertVoid tag).forbidFrameset

/-- Adds an input field, which has no place in a selection list and ends it. -/
def addInput (b : Builder) (tag : StartTag) : Builder :=
  let b := (if b.selects then b.closeUntil ["select"] else b).reopen.insertVoid tag
  if isHiddenInput tag then b else b.forbidFrameset

/-- The rules for start tags of blocks and of what else ends a paragraph, if
    the tag is one. -/
def blockStart (b : Builder) (tag : StartTag) : Option Builder :=
  let closed := b.closeParagraphInScope
  if blockNames.contains tag.name then some (closed.insert tag)
  else if headingNames.contains tag.name then
    some ((if closed.currentTag.isOneOf headingNames then closed.pop else closed).insert tag)
  else if ["pre", "listing"].contains tag.name then
    some { (closed.insert tag).forbidFrameset with dropNewline := true }
  else if tag.name = "form" then some (b.openForm tag)
  else if tag.name = "li" then some (b.openItem ["li"] tag)
  else if ["dd", "dt"].contains tag.name then some (b.openItem ["dd", "dt"] tag)
  else if tag.name = "plaintext" then some { closed.insert tag with textMode := .plain }
  else if tag.name = "table" then
    some { ((if b.oldLayout then b else closed).insert tag).forbidFrameset with mode := .inTable }
  else if tag.name = "hr" then some (b.addRule tag)
  else if tag.name = "xmp" then some (closed.reopen.forbidFrameset.insertWithText tag (.raw "xmp"))
  else none

/-- The rules for start tags of formatting elements and of what else goes
    into a line, if the tag is one. -/
def inlineStart (b : Builder) (tag : StartTag) : Option Builder :=
  if tag.name = "a" then some (b.openLink tag)
  else if formattingNames.contains tag.name then some (b.reopen.openFormatting tag)
  else if tag.name = "nobr" then
    let b := b.reopen
    let b := if b.inScope defaultBounds ["nobr"] then (b.closeFormatting "nobr").reopen else b
    some (b.openFormatting tag)
  else if tag.name = "button" then
    let b :=
      if b.inScope defaultBounds ["button"] then
        (b.closeImplied impliedNames).closeUntil ["button"]
      else b
    some (b.reopen.insert tag).forbidFrameset
  else if ["applet", "marquee", "object"].contains tag.name then
    some (b.reopen.insert tag).pushMarker.forbidFrameset
  else if ["area", "br", "embed", "img", "keygen", "wbr"].contains tag.name then
    some (b.reopen.insertVoid tag).forbidFrameset
  else if tag.name = "input" then some (b.addInput tag)
  else if ["param", "source", "track"].contains tag.name then some (b.insertVoid tag)
  else if tag.name = "textarea" then
    some { b.forbidFrameset.insertWithText tag (.withReferences "textarea") with
      dropNewline := true }
  else if tag.name = "iframe" then some (b.forbidFrameset.insertWithText tag (.raw "iframe"))
  else if ["noembed", "noscript"].contains tag.name then
    some (b.insertWithText tag (.raw tag.name))
  else if tag.name = "select" then some (b.openSelect tag)
  else if tag.name = "option" then some (b.openOption tag)
  else if tag.name = "optgroup" then some (b.openGroup tag)
  else if ["rb", "rtc"].contains tag.name then
    some ((if b.inScope defaultBounds ["ruby"] then b.closeImplied impliedNames else b).insert tag)
  else if ["rp", "rt"].contains tag.name then
    some ((if b.inScope defaultBounds ["ruby"] then b.closeImpliedExcept "rtc" else b).insert tag)
  else if tag.name = "math" then some (b.reopen.openForeign .mathml "math" tag)
  else if tag.name = "svg" then some (b.reopen.openForeign .svg "svg" tag)
  else none

/-- The rules for start tags in the body. -/
def bodyStart (b : Builder) (tag : StartTag) : Outcome :=
  let tag := if tag.name = "image" then { tag with name := "img" } else tag
  if tag.name = "html" then .done (b.mergeHtml tag)
  else if headNames.contains tag.name then b.inHead (.start tag)
  else if tag.name = "body" then .done (b.mergeBody tag)
  else if tag.name = "frameset" then .done (b.replaceBody tag)
  else if misplacedNames.contains tag.name then .done b
  else .done (((b.blockStart tag).or (b.inlineStart tag)).getD (b.reopen.insert tag))

/-- Closes the form. -/
def closeForm (b : Builder) : Builder :=
  if b.hasOpen "template" then
    if b.inScope defaultBounds ["form"] then
      (b.closeImplied impliedNames).closeUntil ["form"]
    else b
  else
    match b.form with
    | none => b
    | some form =>
      let b := { b with form := none }
      if b.nodeInScope form then (b.closeImplied impliedNames).removeOpen form else b

/-- Closes an element by its end tag if it is in reach. -/
def closeInScope (b : Builder) (bounds : Tag → Bool) (name : String) : Builder :=
  if b.inScope bounds [name] then (b.closeImpliedExcept name).closeUntil [name] else b

/-- The rules for end tags in the body, apart from those of body and document. -/
def elementClose (b : Builder) (name : String) : Builder :=
  if name = "template" then b.closeTemplate
  else if blockCloseNames.contains name then
    if b.inScope defaultBounds [name] then (b.closeImplied impliedNames).closeUntil [name] else b
  else if name = "form" then b.closeForm
  else if name = "p" then
    (if b.inScope buttonBounds ["p"] then b else b.insertImplied "p").closeParagraph
  else if name = "li" then b.closeInScope listBounds name
  else if ["dd", "dt"].contains name then b.closeInScope defaultBounds name
  else if headingNames.contains name then
    if b.inScope defaultBounds headingNames then
      (b.closeImplied impliedNames).closeUntil headingNames
    else b
  else if ("a" :: "nobr" :: formattingNames).contains name then b.closeFormatting name
  else if ["applet", "marquee", "object"].contains name then
    if b.inScope defaultBounds [name] then
      ((b.closeImplied impliedNames).closeUntil [name]).clearToMarker
    else b
  else if name = "br" then (b.reopen.insertVoid { name := "br" }).forbidFrameset
  else b.closeAny name

/-- The rules for end tags in the body. -/
def bodyClose (b : Builder) (name : String) : Outcome :=
  if name = "body" then
    .done (if b.inScope defaultBounds ["body"] then { b with mode := .afterBody } else b)
  else if name = "html" then
    if b.inScope defaultBounds ["body"] then .again { b with mode := .afterBody } else .done b
  else .done (b.elementClose name)

/-- The rules for the body. -/
def inBody (b : Builder) (token : Token) : Outcome :=
  match token with
  | .text s => .done (b.reopen.insertText s).forbidFrameset
  | .blanks s => .done (b.reopen.insertText s)
  | .comment s => .done (b.insertComment s)
  | .start tag => b.bodyStart tag
  | .close name => b.bodyClose name
  | .stop => if b.templateModes.isEmpty then .done b else b.endInTemplate
  | _ => .done b

end Builder

end Html

end CiteRender
