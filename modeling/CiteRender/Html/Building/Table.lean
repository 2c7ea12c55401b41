import CiteRender.Html.Building.Body

/-!
# Rules for Tables

A table holds only its parts; they close and open each other, and parts left
out in the text are put in. What has no place in a table goes in front of
it.

## Main definitions

* `Html.Builder.fosterInBody`: The rules for the body, in front of a table.
* `Html.Builder.inTable`, `Html.Builder.inTableText`, `Html.Builder.inCaption`,
  `Html.Builder.inColumnGroup`, `Html.Builder.inTableBody`, `Html.Builder.inRow`,
  `Html.Builder.inCell`: The rules for tables.
-/

namespace CiteRender

namespace Html

/-- The tags that close a caption or a cell. -/
def tablePartNames : List String :=
  ["caption", "col", "colgroup", "tbody", "td", "tfoot", "th", "thead", "tr"]

/-- The sections of a table. -/
def sectionNames : List String :=
  ["tbody", "tfoot", "thead"]

namespace Builder

/-- Goes to a mode and applies its rules. -/
def goOn (b : Builder) (mode : Mode) : Outcome :=
  .again { b with mode }

/-- The rules for the body, with what has no place in a table put in front
    of it. -/
def fosterInBody (b : Builder) (token : Token) : Outcome :=
  match inBody { b with fostering := true } token with
  | .done b => .done { b with fostering := false }
  | .again b => .again { b with fostering := false }

/-- The rules for text in a table. -/
def textInTable (b : Builder) (token : Token) : Outcome :=
  if b.currentTag.isOneOf ["table", "tbody", "tfoot", "thead", "tr"] then
    .again { b with returnMode := b.mode, mode := .inTableText, waitingText := [] }
  else b.fosterInBody token

/-- Closes elements up to the table itself. -/
def toTable (b : Builder) : Builder :=
  b.closeToContext ["table", "template", "html"]

/-- The rules for start tags in a table. -/
def tableStart (b : Builder) (tag : StartTag) : Outcome :=
  if tag.name = "caption" then
    .done { b.toTable.pushMarker.insert tag with mode := .inCaption }
  else if tag.name = "colgroup" then .done { b.toTable.insert tag with mode := .inColumnGroup }
  else if tag.name = "col" then (b.toTable.insertImplied "colgroup").goOn .inColumnGroup
  else if sectionNames.contains tag.name then
    .done { b.toTable.insert tag with mode := .inTableBody }
  else if ["td", "th", "tr"].contains tag.name then
    (b.toTable.insertImplied "tbody").goOn .inTableBody
  else if tag.name = "table" then
    if b.inScope tableBounds ["table"] then .again (b.closeUntil ["table"]).resetMode
    else .done b
  else if ["style", "script", "template"].contains tag.name then b.inHead (.start tag)
  else if tag.name = "input" && isHiddenInput tag then .done (b.insertVoid tag)
  else if tag.name = "form" then
    if b.hasOpen "template" || b.form.isSome then .done b
    else
      let r := b.addElement (.html tag.name) (plainAttributes tag)
      .done { r.1 with form := some r.2 }
  else b.fosterInBody (.start tag)

/-- The rules for a table. -/
def inTable (b : Builder) (token : Token) : Outcome :=
  match token with
  | .start tag => b.tableStart tag
  | .close name =>
    if name = "table" then
      .done (if b.inScope tableBounds ["table"] then (b.closeUntil ["table"]).resetMode else b)
    else if ["body", "html"].contains name || tablePartNames.contains name then .done b
    else if name = "template" then .done b.closeTemplate
    else b.fosterInBody token
  | .comment s => .done (b.insertComment s)
  | .stop => b.inBody .stop
  | _ => b.textInTable token

/-- Whether a token is text that is not blank. -/
def isInk : Token → Bool
  | .text _ => true
  | _ => false

/-- Puts one piece of waiting text in its place. -/
def placeWaiting (foster : Bool) (b : Builder) (token : Token) : Builder :=
  if foster then
    match b.fosterInBody token with
    | .done b => b
    | .again b => b
  else
    match token with
    | .blanks s => b.insertText s
    | .text s => b.insertText s
    | _ => b

/-- The rules for text in a table: blank text stays, any other text goes in
    front of the table with the blanks around it. -/
def inTableText (b : Builder) (token : Token) : Outcome :=
  match token with
  | .nul => .done b
  | .blanks _ => .done { b with waitingText := token :: b.waitingText }
  | .text _ => .done { b with waitingText := token :: b.waitingText }
  | _ =>
    -- One piece that is not blank moves all of them in front of the table.
    let waiting := b.waitingText.reverse
    let b := waiting.foldl (placeWaiting (waiting.any isInk)) { b with waitingText := [] }
    b.goOn b.returnMode

/-- Closes the caption that is in reach. -/
def closeCaption (b : Builder) : Builder :=
  { ((b.closeImplied impliedNames).closeUntil ["caption"]).clearToMarker with mode := .inTable }

/-- The rules for a caption. -/
def inCaption (b : Builder) (token : Token) : Outcome :=
  match token with
  | .start tag =>
    if tablePartNames.contains tag.name then
      if b.inScope tableBounds ["caption"] then .again b.closeCaption else .done b
    else b.inBody token
  | .close name =>
    if name = "caption" then
      .done (if b.inScope tableBounds ["caption"] then b.closeCaption else b)
    else if name = "table" then
      if b.inScope tableBounds ["caption"] then .again b.closeCaption else .done b
    else if ["body", "html"].contains name || tablePartNames.contains name then .done b
    else b.inBody token
  | _ => b.inBody token

/-- Leaves a column group for a token that does not belong there. -/
def leaveColumnGroup (b : Builder) : Outcome :=
  if b.currentTag.isNamed "colgroup" then b.pop.goOn .inTable else .done b

/-- The rules for a column group. -/
def inColumnGroup (b : Builder) (token : Token) : Outcome :=
  match token with
  | .blanks s => .done (b.insertText s)
  | .comment s => .done (b.insertComment s)
  | .start tag =>
    if tag.name = "html" then b.inBody token
    else if tag.name = "col" then .done (b.insertVoid tag)
    else if tag.name = "template" then b.inHead token
    else b.leaveColumnGroup
  | .close name =>
    if name = "colgroup" then
      .done (if b.currentTag.isNamed "colgroup" then { b.pop with mode := .inTable } else b)
    else if name = "col" then .done b
    else if name = "template" then .done b.closeTemplate
    else b.leaveColumnGroup
  | .stop => b.inBody .stop
  | _ => b.leaveColumnGroup

/-- Closes elements up to the section of the table. -/
def toSection (b : Builder) : Builder :=
  b.closeToContext ["tbody", "tfoot", "thead", "template", "html"]

/-- Closes the section for a token that belongs to the table. -/
def leaveSection (b : Builder) : Outcome :=
  if b.inScope tableBounds ["table", "tbody", "tfoot"] then b.toSection.pop.goOn .inTable
  else .done b

/-- The rules for a section of a table. -/
def inTableBody (b : Builder) (token : Token) : Outcome :=
  match token with
  | .start tag =>
    if tag.name = "tr" then .done { b.toSection.insert tag with mode := .inRow }
    else if ["th", "td"].contains tag.name then (b.toSection.insertImplied "tr").goOn .inRow
    else if (["caption", "col", "colgroup"] ++ sectionNames).contains tag.name then
      b.leaveSection
    else b.inTable token
  | .close name =>
    if sectionNames.contains name then
      .done (if b.inScope tableBounds [name] then { b.toSection.pop with mode := .inTable }
        else b)
    else if name = "table" then b.leaveSection
    else if ["body", "caption", "col", "colgroup", "html", "td", "th", "tr"].contains name then
      .done b
    else b.inTable token
  | _ => b.inTable token

/-- Closes the row. -/
def closeRow (b : Builder) : Builder :=
  { (b.closeToContext ["tr", "template", "html"]).pop with mode := .inTableBody }

/-- Closes the row for a token that belongs to the table. -/
def leaveRow (b : Builder) : Outcome :=
  if b.inScope tableBounds ["tr"] then .again b.closeRow else .done b

/-- The rules for a row. -/
def inRow (b : Builder) (token : Token) : Outcome :=
  match token with
  | .start tag =>
    if ["th", "td"].contains tag.name then
      let b := (b.closeToContext ["tr", "template", "html"]).insert tag
      .done { b.pushMarker with mode := .inCell }
    else if (["caption", "col", "colgroup", "tr"] ++ sectionNames).contains tag.name then
      b.leaveRow
    else b.inTable token
  | .close name =>
    if name = "tr" then .done (if b.inScope tableBounds ["tr"] then b.closeRow else b)
    else if name = "table" then b.leaveRow
    else if sectionNames.contains name then
      if b.inScope tableBounds [name] then b.leaveRow else .done b
    else if ["body", "caption", "col", "colgroup", "html", "td", "th"].contains name then .done b
    else b.inTable token
  | _ => b.inTable token

/-- Closes the cell that is open. -/
def closeCell (b : Builder) : Builder :=
  { ((b.closeImplied impliedNames).closeUntil ["td", "th"]).clearToMarker with mode := .inRow }

/-- The rules for a cell. -/
def inCell (b : Builder) (token : Token) : Outcome :=
  match token with
  | .start tag =>
    if tablePartNames.contains tag.name then
      if b.inScope tableBounds ["td", "th"] then .again b.closeCell else .done b
    else b.inBody token
  | .close name =>
    if ["td", "th"].contains name then
      if b.inScope tableBounds [name] then
        .done { ((b.closeImplied impliedNames).closeUntil [name]).clearToMarker with
          mode := .inRow }
      else .done b
    else if ["body", "caption", "col", "colgroup", "html"].contains name then .done b
    else if ("table" :: "tr" :: sectionNames).contains name then
      if b.inScope tableBounds [name] then .again b.closeCell else .done b
    else b.inBody token
  | _ => b.inBody token

end Builder

end Html

end CiteRender
