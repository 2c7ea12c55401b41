import CiteRender.Html.Building.Foreign

/-!
# Parsing HTML

From the text of a document to its tree. Every text has one: elements that
are left out are put in, and what does not fit is moved or dropped.

The rules of a mode may hand a token on to another mode. Each time they do,
elements have closed or the document has come further, so a token is handed
on at most a few times for each open element.

A script and a declared encoding may change how the rest of a text is to be
read, so reading starts anew behind them, and like the start of a document
what follows may begin with a byte order mark that is no part of it.

## Main definitions

* `Html.Builder.rules`: The rules of each mode.
* `Html.Builder.process`: The effect of one token.
* `Html.Builder.run`: The effect of a text.
* `Html.parse`: The trees of a document.
-/

namespace CiteRender

namespace Html

/-- A text without a byte order mark at its start. -/
def dropMark : List Char → List Char
  | '\ufeff' :: rest => rest
  | s => s

namespace Builder

/-- The rules before any token but blanks and comments. -/
def inInitial (b : Builder) (token : Token) : Outcome :=
  match token with
  | .blanks _ => .done b
  | .comment s => .done (b.commentIn 0 s)
  | .doctype d =>
    let r := b.create (.doctype (d.name.getD []))
    .done { r.1.putAt (.last 0) r.2 with mode := .beforeHtml, oldLayout := d.isOld }
  | _ => .again { b with mode := .beforeHtml, oldLayout := true }

/-- Opens the `html` element. -/
def openRoot (b : Builder) (tag : StartTag) : Builder :=
  let r := b.createElement (.html "html") (plainAttributes tag)
  { r.1.putAt (.last 0) r.2 with opened := [r.2], mode := .beforeHead }

/-- The rules before the `html` element. -/
def beforeHtml (b : Builder) (token : Token) : Outcome :=
  let implied := Outcome.again (b.openRoot { name := "html" })
  match token with
  | .blanks _ => .done b
  | .comment s => .done (b.commentIn 0 s)
  | .start tag => if tag.name = "html" then .done (b.openRoot tag) else implied
  | .close name =>
    if ["head", "body", "html", "br"].contains name then implied else .done b
  | _ => implied

/-- Opens the `head` element. -/
def openHead (b : Builder) (tag : StartTag) : Builder :=
  let r := b.openElement (.html "head") (plainAttributes tag)
  { r.1 with head := some r.2, mode := .inHead }

/-- The rules before the `head` element. -/
def beforeHead (b : Builder) (token : Token) : Outcome :=
  let implied := Outcome.again (b.openHead { name := "head" })
  match token with
  | .blanks _ => .done b
  | .comment s => .done (b.insertComment s)
  | .start tag =>
    if tag.name = "html" then b.inBody token
    else if tag.name = "head" then .done (b.openHead tag)
    else implied
  | .close name =>
    if ["head", "body", "html", "br"].contains name then implied else .done b
  | _ => implied

/-- The rules for the head, applied after it was closed. -/
def backInHead (b : Builder) (token : Token) : Outcome :=
  match b.head with
  | none => .done b
  | some head =>
    match inHead { b with opened := head :: b.opened } token with
    | .done b => .done (b.removeOpen head)
    | .again b => .again (b.removeOpen head)

/-- The rules between head and body. -/
def afterHead (b : Builder) (token : Token) : Outcome :=
  let implied := (b.insertImplied "body").goOn .inBody
  match token with
  | .blanks s => .done (b.insertText s)
  | .comment s => .done (b.insertComment s)
  | .start tag =>
    if tag.name = "html" then b.inBody token
    else if tag.name = "body" then
      .done { (b.insert tag).forbidFrameset with mode := .inBody }
    else if tag.name = "frameset" then .done { b.insert tag with mode := .inFrameset }
    else if headNames.contains tag.name then b.backInHead token
    else if tag.name = "head" then .done b
    else implied
  | .close name =>
    if name = "template" then .done b.closeTemplate
    else if ["body", "html", "br"].contains name then implied
    else .done b
  | _ => implied

/-- The rules for the text of an element that holds nothing else. -/
def inText (b : Builder) (token : Token) : Outcome :=
  match token with
  | .blanks s => .done (b.insertText s)
  | .text s => .done (b.insertText s)
  | .close name => .done { b.pop with mode := b.returnMode, readsAnew := name = "script" }
  | .stop => b.pop.goOn b.returnMode
  | _ => .done b

/-- Goes on in the mode for what a template turns out to hold. -/
def templateTurns (b : Builder) (mode : Mode) : Outcome :=
  .again { b with templateModes := mode :: b.templateModes.drop 1, mode }

/-- The rules for a template whose content is not known yet. -/
def inTemplate (b : Builder) (token : Token) : Outcome :=
  match token with
  | .start tag =>
    if headNames.contains tag.name then b.inHead token
    else if ("caption" :: "colgroup" :: sectionNames).contains tag.name then
      b.templateTurns .inTable
    else if tag.name = "col" then b.templateTurns .inColumnGroup
    else if tag.name = "tr" then b.templateTurns .inTableBody
    else if ["td", "th"].contains tag.name then b.templateTurns .inRow
    else b.templateTurns .inBody
  | .close name => .done (if name = "template" then b.closeTemplate else b)
  | .stop => b.endInTemplate
  | _ => b.inBody token

/-- The rules after the body. -/
def afterBody (b : Builder) (token : Token) : Outcome :=
  match token with
  | .blanks _ => b.inBody token
  | .comment s => .done (b.commentIn b.outermost s)
  | .start tag => if tag.name = "html" then b.inBody token else b.goOn .inBody
  | .close name =>
    if name = "html" then .done { b with mode := .afterAfterBody } else b.goOn .inBody
  | .stop => .done b
  | _ => b.goOn .inBody

/-- The rules for a frameset. -/
def inFrameset (b : Builder) (token : Token) : Outcome :=
  match token with
  | .blanks s => .done (b.insertText s)
  | .comment s => .done (b.insertComment s)
  | .start tag =>
    if tag.name = "html" then b.inBody token
    else if tag.name = "frameset" then .done (b.insert tag)
    else if tag.name = "frame" then .done (b.insertVoid tag)
    else if tag.name = "noframes" then b.inHead token
    else .done b
  | .close name =>
    if name = "frameset" && b.opened.length ≠ 1 then
      let b := b.pop
      .done (if b.currentTag.isNamed "frameset" then b else { b with mode := .afterFrameset })
    else .done b
  | _ => .done b

/-- The rules after a frameset. -/
def afterFrameset (b : Builder) (token : Token) : Outcome :=
  match token with
  | .blanks s => .done (b.insertText s)
  | .comment s => .done (b.insertComment s)
  | .start tag =>
    if tag.name = "html" then b.inBody token
    else if tag.name = "noframes" then b.inHead token
    else .done b
  | .close name =>
    .done (if name = "html" then { b with mode := .afterAfterFrameset } else b)
  | _ => .done b

/-- The rules after the end of a document. -/
def afterAfterBody (b : Builder) (token : Token) : Outcome :=
  match token with
  | .blanks _ => b.inBody token
  | .comment s => .done (b.commentIn 0 s)
  | .start tag => if tag.name = "html" then b.inBody token else b.goOn .inBody
  | .stop => .done b
  | _ => b.goOn .inBody

/-- The rules after the end of a document with a frameset. -/
def afterAfterFrameset (b : Builder) (token : Token) : Outcome :=
  match token with
  | .blanks _ => b.inBody token
  | .comment s => .done (b.commentIn 0 s)
  | .start tag =>
    if tag.name = "html" then b.inBody token
    else if tag.name = "noframes" then b.inHead token
    else .done b
  | _ => .done b

/-- The rules of the mode that the state is in. -/
def rules (b : Builder) (token : Token) : Outcome :=
  match b.mode with
  | .initial => b.inInitial token
  | .beforeHtml => b.beforeHtml token
  | .beforeHead => b.beforeHead token
  | .inHead => b.inHead token
  | .afterHead => b.afterHead token
  | .inBody => b.inBody token
  | .inText => b.inText token
  | .inTable => b.inTable token
  | .inTableText => b.inTableText token
  | .inCaption => b.inCaption token
  | .inColumnGroup => b.inColumnGroup token
  | .inTableBody => b.inTableBody token
  | .inRow => b.inRow token
  | .inCell => b.inCell token
  | .inTemplate => b.inTemplate token
  | .afterBody => b.afterBody token
  | .inFrameset => b.inFrameset token
  | .afterFrameset => b.afterFrameset token
  | .afterAfterBody => b.afterAfterBody token
  | .afterAfterFrameset => b.afterAfterFrameset token

/-- Applies rules to a token until it is done with, at most `fuel` times. -/
def apply (token : Token) : (fuel : Nat) → Builder → Builder
  | 0, b => b
  | fuel + 1, b =>
    match if b.isForeign token then inForeign rules b token else b.rules token with
    | .done b => b
    | .again b => apply token fuel b

/-- A token without the line feed at its start; nothing if that is all. -/
def withoutNewline : Token → Option Token
  | .blanks ['\n'] => none
  | .blanks ('\n' :: s) => some (.blanks s)
  | token => some token

/-- Whether no rule applies to a token: a slip, or a doctype that comes too
    late. -/
def isIdle (b : Builder) : Token → Bool
  | .doctype _ => b.mode ≠ .initial
  | .slip => true
  | _ => false

/-- The effect of one token. -/
def process (b : Builder) (token : Token) : Builder :=
  if b.isIdle token then { b with dropNewline := false }
  else
    match if b.dropNewline then withoutNewline token else some token with
    | none => { b with dropNewline := false }
    | some token => apply token (8 * b.opened.length + 32) { b with dropNewline := false }

/-- Whether the innermost element belongs to another vocabulary. -/
def foreignHere (b : Builder) : Bool :=
  !b.opened.isEmpty && b.currentTag.space ≠ .html

/-- The effect of the tokens of a raw text. -/
def processText (b : Builder) (tokens : List Token) : Builder :=
  tokens.foldl process { b with textMode := .markup }

/-- The rest of a text, as far as it is to be read after the tokens before it. -/
def restFor (b : Builder) (s : List Char) : List Char :=
  if b.readsAnew then dropMark s else s

/-- The effect of a text, at most `fuel` steps of it. -/
def run : (fuel : Nat) → Builder → List Char → Builder
  | 0, b, _ => b
  | fuel + 1, b, s =>
    match b.textMode with
    | .markup =>
      match readTokens b.foreignHere s with
      | none => b
      | some (tokens, rest) =>
        let b := tokens.foldl process b
        run fuel { b with readsAnew := false } (b.restFor rest)
    | .withReferences name =>
      let r := readRaw name s
      run fuel (b.processText (referencedRuns (replaceNul r.1))) r.2
    -- The end tag is left in the text, and read as markup after this.
    | .raw name =>
      let r := readRaw name s
      run fuel (b.processText (runs (replaceNul r.1))) r.2
    | .script =>
      let r := readScript .outside s
      run fuel (b.processText (runs (replaceNul r.1))) r.2
    | .plain => (runs (replaceNul s)).foldl process b

end Builder

/-- A text with one line feed for each line end. -/
def unifyLines : List Char → List Char
  | '\r' :: '\n' :: rest => '\n' :: unifyLines rest
  | '\r' :: rest => '\n' :: unifyLines rest
  | c :: rest => c :: unifyLines rest
  | [] => []

/-- The trees of a document: a doctype, comments, and the `html` element. -/
def parse (s : List Char) : List (Node Unit) :=
  let s := unifyLines (dropMark s)
  ((Builder.run (2 * s.length + 2) {} s).process .stop).nodes.trees

end Html

end CiteRender
