import CiteRender.Html.Token.Raw

/-!
# Reading Markup

The tokens at the start of a document's text. What begins with `<` is a tag,
a declaration or a comment, or else the `<` stands for itself; everything up
to the next `<` is text with its references replaced.

Two slips are kept apart from the text behind them: an end tag without a
name, and a numeric reference without its semicolon at the start of a text.

## Main definitions

* `Html.referencedRuns`: A text with references as tokens.
* `Html.readAngle`: What stands behind a `<`.
* `Html.readTokens`: The first tokens of a text, with the text behind.
-/

namespace CiteRender

namespace Html

/-- A text with references as tokens. -/
def referencedRuns (s : List Char) : List Token :=
  let tokens := runs (decodeReferences false s)
  match s with
  | '&' :: rest => if lacksSemicolon rest then .slip :: tokens else tokens
  | _ => tokens

/-- The tokens of a text in which a tag breaks off: none, and nothing is left. -/
def brokenOff : List Token × List Char :=
  ([], [])

/-- Reads what stands behind `</`. -/
def readClose (s : List Char) : List Token × List Char :=
  match s with
  | [] => ([.text ['<', '/']], [])
  | '>' :: rest => ([.slip], rest)
  | c :: rest =>
    if c.isAlpha then
      match readEndTag (c :: rest) with
      | some (token, rest) => ([token], rest)
      | none => brokenOff
    else
      let r := readBogusComment (c :: rest)
      ([r.1], r.2)

/-- Reads what stands behind `<`. -/
def readAngle (inForeign : Bool) (s : List Char) : List Token × List Char :=
  match s with
  | '!' :: rest => readDeclaration inForeign rest
  | '/' :: rest => readClose rest
  | '?' :: rest =>
    let r := readBogusComment ('?' :: rest)
    ([r.1], r.2)
  | s =>
    if s.head?.any Char.isAlpha then
      match readStartTag s with
      | some (token, rest) => ([token], rest)
      | none => brokenOff
    else ([.text ['<']], s)

/-- Reads the first tokens of a text; nothing if the text is empty. -/
def readTokens (inForeign : Bool) (s : List Char) : Option (List Token × List Char) :=
  match s with
  | [] => none
  | '<' :: rest => some (readAngle inForeign rest)
  | s =>
    some (referencedRuns (s.takeWhile (· != '<')), s.dropWhile (· != '<'))

end Html

end CiteRender
