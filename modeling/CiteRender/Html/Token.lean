import CiteRender.Html.Doctype

/-!
# HTML Tokens

What the text of a document consists of: tags, comments, doctypes and runs
of text. A run is blank or has no blank in it, and the character NUL comes by
itself, as the three are treated differently where a document may hold no
text. A slip in the markup counts as a token too if it leaves nothing else,
as it parts what stands before it from what stands behind.

## Main definitions

* `Html.StartTag`: A start tag with its attributes.
* `Html.Token`: One token.
* `Html.isSpace`: The blanks of HTML.
* `Html.runs`: A text as tokens.
-/

namespace CiteRender

namespace Html

/-- A start tag. The name is in lower case, as are those of its attributes;
    of attributes of one name there is only the first. -/
structure StartTag where
  name : String
  attributes : List (String × String) := []
  selfClosing : Bool := false
  deriving DecidableEq

/-- One token of a document's text. -/
inductive Token where
  | doctype (d : Doctype)
  | start (tag : StartTag)
  | close (name : String)
  | comment (s : List Char)
  | blanks (s : List Char)
  | text (s : List Char)
  | nul
  | slip
  | stop
  deriving DecidableEq

/-- The blanks of HTML: tab, line feed, form feed, carriage return and space. -/
def isSpace (c : Char) : Bool :=
  c == ' ' || c == '\t' || c == '\n' || c == '\x0c' || c == '\r'

/-- Puts a character in front of the tokens of the text behind it. -/
def consRun (c : Char) (tokens : List Token) : List Token :=
  if c = '\x00' then .nul :: tokens
  else if isSpace c then
    match tokens with
    | .blanks s :: rest => .blanks (c :: s) :: rest
    | tokens => .blanks [c] :: tokens
  else
    match tokens with
    | .text s :: rest => .text (c :: s) :: rest
    | tokens => .text [c] :: tokens

/-- A text as tokens, one for each run. -/
def runs (cs : List Char) : List Token :=
  cs.foldr consRun []

end Html

end CiteRender
