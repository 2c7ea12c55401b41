import CiteRender.Html.Token.Tag

/-!
# Reading Declarations

What stands behind `<!`: a comment, a doctype, or anything else up to the
next `>`, which counts as a comment. A comment ends at `-->` or `--!>`; one
that the text breaks off in ends there, less a beginning of its end.

## Main definitions

* `Html.readComment`: A comment behind its `<!--`.
* `Html.readDoctype`: A doctype behind its `<!doctype`.
* `Html.readDeclaration`: Whatever stands behind `<!`.
-/

namespace CiteRender

namespace Html

/-- A comment whose end the text lacks, less a beginning of its end. -/
def openComment (s : List Char) : List Char :=
  match s.reverse with
  | '!' :: '-' :: '-' :: rest => rest.reverse
  | '-' :: '-' :: rest => rest.reverse
  | '-' :: rest => rest.reverse
  | rest => rest.reverse

/-- Reads up to the end of a comment, if there is one. -/
def commentBody : List Char → Option (List Char × List Char)
  | [] => none
  | '-' :: '-' :: '>' :: rest => some ([], rest)
  | '-' :: '-' :: '!' :: '>' :: rest => some ([], rest)
  | c :: rest => (commentBody rest).map fun r => (c :: r.1, r.2)

/-- Reads a comment behind its `<!--`. -/
def readComment (s : List Char) : Token × List Char :=
  match s with
  | '>' :: rest => (.comment [], rest)
  | '-' :: '>' :: rest => (.comment [], rest)
  | s =>
    match commentBody s with
    | some (body, rest) => (.comment (replaceNul body), rest)
    | none => (.comment (replaceNul (openComment s)), [])

/-- Reads up to the next `>` as a comment. -/
def readBogusComment (s : List Char) : Token × List Char :=
  (.comment (replaceNul (s.takeWhile (· != '>'))), (s.dropWhile (· != '>')).drop 1)

/-- The text behind the next `>`. -/
def afterAngle (s : List Char) : List Char :=
  (s.dropWhile (· != '>')).drop 1

/-- Reads an identifier of a doctype behind its first quote: the identifier,
    whether it was closed, and the text behind. -/
def readIdentifier (quote : Char) (s : List Char) : List Char × Bool × List Char :=
  let ends (c : Char) : Bool := c == quote || c == '>'
  let body := replaceNul (s.takeWhile fun c => !ends c)
  match s.dropWhile fun c => !ends c with
  | [] => (body, false, [])
  | c :: rest => (body, c == quote, if c == quote then rest else c :: rest)

/-- The doctype and the text behind when nothing of its form is left. -/
def brokenDoctype (d : Doctype) (s : List Char) : Token × List Char :=
  (.doctype { d with broken := true }, afterAngle s)

/-- Reads what follows the system identifier of a doctype. -/
def readDoctypeEnd (d : Doctype) (s : List Char) : Token × List Char :=
  if (s.dropWhile isSpace).isEmpty then (.doctype { d with broken := true }, [])
  else (.doctype d, afterAngle s)

/-- Reads the system identifier of a doctype from its first quote on.
    `needed` says that there has to be one. -/
def readSystemId (needed : Bool) (d : Doctype) (s : List Char) : Token × List Char :=
  match s.dropWhile isSpace with
  | [] => (.doctype { d with broken := true }, [])
  | '>' :: rest => (.doctype { d with broken := d.broken || needed }, rest)
  | c :: rest =>
    if c = '"' ∨ c = '\x27' then
      let id := readIdentifier c rest
      let d := { d with systemId := some id.1 }
      if id.2.1 then readDoctypeEnd d id.2.2 else brokenDoctype d id.2.2
    else brokenDoctype d (c :: rest)

/-- Reads the public identifier of a doctype from its first quote on, and
    what follows it. -/
def readPublicId (d : Doctype) (s : List Char) : Token × List Char :=
  match s.dropWhile isSpace with
  | c :: rest =>
    if c = '"' ∨ c = '\x27' then
      let id := readIdentifier c rest
      let d := { d with publicId := some id.1 }
      if id.2.1 then readSystemId false d id.2.2 else brokenDoctype d id.2.2
    else brokenDoctype d (c :: rest)
  | [] => brokenDoctype d []

/-- Whether a text begins with a word, in any letter case. -/
def beginsWith (word : String) (s : List Char) : Bool :=
  Text.lower (s.take word.length) = word.toList

/-- Reads a doctype behind its `<!doctype`. -/
def readDoctype (s : List Char) : Token × List Char :=
  match s.dropWhile isSpace with
  | [] => (.doctype { broken := true }, [])
  | '>' :: rest => (.doctype { broken := true }, rest)
  | start =>
    let ends (c : Char) : Bool := isSpace c || c == '>'
    let name := Text.lower (replaceNul (start.takeWhile fun c => !ends c))
    let d : Doctype := { name := some name }
    match (start.dropWhile fun c => !ends c).dropWhile isSpace with
    | [] => (.doctype { d with broken := true }, [])
    | '>' :: rest => (.doctype d, rest)
    | rest =>
      if beginsWith "public" rest then readPublicId d (rest.drop 6)
      else if beginsWith "system" rest then readSystemId true d (rest.drop 6)
      else brokenDoctype d rest

/-- Reads up to the end of a section of plain text, or of the whole text. -/
def readSection : List Char → List Char × List Char
  | [] => ([], [])
  | ']' :: ']' :: '>' :: rest => ([], rest)
  | c :: rest =>
    let r := readSection rest
    (c :: r.1, r.2)

/-- Reads what stands behind `<!`. Sections of plain text are only known
    inside another vocabulary than HTML. -/
def readDeclaration (inForeign : Bool) (s : List Char) : List Token × List Char :=
  match s with
  | '-' :: '-' :: rest =>
    let r := readComment rest
    ([r.1], r.2)
  | s =>
    if beginsWith "doctype" s then
      let r := readDoctype (s.drop 7)
      ([r.1], r.2)
    else if inForeign && "[CDATA[".toList.isPrefixOf s then
      let r := readSection (s.drop 7)
      (runs r.1, r.2)
    else
      let r := readBogusComment s
      ([r.1], r.2)

end Html

end CiteRender
