import CiteRender.Html.Token.Markup

/-!
# Reading Raw Text

Some elements hold text in which tags mean nothing, up to the end tag of the
element itself. In a script that end tag does not count either while a
comment has opened another script inside it.

## Main definitions

* `Html.TextMode`: How the text of a document is to be read.
* `Html.closesHere`: Whether an end tag of a name stands here.
* `Html.readRaw`, `Html.readScript`: Raw text up to its end tag.
-/

namespace CiteRender

namespace Html

/-- How the text of a document is to be read from here on. -/
inductive TextMode where
  /-- tags, comments and text -/
  | markup
  /-- text with references, up to the end tag of a name -/
  | withReferences (name : String)
  /-- text, up to the end tag of a name -/
  | raw (name : String)
  /-- a script, up to its end tag -/
  | script
  /-- text, up to the end -/
  | plain
  deriving DecidableEq

/-- Whether a text begins with a word in any letter case, and the word ends
    there as the name of a tag does. -/
def tagNameHere (name : String) (s : List Char) : Bool :=
  beginsWith name s && (s.drop name.length).head?.any endsTagName

/-- Whether the rest of an end tag of a name stands behind a `<`. -/
def closesHere (name : String) (s : List Char) : Bool :=
  match s with
  | '/' :: rest => tagNameHere name rest
  | _ => false

/-- Reads text up to the end tag of a name, which is left. -/
def readRaw (name : String) : List Char → List Char × List Char
  | [] => ([], [])
  | c :: s =>
    if c = '<' ∧ closesHere name s then ([], c :: s)
    else
      let r := readRaw name s
      (c :: r.1, r.2)

/-- Where a reader of a script stands: outside comments, inside one, or
    inside a script in a comment. The number counts the hyphens just read,
    as far as two. -/
inductive ScriptState where
  | outside
  | comment (hyphens : Nat)
  | nested (hyphens : Nat)
  deriving DecidableEq

/-- The state after one more character of a script, which does not end here. -/
def ScriptState.next (state : ScriptState) (c : Char) (s : List Char) : ScriptState :=
  match state with
  -- The hyphens of `<!--` count for its end too, so `<!-->` is a whole comment.
  | outside => if c = '<' ∧ "!--".toList.isPrefixOf s then .comment 0 else .outside
  | comment n =>
    if c = '-' then .comment (min 2 (n + 1))
    else if c = '>' ∧ n = 2 then .outside
    else if c = '<' ∧ tagNameHere "script" s then .nested 0
    else .comment 0
  | nested n =>
    if c = '-' then .nested (min 2 (n + 1))
    else if c = '>' ∧ n = 2 then .outside
    else if c = '<' ∧ closesHere "script" s then .comment 0
    else .nested 0

/-- Whether an end tag counts in a state. -/
def ScriptState.canClose : ScriptState → Bool
  | nested _ => false
  | _ => true

/-- Reads a script up to its end tag, which is left. -/
def readScript : ScriptState → List Char → List Char × List Char
  | _, [] => ([], [])
  | state, c :: s =>
    if c = '<' ∧ state.canClose ∧ closesHere "script" s then ([], c :: s)
    else
      let r := readScript (state.next c s) s
      (c :: r.1, r.2)

end Html

end CiteRender
