import CiteRender.Css.Selector
import CiteRender.Css.Token

/-!
# Reading Selectors

A reader of selectors takes tokens and gives what it read with the tokens
that are left, or nothing if they are no selector. Brackets and parentheses
that the text breaks off in are closed there.

The argument of `:host` is a single compound, and nothing inside it may join
compounds.

Names of types and attributes are compared in lower case on HTML elements, so
they are kept as written. Values of attributes are compared as written,
except for the attributes that HTML says otherwise of.

## Main definitions

* `Css.readPosition`: The argument of a position, such as `2n+1`.
* `Css.readAttribute`: An attribute selector behind its bracket.
* `Css.readList`: A list of complex selectors.
* `Css.readSelectors`: The selectors that a whole text is.
-/

namespace CiteRender

namespace Css

/-- The attributes whose values HTML compares without letter case. -/
def caselessAttributes : List String :=
  ["accept", "accept-charset", "align", "alink", "axis", "bgcolor", "charset", "checked",
    "clear", "codetype", "color", "compact", "declare", "defer", "dir", "direction",
    "disabled", "enctype", "face", "frame", "hreflang", "http-equiv", "lang", "language",
    "link", "media", "method", "multiple", "nohref", "noresize", "noshade", "nowrap",
    "readonly", "rel", "rev", "rules", "scope", "scrolling", "selected", "shape", "target",
    "text", "type", "valign", "valuetype", "vlink"]

/-- The tokens behind the blanks at their start. -/
def skipBlanks (ts : List Token) : List Token :=
  ts.dropWhile (· = .blank)

/-- Passes over the end of a block, which the end of the text is too. -/
def readEnd (close : Char) (ts : List Token) : Option (List Token) :=
  match skipBlanks ts with
  | [] => some []
  | .mark c :: rest => if c = close then some rest else none
  | _ => none

/-- The offset in a name such as `n-3`, with its sign. -/
def offsetInName (s : List Char) : Option Int :=
  match s with
  | n :: '-' :: digits =>
    if (n = 'n' ∨ n = 'N') ∧ digits ≠ [] ∧ digits.all Char.isDigit then
      some (clampInteger (-(Text.decimalValue digits : Int)))
    else none
  | _ => none

/-- Reads the offset behind its sign, an integer without one. -/
def readUnsignedOffset (step : Int) (negative : Bool) (ts : List Token) :
    Option ((Int × Int) × List Token) :=
  match skipBlanks ts with
  | .number false (some n) :: rest => some ((step, if negative then -n else n), rest)
  | _ => none

/-- Reads the offset behind the `n` of a step, if there is one. -/
def readOffset (step : Int) (ts : List Token) : Option ((Int × Int) × List Token) :=
  match skipBlanks ts with
  | .mark '+' :: rest => readUnsignedOffset step false rest
  | .mark '-' :: rest => readUnsignedOffset step true rest
  | .number true (some n) :: rest => some ((step, n), rest)
  | _ => some ((step, 0), ts)

/-- Reads what follows a step whose `n` is part of a name. -/
def readStepName (step : Int) (name : List Char) (ts : List Token) :
    Option ((Int × Int) × List Token) :=
  let name := Text.lower name
  if name = ['n'] then readOffset step ts
  else if name = ['n', '-'] then readUnsignedOffset step true ts
  else (offsetInName name).map fun n => ((step, n), ts)

/-- Reads the argument of a position: a step and an offset. -/
def readPosition (ts : List Token) : Option ((Int × Int) × List Token) :=
  match skipBlanks ts with
  | .number _ (some n) :: rest => some ((0, n), rest)
  | .dimension (some step) unit :: rest => readStepName step unit rest
  | .name s :: rest =>
    if Text.lower s = "even".toList then some ((2, 0), rest)
    else if Text.lower s = "odd".toList then some ((2, 1), rest)
    else
      match s with
      | '-' :: name => readStepName (-1) name rest
      | name => readStepName 1 name rest
  | .mark '+' :: .name s :: rest => readStepName 1 s rest
  | _ => none

/-- The comparison that an operator asks for. -/
def comparisonOf (c : Char) : Comparison :=
  match c with
  | '~' => .word
  | '|' => .hyphened
  | '^' => .beginning
  | '$' => .ending
  | _ => .part

/-- Reads the name of an attribute, and whether it may be of any vocabulary. -/
def readAttributeName (ts : List Token) : Option ((Bool × List Char) × List Token) :=
  match skipBlanks ts with
  | .name _ :: .mark '|' :: _ => none
  | .name s :: rest => some ((false, s), rest)
  | .mark '*' :: .mark '|' :: .name s :: rest => some ((true, s), rest)
  | .mark '|' :: .name s :: rest => some ((false, s), rest)
  | _ => none

/-- The case rule of a comparison that does not give one. -/
def defaultRule (anySpace : Bool) (name : List Char) : CaseRule :=
  if !anySpace && caselessAttributes.any (fun known => known.toList = Text.lower name) then
    .insensitiveInHtml
  else .sensitive

/-- Reads the flag of a comparison, if there is one, and the end of the block. -/
def readFlag (rule : CaseRule) (ts : List Token) : Option (CaseRule × List Token) :=
  match skipBlanks ts with
  | .name s :: rest =>
    if Text.lower s = ['i'] then (readEnd ']' rest).map fun rest => (.insensitive, rest)
    else if Text.lower s = ['s'] then (readEnd ']' rest).map fun rest => (.sensitive, rest)
    else none
  | rest => (readEnd ']' rest).map fun rest => (rule, rest)

/-- Reads the value of a comparison, its flag and the end of the block. -/
def readComparison (anySpace : Bool) (name : List Char) (comparison : Comparison)
    (ts : List Token) : Option (Simple × List Token) :=
  let finish (value : List Char) (rest : List Token) : Option (Simple × List Token) :=
    (readFlag (defaultRule anySpace name) rest).map fun r =>
      (.hasAttribute anySpace name (.compares comparison value r.1), r.2)
  match skipBlanks ts with
  | .name s :: rest => finish s rest
  | .text s :: rest => finish s rest
  | _ => none

/-- Reads an attribute selector behind its bracket. -/
def readAttribute (ts : List Token) : Option (Simple × List Token) :=
  match readAttributeName ts with
  | none => none
  | some ((anySpace, name), rest) =>
    match skipBlanks rest with
    | .mark '=' :: rest => readComparison anySpace name .equal rest
    | .operator c :: rest => readComparison anySpace name (comparisonOf c) rest
    | rest => (readEnd ']' rest).map fun rest => (.hasAttribute anySpace name .present, rest)

/-- The simple selectors that a pseudo-class stands for. -/
def pseudoClass (name : List Char) : Option (List Simple) :=
  match String.ofList (Text.lower name) with
  | "first-child" => some [.position false false 0 1]
  | "last-child" => some [.position true false 0 1]
  | "only-child" => some [.position false false 0 1, .position true false 0 1]
  | "first-of-type" => some [.position false true 0 1]
  | "last-of-type" => some [.position true true 0 1]
  | "only-of-type" => some [.position false true 0 1, .position true true 0 1]
  | "root" => some [.isRoot]
  | "scope" => some [.isRoot]
  | "empty" => some [.isEmpty]
  | "link" => some [.isLink]
  | "any-link" => some [.isLink]
  | "visited" => some [.nothing]
  | "active" => some [.nothing]
  | "focus" => some [.nothing]
  | "hover" => some [.nothing]
  | "enabled" => some [.nothing]
  | "disabled" => some [.nothing]
  | "checked" => some [.nothing]
  | "indeterminate" => some [.nothing]
  | _ => none

/-- Which end and which siblings a position with an argument counts. -/
def positionKind (name : List Char) : Option (Bool × Bool) :=
  match String.ofList (Text.lower name) with
  | "nth-child" => some (false, false)
  | "nth-last-child" => some (true, false)
  | "nth-of-type" => some (false, true)
  | "nth-last-of-type" => some (true, true)
  | _ => none

/-- Reads the type that a compound begins with, if it does. A vocabulary
    cannot be named, as none is declared. -/
def readType (ts : List Token) : Option (List Simple × List Token) :=
  match ts with
  | .name _ :: .mark '|' :: _ => none
  | .name s :: rest => some ([.named s], rest)
  | .mark '*' :: .mark '|' :: .mark '*' :: rest => some ([.anything], rest)
  | .mark '*' :: .mark '|' :: .name s :: rest => some ([.named s], rest)
  | .mark '*' :: .mark '|' :: _ => none
  | .mark '*' :: rest => some ([.anything], rest)
  | .mark '|' :: .mark '*' :: rest => some ([.nothing], rest)
  | .mark '|' :: .name _ :: rest => some ([.nothing], rest)
  | .mark '|' :: _ => none
  | ts => some ([], ts)

/-- Reads the combinator behind a compound, if another compound follows. -/
def readCombinator (ts : List Token) : Option (Combinator × List Token) :=
  match skipBlanks ts with
  | .mark '>' :: rest => some (.parent, rest)
  | .mark '+' :: rest => some (.previous, rest)
  | .mark '~' :: rest => some (.earlier, rest)
  | [] => none
  | .mark ',' :: _ => none
  | .mark ')' :: _ => none
  | rest => if ts.head? = some .blank then some (.ancestor, rest) else none

mutual

/-- Reads the simple selectors of a compound behind its type. `joins` says
    whether complex selectors inside them may join compounds. -/
def readSimples (joins : Bool) : (fuel : Nat) → List Token → Option (List Simple × List Token)
  | 0, _ => none
  | fuel + 1, ts =>
    match ts with
    | .hash s :: rest => (readSimples joins fuel rest).map fun r => (.hasId s :: r.1, r.2)
    | .mark '.' :: .name s :: rest =>
      (readSimples joins fuel rest).map fun r => (.hasClass s :: r.1, r.2)
    | .mark '.' :: _ => none
    | .mark '[' :: rest =>
      (readAttribute rest).bind fun first =>
        (readSimples joins fuel first.2).map fun r => (first.1 :: r.1, r.2)
    | .mark ':' :: .name s :: rest =>
      (pseudoClass s).bind fun first =>
        (readSimples joins fuel rest).map fun r => (first ++ r.1, r.2)
    -- The parenthesis belongs to the token, so its block is open behind it.
    | .mark ':' :: .function s :: rest =>
      (readFunction joins fuel s rest).bind fun first =>
        (readSimples joins fuel first.2).map fun r => (first.1 :: r.1, r.2)
    | .mark ':' :: _ => none
    | ts => some ([], ts)

/-- Reads the argument of a pseudo-class, and the end of its block. -/
def readFunction (joins : Bool) :
    (fuel : Nat) → List Char → List Token → Option (Simple × List Token)
  | 0, _, _ => none
  | fuel + 1, name, ts =>
    if Text.lower name = "not".toList then
      (readList joins fuel ts).bind fun list =>
        (readEnd ')' list.2).map fun rest => (.matchesNone list.1, rest)
    else if Text.lower name = "host".toList then
      -- The host of a shadow tree, of which a document has none.
      (readCompound false fuel ts).bind fun host =>
        (readEnd ')' host.2).map fun rest => (.nothing, rest)
    else
      (positionKind name).bind fun kind =>
        (readPosition ts).bind fun position =>
          (readEnd ')' position.2).map fun rest =>
            (.position kind.1 kind.2 position.1.1 position.1.2, rest)

/-- Reads a compound, which must not be empty. -/
def readCompound (joins : Bool) : (fuel : Nat) → List Token → Option (List Simple × List Token)
  | 0, _ => none
  | fuel + 1, ts =>
    (readType (skipBlanks ts)).bind fun type =>
      (readSimples joins fuel type.2).bind fun r =>
        if (type.1 ++ r.1).isEmpty then none else some (type.1 ++ r.1, r.2)

/-- Reads the compounds that follow a complex selector. -/
def readJoined (joins : Bool) : (fuel : Nat) → Complex → List Token →
    Option (Complex × List Token)
  | 0, _, _ => none
  | fuel + 1, left, ts =>
    match readCombinator ts with
    | none => some (left, ts)
    | some (combinator, rest) =>
      if joins then
        (readCompound joins fuel rest).bind fun r =>
          readJoined joins fuel (.joined left combinator r.1) r.2
      else none

/-- Reads complex selectors separated by commas. -/
def readList (joins : Bool) : (fuel : Nat) → List Token → Option (List Complex × List Token)
  | 0, _ => none
  | fuel + 1, ts =>
    (readCompound joins fuel ts).bind fun first =>
      (readJoined joins fuel (.compound first.1) first.2).bind fun complex =>
        match skipBlanks complex.2 with
        | .mark ',' :: rest =>
          (readList joins fuel rest).map fun r => (complex.1 :: r.1, r.2)
        | rest => some ([complex.1], rest)

end

/-- The selectors that a whole text is. -/
def readSelectors (s : List Char) : Option (List Complex) :=
  let ts := tokens s
  (readList true (3 * ts.length + 3) ts).bind fun r => if r.2.isEmpty then some r.1 else none

end Css

end CiteRender
