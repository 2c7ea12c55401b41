import CiteRender.Json.Reader
import CiteRender.Text.Quoted

/-!
# JSON of the Wrong Content

A well-formed JSON text may still not say what a reader of it needs: a value
of another type, a member nobody knows, a member given twice, more items than
there are members. A fault is either that or a problem of the text itself.

Where an object with known members is wanted, an array of their values in a
fixed order will do too. Members for which it has no item are left out.

## Main definitions

* `Json.Mismatch`: What is wrong with a well-formed value.
* `Json.Fault`: A problem of the text, or a mismatch.
* `Json.Value.describe`: How a mismatch names the value it found.
* `Json.setItems`: What the items of an array say, one member after the other.
-/

namespace CiteRender

namespace Json

/-- How a mismatch names a value: scalars are shown, the rest named by kind. -/
def Value.describe : Value → List Char
  | .null => "null".toList
  | .bool b => (if b then "boolean `true`" else "boolean `false`").toList
  | .number (.binary x) => "floating point `".toList ++ (Number.binary x).print ++ ['`']
  | .number n => "integer `".toList ++ n.print ++ ['`']
  | .text s => "string ".toList ++ Text.quote s.toList
  | .array _ => "sequence".toList
  | .object _ => "map".toList

/-- What is wrong with a well-formed value. -/
inductive Mismatch where
  /-- a value of another type, by its description, where `wanted` was expected -/
  | wrongType (found wanted : String)
  /-- a value that is neither a text nor a number -/
  | neitherTextNorNumber
  /-- a member that nobody knows, beside those that are known -/
  | unknownMember (name : String) (known : List String)
  /-- a member given twice -/
  | repeatedMember (name : String)
  /-- an array of this many items, more than there are members -/
  | tooManyItems (count : Nat)
  deriving DecidableEq

/-- A name between backquotes. -/
def ticked (name : String) : String :=
  "`" ++ name ++ "`"

/-- The wording of a mismatch. -/
def Mismatch.message : Mismatch → String
  | wrongType found wanted => "invalid type: " ++ found ++ ", expected " ++ wanted
  | neitherTextNorNumber => "data did not match any variant of untagged enum StringOrNumber"
  | unknownMember name known =>
    "unknown field " ++ ticked name ++ ", expected one of " ++
      ", ".intercalate (known.map ticked)
  | repeatedMember name => "duplicate field " ++ ticked name
  | tooManyItems count =>
    "invalid length " ++ toString count ++ ", expected fewer elements in array"

/-- The mismatch of a value where `wanted` was expected. -/
def Value.mismatch (wanted : String) (value : Value) : Mismatch :=
  .wrongType (String.ofList value.describe) wanted

/-- Sets the members of `names` to the items of an array, in order. The first
    item that does not fit decides the error, before there being too many. -/
def setItems {α : Type} (set : α → String → Value → Except Mismatch α) (names : List String)
    (start : α) (items : List Value) : Except Mismatch α :=
  ((names.zip items).foldlM (fun a item => set a item.1 item.2) start).bind fun a =>
    if items.length ≤ names.length then .ok a else .error (.tooManyItems items.length)

/-- Why a text does not give what was to be read from it. -/
inductive Fault where
  | problem (problem : Problem)
  | mismatch (mismatch : Mismatch)
  deriving DecidableEq

/-- The wording of a problem of a text. -/
def Problem.message : Problem → String
  | ended => "unexpected end of input"
  | malformed => "malformed text"

/-- The wording of a fault. -/
def Fault.message : Fault → String
  | problem p => p.message
  | mismatch m => m.message

end Json

end CiteRender
