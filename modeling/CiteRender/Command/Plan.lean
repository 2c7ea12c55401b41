import CiteRender.Command.Files

/-!
# Plans

A plan says what a command does with its surroundings, one act after the
other, where each act may depend on what came of those before. It can be
carried out on files that are values, or on those of a machine.

## Main definitions

* `Plan`: A plan that ends in a result.
* `Plan.bind`: One plan after another.
* `Surroundings`: The standard streams and the files.
* `Surroundings.read`, `Surroundings.write`: Using what a path leads to.
* `Plan.carryOut`: The effect of a plan on surroundings.
-/

namespace CiteRender

/-- What a command does until it ends in an `α`. -/
inductive Plan (α : Type) where
  | done (result : α)
  | readInput (next : Except FileFault String → Plan α)
  | readFile (path : String) (next : Except FileFault String → Plan α)
  | writeFile (path text : String) (next : Except FileFault Unit → Plan α)

namespace Plan

/-- A plan, and another one that depends on its result. -/
def bind {α β : Type} : Plan α → (α → Plan β) → Plan β
  | done result, f => f result
  | readInput next, f => readInput fun text => (next text).bind f
  | readFile path next, f => readFile path fun text => (next text).bind f
  | writeFile path text next, f => writeFile path text fun outcome => (next outcome).bind f

instance : Monad Plan where
  pure := done
  bind := bind

/-- The text of the standard input. -/
def input : Plan (Except FileFault String) :=
  readInput done

/-- The text of a file. -/
def file (path : String) : Plan (Except FileFault String) :=
  readFile path done

/-- A text written to a file. -/
def save (path text : String) : Plan (Except FileFault Unit) :=
  writeFile path text done

end Plan

/-- What a command finds when it starts, and what it has put on the standard
    streams by their devices. -/
structure Surroundings where
  input : ByteArray := .empty
  output : String := ""
  complaint : String := ""
  files : Files := {}

namespace Surroundings

/-- The content that a path leads to. Reading the standard input uses it up. -/
def read (s : Surroundings) (path : String) : Except FileFault ByteArray × Surroundings :=
  match s.files.find path with
  | .error fault => (.error fault, s)
  | .ok .directory => (.error .isDirectory, s)
  | .ok (.file bytes) => (.ok bytes, s)
  | .ok (.device .standardInput) => (.ok s.input, { s with input := .empty })
  | .ok (.device _) => (.ok .empty, s)

/-- The surroundings with a text written to a device. -/
def writeDevice (s : Surroundings) (device : Device) (text : String) :
    Except FileFault Surroundings :=
  match device with
  | .full => .error .noSpace
  | .standardOutput => .ok { s with output := s.output ++ text }
  | .standardError => .ok { s with complaint := s.complaint ++ text }
  | _ => .ok s

/-- The surroundings with a text written to what a path leads to. -/
def write (s : Surroundings) (path text : String) : Except FileFault Surroundings :=
  match s.files.target path with
  | .error fault => .error fault
  | .ok (.inl place) => .ok { s with files := s.files.put place text.toUTF8 }
  | .ok (.inr device) => s.writeDevice device text

end Surroundings

namespace Plan

/-- The result of a plan, and the surroundings after it. Reading the standard
    input uses it up; a write that fails changes nothing. -/
def carryOut {α : Type} : Plan α → Surroundings → α × Surroundings
  | done result, s => (result, s)
  | readInput next, s => (next (decodeText s.input)).carryOut { s with input := .empty }
  | readFile path next, s =>
    let r := s.read path
    (next (r.1.bind decodeText)).carryOut r.2
  | writeFile path text next, s =>
    match s.write path text with
    | .ok s => (next (.ok ())).carryOut s
    | .error fault => (next (.error fault)).carryOut s

end Plan

end CiteRender
