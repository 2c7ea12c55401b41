import CiteRender.Command.Path

/-!
# Files

What a command finds at the places that paths lead to. A directory is there
as soon as something is in it; those above where a command starts and the
usual ones at the root are there in any case. A few places are devices,
which take or give text without keeping it.

A path is followed from part to part, and each part but the last has to lead
to a directory. The first that does not decides what is wrong.

## Main definitions

* `FileFault`: Why a file cannot be used.
* `Device`, `Holding`: What may be at a place.
* `Files`: Contents by place.
* `Files.find`: What a path leads to.
* `Files.target`: The place that writing to a path fills.
* `decodeText`: The text that some bytes are.
-/

namespace CiteRender

/-- Why a file cannot be used. -/
inductive FileFault where
  | missing
  /-- a part of the path that leads on is no directory -/
  | notDirectory
  | isDirectory
  /-- the device takes nothing more -/
  | noSpace
  /-- a name in the path, or the path as a whole, is too long -/
  | nameTooLong
  /-- the content is no UTF-8 -/
  | notText
  | other (reason : String)
  deriving DecidableEq

/-- The wording of a fault. -/
def FileFault.message : FileFault → String
  | missing => "No such file or directory (os error 2)"
  | notDirectory => "Not a directory (os error 20)"
  | isDirectory => "Is a directory (os error 21)"
  | noSpace => "No space left on device (os error 28)"
  | nameTooLong => "File name too long (os error 36)"
  | notText => "stream did not contain valid UTF-8"
  | other reason => reason

/-- The text that some bytes are. -/
def decodeText (bytes : ByteArray) : Except FileFault String :=
  match String.fromUTF8? bytes with
  | some text => .ok text
  | none => .error .notText

/-- A place that keeps nothing. -/
inductive Device where
  /-- gives nothing and takes all -/
  | null
  /-- takes nothing -/
  | full
  | standardInput
  | standardOutput
  | standardError
  deriving DecidableEq

/-- The device of a name. -/
def Device.ofName? : String → Option Device
  | "null" => some .null
  | "full" => some .full
  | "stdin" => some .standardInput
  | "stdout" => some .standardOutput
  | "stderr" => some .standardError
  | _ => none

/-- What is at a place. -/
inductive Holding where
  | directory
  | file (bytes : ByteArray)
  | device (device : Device)

/-- The directories that are at the root in any case. -/
def rootDirectories : List String :=
  ["bin", "boot", "dev", "etc", "home", "lib", "media", "mnt", "opt", "proc", "root", "run",
    "sbin", "srv", "sys", "tmp", "usr", "var"]

/-- What is at some steps from the root in any case. -/
def rootHolding? : List String → Option Holding
  | [name] => if rootDirectories.contains name then some .directory else none
  | ["dev", name] => (Device.ofName? name).map .device
  | _ => none

/-- Contents by place. -/
structure Files where
  entries : List (Place × ByteArray) := []

namespace Files

/-- What is at a place. -/
def at? (files : Files) (place : Place) : Option Holding :=
  match files.entries.lookup place with
  | some bytes => some (.file bytes)
  | none =>
    if place.steps.isEmpty || files.entries.any fun entry => entry.1.isInside place then
      some .directory
    else if place.origin = .root then rootHolding? place.steps
    else none

/-- Passes a place that is a directory. -/
def enter (files : Files) (place : Place) : Except FileFault Unit :=
  match files.at? place with
  | some .directory => .ok ()
  | some _ => .error .notDirectory
  | none => .error .missing

/-- The place that some parts of a path lead to. There need be nothing. -/
def follow (files : Files) (place : Place) : List String → Except FileFault Place
  | [] => .ok place
  | part :: rest =>
    (files.enter place).bind fun _ =>
      if Path.isOverlong part then .error .nameTooLong
      else follow files (place.step part) rest

/-- What a path leads to. -/
def find (files : Files) (path : String) : Except FileFault Holding :=
  if Path.exceeds path then .error .nameTooLong
  else
    (files.follow (Place.start path) (Path.parts path)).bind fun place =>
      match files.at? place with
      | some holding => .ok holding
      | none => .error .missing

/-- What writing to a path fills: a place where a file is or may be, or a
    device. The directory of the place has to be there, and a path that ends
    as that of a directory does leads to no file. -/
def target (files : Files) (path : String) : Except FileFault (Place ⊕ Device) :=
  match Path.exceeds path, (Path.innerParts path).getLast? with
  | true, _ => .error .nameTooLong
  | false, none => .error .isDirectory
  | false, some name =>
    (files.follow (Place.start path) (Path.innerParts path).dropLast).bind fun directory =>
      (files.enter directory).bind fun _ =>
        if Path.endsInSlash path || Path.isIdle name || name = Path.upward then
          .error .isDirectory
        else if Path.isOverlong name then .error .nameTooLong
        else
          match files.at? (directory.child name) with
          | some .directory => .error .isDirectory
          | some (.device device) => .ok (.inr device)
          | _ => .ok (.inl (directory.child name))

/-- The entries with the content of a place replaced, or put last. -/
def putIn (place : Place) (bytes : ByteArray) :
    List (Place × ByteArray) → List (Place × ByteArray)
  | [] => [(place, bytes)]
  | entry :: rest =>
    if entry.1 = place then (place, bytes) :: rest else entry :: putIn place bytes rest

/-- The files with a content put at a place. -/
def put (files : Files) (place : Place) (bytes : ByteArray) : Files :=
  ⟨putIn place bytes files.entries⟩

/-- Files with names in the directory where a command starts. -/
def ofList (named : List (String × ByteArray)) : Files :=
  named.foldl (fun files file =>
    files.put ((Path.parts file.1).foldl Place.step {}) file.2) {}

end Files

end CiteRender
