import KeyProvisioning.Text.Utf8

/-!
# The disk around one file

A file is replaced by writing a temporary file beside it and renaming that over it. Of the disk
only the two entries and the presence of their directory matter. A write is a list of steps, each
of which takes effect at once or fails and ends the write, so that the disk can be looked at
between any two.
-/

namespace KeyProvisioning

/-- What stands under a name. -/
inductive DiskEntry
  | missing
  | file (content : Bytes)
  | directory
  deriving DecidableEq, Repr

/-- Why no text can be read under a name. -/
inductive ReadFailure
  | notFound
  /-- A directory, or octets that are not text. -/
  | unreadable
  deriving DecidableEq, Repr

/-- Read an entry as text. -/
def DiskEntry.readText : DiskEntry → Except ReadFailure String
  | missing => .error .notFound
  | file content =>
    match Utf8.text? content with
    | some text => .ok text
    | none => .error .unreadable
  | directory => .error .unreadable

/-- The entries of a file and of the temporary file beside it. -/
structure Disk where
  target : DiskEntry
  temporary : DiskEntry
  /-- Whether the directory that both belong to is there. -/
  hasParent : Bool
  deriving DecidableEq, Repr

/-- A step of writing a file. -/
inductive WriteStep
  /-- Create the temporary file or empty it. -/
  | create
  /-- Add an octet to the temporary file. -/
  | append (octet : UInt8)
  /-- Rename the temporary file over the target. -/
  | replace
  deriving DecidableEq, Repr

/-- A change made to the disk from outside. -/
inductive DiskEdit
  | writeFile (content : Bytes)
  | removeFile
  | makeDirectory
  | removeDirectory
  | makeTemporaryDirectory
  | removeTemporaryDirectory
  deriving DecidableEq, Repr

namespace Disk

/-- The disk after one step, unless the step fails. -/
def perform (disk : Disk) : WriteStep → Option Disk
  | .create =>
    if disk.hasParent && disk.temporary != .directory then
      some { disk with temporary := .file [] }
    else none
  | .append octet =>
    match disk.temporary with
    | .file content => some { disk with temporary := .file (content ++ [octet]) }
    | _ => none
  | .replace =>
    match disk.temporary, disk.target with
    | .file _, .directory => none
    | .file content, _ => some { disk with target := .file content, temporary := .missing }
    | _, _ => none

/-- Perform steps up to the first that fails; the answer tells whether none did. -/
def performAll (disk : Disk) : List WriteStep → Bool × Disk
  | [] => (true, disk)
  | step :: rest =>
    match disk.perform step with
    | some disk' => disk'.performAll rest
    | none => (false, disk)

/-- The steps that replace the target by a file of this content. -/
def replacementSteps (content : Bytes) : List WriteStep :=
  .create :: content.map .append ++ [.replace]

/-- Replace the target by a file of this content; the answer tells whether that succeeded. -/
def replaceTarget (disk : Disk) (content : Bytes) : Bool × Disk :=
  disk.performAll (replacementSteps content)

/-- The disk after an edit, unless the edit fails. -/
def edit (disk : Disk) : DiskEdit → Option Disk
  | .writeFile content =>
    if disk.hasParent && disk.target != .directory then
      some { disk with target := .file content }
    else none
  | .removeFile =>
    match disk.target with
    | .file _ => some { disk with target := .missing }
    | _ => none
  | .makeDirectory =>
    if disk.hasParent && disk.target == .missing then some { disk with target := .directory }
    else none
  | .removeDirectory =>
    if disk.target = .directory then some { disk with target := .missing } else none
  | .makeTemporaryDirectory =>
    if disk.hasParent && disk.temporary == .missing then
      some { disk with temporary := .directory }
    else none
  | .removeTemporaryDirectory =>
    if disk.temporary = .directory then some { disk with temporary := .missing } else none

/-- A directory without entries, in which a relative path names the target. Nothing below it is
there, so only a path without further directories has a parent. -/
def fresh (path : String) (target : DiskEntry) : Disk :=
  let parents := (path.splitOn "/").dropLast
  { target, temporary := .missing, hasParent := parents.all fun name => name == "." || name == "" }

end Disk

end KeyProvisioning
