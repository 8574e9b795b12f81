import VoiceHub.Dict
import VoiceHub.Text.Utf8

/-!
Files that are read by path.

A `Directory` answers for a working directory with known entries: a path is
walked part by part from there.  Outside of it there is what every system has.
-/

namespace VoiceHub

inductive FileError where
  | notFound
  | notDirectory
  | isDirectory
  | nameTooLong
  | notText
  deriving DecidableEq, Repr

namespace FileError

def notTextMessage : String := "stream did not contain valid UTF-8"

/-- The number and the name of the system's error. -/
def code? : FileError → Option (Nat × String)
  | .notFound => some (2, "No such file or directory")
  | .notDirectory => some (20, "Not a directory")
  | .isDirectory => some (21, "Is a directory")
  | .nameTooLong => some (36, "File name too long")
  | .notText => none

def message (e : FileError) : String :=
  match e.code? with
  | some (code, name) => name ++ " (os error " ++ Decimal.text code ++ ")"
  | none => notTextMessage

end FileError

abbrev Files := String → Except FileError (List UInt8)

namespace Files

/-- A directory is there, too. -/
def contains (files : Files) (path : String) : Bool :=
  match files path with
  | .error .notFound | .error .notDirectory | .error .nameTooLong => false
  | _ => true

def readText (files : Files) (path : String) : Except FileError String := do
  match Utf8.decode (← files path) with
  | .ok text => .ok text
  | .error _ => .error .notText

end Files

inductive DirectoryEntry where
  | file (bytes : List UInt8)
  | directory
  deriving DecidableEq, Repr

/-- The entries of a working directory by their paths from there. -/
structure Directory where
  entries : Dict DirectoryEntry

namespace Directory

/-- A place in the directory, one of the directories above it, or a place of the system. -/
inductive Place where
  | inside (path : List String)
  | above (levels : Nat)
  | system (path : List String)

def pathText (path : List String) : String := "/".intercalate path

/-- Some entries of every system, an empty file among them. -/
def systemEntries : Dict DirectoryEntry :=
  Dict.ofList
    [("dev", .directory), ("dev/null", .file []), ("etc", .directory), ("tmp", .directory),
      ("usr", .directory)]

def entry? (d : Directory) : Place → Option DirectoryEntry
  | .inside [] | .above _ | .system [] => some .directory
  | .inside path => d.entries.find? (pathText path)
  | .system path => systemEntries.find? (pathText path)

/-- The bytes that one part of a path may have. -/
def nameLimit : Nat := 255

/-- The bytes that a whole path may have. -/
def pathLimit : Nat := 4095

/-- One part of a path. -/
def step (d : Directory) (place : Place) (part : String) : Except FileError Place :=
  match d.entry? place with
  | none => .error .notFound
  | some (.file _) => .error .notDirectory
  | some .directory =>
      if part = "" ∨ part = "." then .ok place
      else if part = ".." then
        match place with
        | .inside [] => .ok (.above 1)
        | .inside path => .ok (.inside path.dropLast)
        | .above levels => .ok (.above (levels + 1))
        | .system path => .ok (.system path.dropLast)
      else if nameLimit < part.utf8ByteSize then .error .nameTooLong
      else match place with
        | .inside path => .ok (.inside (path ++ [part]))
        | .above _ => .error .notFound
        | .system path => .ok (.system (path ++ [part]))

def read (d : Directory) : Files := fun path => do
  if path = "" then throw .notFound
  if pathLimit < path.utf8ByteSize then throw .nameTooLong
  let start := if path.startsWith "/" then .system [] else .inside []
  match d.entry? (← (path.splitOn "/").foldlM d.step start) with
  | none => .error .notFound
  | some .directory => .error .isDirectory
  | some (.file bytes) => .ok bytes

end Directory

end VoiceHub
