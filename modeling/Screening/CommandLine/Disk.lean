import Screening.Keyed

/-!
# Files

What a run can find out about the files that its arguments name, and what it
leaves in them. A file is found under its path from the working folder; blank
steps of a path and steps to the same folder do not count.
-/

set_option autoImplicit false

namespace Screening.CommandLine

inductive Entry where
  | file (bytes : ByteArray)
  | folder
  /-- Nothing, in a folder that can take a file. -/
  | vacant
  /-- Nothing, and no folder to put a file in. -/
  | unreachable

def Entry.holds (bytes : ByteArray) : Entry → Bool
  | file found => found == bytes
  | _ => false

inductive FileFault where
  | missing
  | isFolder
  | notText
  deriving DecidableEq, Repr

def FileFault.message : FileFault → String
  | missing => "No such file or directory (os error 2)"
  | isFolder => "Is a directory (os error 21)"
  | notText => "stream did not contain valid UTF-8"

def readText (bytes : ByteArray) : Except FileFault String :=
  match String.fromUTF8? bytes with
  | some text => .ok text
  | none => .error .notText

structure Disk where
  /-- What was there when the run began. -/
  initial : String → Entry
  /-- The files that the run has opened to write, with what is in them now. -/
  written : List (String × ByteArray)

namespace Disk

def steps (path : String) : List String :=
  (path.splitOn "/").filter fun step => step ≠ "" ∧ step ≠ "."

def plainPath (path : String) : String :=
  (if path.startsWith "/" then "/" else "") ++ "/".intercalate (steps path)

def isFolderOf (files : List (String × String)) (path : String) : Bool :=
  path = "" || files.any fun f => f.1.startsWith (path ++ "/")

def leaves (path : String) : Bool := path.startsWith "/" || (steps path).contains ".."

def ofFiles (files : List (String × String)) : Disk :=
  let initial (path : String) : Entry :=
    match files.lookup path with
    | some text => .file text.toUTF8
    | none =>
      if leaves path then
        if (steps path).all (· = "..") then .folder else .unreachable
      else if isFolderOf files path then .folder
      else if isFolderOf files ("/".intercalate (steps path).dropLast) then .vacant
      else .unreachable
  ⟨initial, []⟩

def entry (d : Disk) (path : String) : Entry :=
  match d.written.lookup (plainPath path) with
  | some bytes => .file bytes
  | none => d.initial (plainPath path)

def read (d : Disk) (path : String) : Except FileFault String :=
  match d.entry path with
  | .file bytes => readText bytes
  | .folder => .error .isFolder
  | _ => .error .missing

def set (d : Disk) (path : String) (bytes : ByteArray) : Disk :=
  { d with written := Keyed.insert (plainPath path) bytes d.written }

def replace (d : Disk) (path text : String) : Except FileFault Disk :=
  match d.entry path with
  | .folder => .error .isFolder
  | .unreachable => .error .missing
  | _ => .ok (d.set path text.toUTF8)

def append (d : Disk) (path text : String) : Except FileFault Disk :=
  match d.entry path with
  | .folder => .error .isFolder
  | .unreachable => .error .missing
  | .vacant => .ok (d.set path text.toUTF8)
  | .file bytes => .ok (d.set path (bytes ++ text.toUTF8))

def changes (d : Disk) : List (String × ByteArray) :=
  d.written.filter fun f => !(d.initial f.1).holds f.2

end Disk

end Screening.CommandLine
