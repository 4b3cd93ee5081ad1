/-
# A tree of files

What the program does to files is described on a tree: directories, files with a
text, and files that cannot be read.  Names are walked part by part, absolute ones
from the root and all others from the working directory, and a part in the middle
must be a directory.  Nothing is above the root.
-/

import ApiDoc.Command.FileName
import ApiDoc.Table

namespace ApiDoc

/-- What a name can lead to. -/
inductive FileEntry where
  | directory
  | file (content : String)
  /-- A file that cannot be read as a text, and why. -/
  | unreadable (reason : String)
  deriving DecidableEq, Repr

/-- Why the text of a file cannot be had. -/
inductive ReadFailure where
  | missing
  /-- There is something, but not a text that can be read. -/
  | refused (reason : String)
  deriving DecidableEq, Repr

/-- The entries of a file system.  An entry's name is the path of its parts from
the root, joined by slashes; the root itself is always there. -/
structure FileTree where
  entries : Table FileEntry
  /-- The working directory, a path of parts from the root. -/
  home : List String := []
  /-- The entries that may not be changed: files that may not be written, and
  directories in which nothing may be made. -/
  sealed : List String := []
  deriving DecidableEq, Repr

namespace FileTree

/-- The name of the entry that a path of parts leads to. -/
def joined (path : List String) : String :=
  "/".intercalate path

/-- What a path of parts from the root leads to. -/
def look? (t : FileTree) (path : List String) : Option FileEntry :=
  if path.isEmpty then some .directory else t.entries.get? (joined path)

/-- Whether the entry that a path leads to may not be changed. -/
def isSealed (t : FileTree) (path : List String) : Bool :=
  t.sealed.contains (joined path)

/-- Put an entry at the end of a path. -/
def put (t : FileTree) (path : List String) (entry : FileEntry) : FileTree :=
  { t with entries := t.entries.insert (joined path) entry }

/-- The directory where a walk to a name begins. -/
def start (t : FileTree) (name : String) : List String :=
  if FileName.isAbsolute name then [] else t.home

/-- Walk parts one after another from a directory.  Every part but the last must
lead to a directory; the result is the path that the last part has, whether or
not anything is there. -/
def walk (t : FileTree) (path : List String) : List String → Option (List String)
  | [] => some path
  | part :: rest =>
    if t.look? path = some .directory then walk t (FileName.step path part) rest else none

/-- The path that a name leads to, whether or not anything is there. -/
def locate? (t : FileTree) (name : String) : Option (List String) :=
  if name = "" then none else t.walk (t.start name) (FileName.parts name)

/-- What a name leads to. -/
def find? (t : FileTree) (name : String) : Option FileEntry :=
  match t.locate? name with
  | none => none
  | some path =>
    match t.look? path with
    | some .directory => some .directory
    | found => if FileName.asksDirectory name then none else found

/-- The text of a file, or why it cannot be had. -/
def readText (t : FileTree) (name : String) : Except ReadFailure String :=
  match t.find? name with
  | none => .error .missing
  | some .directory => .error (.refused "Is a directory")
  | some (.unreadable reason) => .error (.refused reason)
  | some (.file content) => .ok content

/-- Make every directory along the parts of a name that is missing.  What is made
before something stands in the way stays. -/
def makeAlong (t : FileTree) (path : List String) : List String → Except String Unit × FileTree
  | [] => (.ok (), t)
  | part :: rest =>
    let next := FileName.step path part
    match t.look? next with
    | some .directory => makeAlong t next rest
    | some _ => (.error "Not a directory", t)
    | none =>
      if t.isSealed path then (.error "Permission denied", t)
      else makeAlong (t.put next .directory) next rest

/-- Make a directory and those it is in, as far as they are missing. -/
def makeDirectories (t : FileTree) (name : String) : Except String Unit × FileTree :=
  if t.look? (t.start name) = some .directory then
    t.makeAlong (t.start name) (FileName.parts name)
  else (.error "No such file or directory", t)

/-- The path of what changes when a file is written: the file, or the directory that
it is made in. -/
def touched (t : FileTree) (path : List String) : List String :=
  if (t.look? path).isSome then path else path.dropLast

/-- Write a file in a directory that exists. -/
def writeText (t : FileTree) (name content : String) : Except String Unit × FileTree :=
  match t.locate? name with
  | none => (.error "No such file or directory", t)
  | some path =>
    if FileName.asksDirectory name ∨ t.look? path = some .directory then
      (.error "Is a directory", t)
    else if t.look? path.dropLast ≠ some .directory then (.error "Not a directory", t)
    else if t.isSealed (t.touched path) then (.error "Permission denied", t)
    else (.ok (), t.put path (.file content))

end FileTree

end ApiDoc
