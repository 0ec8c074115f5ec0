import Provision.Dict
import Provision.Run.Fault
import Provision.Text.Lines

/-!
# File trees

A tree of directories and files, and the way a path leads through it.  Every part of a path but
the last has to be a directory that is there.  A path never leads out of the tree.
-/

namespace Provision

inductive FileTree where
  | file (bytes : ByteArray)
  | directory (entries : List (String × FileTree))

namespace FileTree

/-- The names on the way from the top of a tree to a place in it. -/
abbrev Place := List String

def empty : FileTree := .directory []

def at? : FileTree → Place → Option FileTree
  | t, [] => some t
  | .file _, _ :: _ => none
  | .directory entries, name :: rest =>
      match entries.lookup name with
      | some t => t.at? rest
      | none => none

/-- Puts a tree at a place whose directory is there. -/
def putAt (new : FileTree) : Place → FileTree → FileTree
  | [], _ => new
  | _ :: _, .file bytes => .file bytes
  | name :: rest, .directory entries =>
      match entries.lookup name with
      | some t => .directory (Dict.insertEntry name (putAt new rest t) entries)
      | none =>
          if rest.isEmpty then .directory (Dict.insertEntry name new entries)
          else .directory entries

inductive Step where
  | stay
  | up
  | into (name : String)
deriving DecidableEq, Repr

/-- The steps of a path; one that ends with a slash stays at its end. -/
def steps (path : String) : List Step :=
  (Text.pieces '/' path.toList).map fun piece =>
    match String.ofList piece with
    | "" => .stay
    | "." => .stay
    | ".." => .up
    | name => .into name

def isAbsolute (path : String) : Bool :=
  path.toList.head? = some '/'

/-- Whether a path or a name in it holds the character that ends paths. -/
def holdsZero (path : String) : Bool :=
  path.toList.contains '\x00'

/-- Whether a name has more bytes than a directory takes. -/
def isLongName (name : String) : Bool :=
  255 < name.utf8ByteSize

/-- Whether a path has more bytes than the system reads. -/
def isLongPath (path : String) : Bool :=
  4095 < path.utf8ByteSize

/-- Where steps lead from a place.  The last of them need not be there. -/
def walk (t : FileTree) : List Step → Place → Except Fault Place
  | [], place => .ok place
  | step :: rest, place =>
      match t.at? place with
      | none => .error .noEntry
      | some (.file _) => .error .notADirectory
      | some (.directory _) =>
          match step with
          | .stay => walk t rest place
          | .up => if place.isEmpty then .error .noEntry else walk t rest place.dropLast
          | .into name =>
              if isLongName name then .error .nameTooLong else walk t rest (place ++ [name])

/-- The place that a path leads to, and what is there. -/
def find (t : FileTree) (start : Place) (path : String) : Except Fault (Place × FileTree) :=
  if holdsZero path then .error .zeroInPath
  else if isLongPath path then .error .nameTooLong
  else if isAbsolute path then .error .noEntry
  else
    match t.walk (steps path) start with
    | .error fault => .error fault
    | .ok place =>
        match t.at? place with
        | some found => .ok (place, found)
        | none => .error .noEntry

def readText (t : FileTree) (start : Place) (path : String) : Except Fault String :=
  match t.find start path with
  | .error fault => .error fault
  | .ok (_, .directory _) => .error .isADirectory
  | .ok (_, .file bytes) =>
      match String.fromUTF8? bytes with
      | some text => .ok text
      | none => .error .notText

/-- Goes along steps and makes the directories that are not there, up to a fault. -/
def makeDirectories : List Step → Place → FileTree → FileTree × Except Fault Place
  | [], place, t => (t, .ok place)
  | .stay :: rest, place, t => makeDirectories rest place t
  | .up :: rest, place, t =>
      if place.isEmpty then (t, .error .noEntry) else makeDirectories rest place.dropLast t
  | .into name :: rest, place, t =>
      let next := place ++ [name]
      match t.at? next with
      | some (.directory _) => makeDirectories rest next t
      | some (.file _) => (t, .error (if rest.isEmpty then .entryExists else .notADirectory))
      | none =>
          if isLongName name then (t, .error .nameTooLong)
          else makeDirectories rest next (putAt empty next t)

/-- The steps to the directory that a path names its last entry in. -/
def stepsAbove (path : String) : List Step :=
  ((steps path).filter (· ≠ .stay)).dropLast

/-- What a path ends with. -/
inductive Ending where
  | name (text : String)
  | slash
  /-- One dot or two, with or without slashes after them. -/
  | dots
deriving DecidableEq, Repr

def ending (path : String) : Ending :=
  let names := (Text.pieces '/' path.toList).reverse
  match names.dropWhile List.isEmpty with
  | [] => .slash
  | name :: _ =>
      if name = ['.'] || name = ['.', '.'] then .dots
      else if names.head? = some [] then .slash
      else .name (String.ofList name)

/-- Writes a file whose directory is there, over an earlier one.  A path that ends in dots leads
on to where it ends, which is no file in any case. -/
def writeIn (t : FileTree) (start place : Place) (path : String) (bytes : ByteArray) :
    FileTree × Option Fault :=
  match ending path with
  | .slash => (t, some .isADirectory)
  | .dots =>
      match t.walk (steps path) start with
      | .error fault => (t, some fault)
      | .ok _ => (t, some .isADirectory)
  | .name name =>
      let target := place ++ [name]
      if isLongName name then (t, some .nameTooLong)
      else
        match t.at? target with
        | some (.directory _) => (t, some .isADirectory)
        | _ => (putAt (.file bytes) target t, none)

/-- Writes a file and makes the directories on the way to it. -/
def write (t : FileTree) (start : Place) (path : String) (bytes : ByteArray) :
    FileTree × Option Fault :=
  if (stepsAbove path).any namesZero then (t, some .zeroInPath)
  else if isLongPath path then (t, some .nameTooLong)
  else if isAbsolute path then (t, some .noEntry)
  else
    match makeDirectories (stepsAbove path) start t with
    | (t, .error fault) => (t, some fault)
    | (t, .ok place) =>
        if holdsZero path then (t, some .zeroInPath) else t.writeIn start place path bytes
where
  namesZero : Step → Bool
    | .into name => holdsZero name
    | _ => false

mutual

/-- All paths below a directory, each with its bytes unless it is a directory. -/
def listing (lead : String) : FileTree → List (String × Option ByteArray)
  | .file _ => []
  | .directory entries => listEntries lead entries

def listEntries (lead : String) : List (String × FileTree) → List (String × Option ByteArray)
  | [] => []
  | (name, .file bytes) :: rest => (lead ++ name, some bytes) :: listEntries lead rest
  | (name, .directory entries) :: rest =>
      let path := lead ++ name ++ "/"
      (path, none) :: listEntries path entries ++ listEntries lead rest

end

end FileTree
end Provision
