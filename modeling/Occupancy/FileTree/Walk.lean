/-
Module: Occupancy.FileTree.Walk
Purpose: What a path leads to in a tree of files.
Main exports: SystemError, Part, Spot, FileTree.walk, FileTree.locate
-/
import Occupancy.FileTree.Basic
import Occupancy.Path

namespace Occupancy

/-- Why a file cannot be used. -/
inductive SystemError where
  | notFound
  | alreadyExists
  | notADirectory
  | isADirectory
  | nameTooLong
  | tooManyLinks
  | nulInPath
  | notText
deriving DecidableEq, Repr

/-- The text of an error of the system. -/
def SystemError.message : SystemError → String
  | notFound => "No such file or directory (os error 2)"
  | alreadyExists => "File exists (os error 17)"
  | notADirectory => "Not a directory (os error 20)"
  | isADirectory => "Is a directory (os error 21)"
  | nameTooLong => "File name too long (os error 36)"
  | tooManyLinks => "Too many levels of symbolic links (os error 40)"
  | nulInPath => "file name contained an unexpected NUL byte"
  | notText => "stream did not contain valid UTF-8"

/-- One part of a path. -/
inductive Part where
  | name (name : Bytes)
  | here
  | up
deriving DecidableEq, Repr

namespace Part

/-- The part that is written so, if anything is written. -/
def ofBytes? (bytes : Bytes) : Option Part :=
  if bytes.isEmpty then none
  else if bytes = [Path.dot] then some .here
  else if bytes = [Path.dot, Path.dot] then some .up
  else some (.name bytes)

/-- Cut a path at its slashes. The first argument is the part being read, backwards. -/
def split (part : Bytes) : Bytes → List Bytes
  | [] => [part.reverse]
  | b :: rest =>
    if b = Path.slash then part.reverse :: split [] rest else split (b :: part) rest

/-- The parts of a path. -/
def ofPath (path : Bytes) : List Part := (split [] path).filterMap ofBytes?

/-- The parts of a path that has to lead to a directory if a slash stands at its end. -/
def ofPathStrict (path : Bytes) : List Part :=
  ofPath path ++ if path.getLast? == some Path.slash then [.here] else []

end Part

/-- What a path leads to: something that is there, or a free name in a directory. -/
inductive Spot where
  | existing (location : Location)
  | vacant (directory : Location) (name : Bytes)
deriving DecidableEq, Repr

namespace FileTree

/-- The longest name in bytes. -/
def nameLimit : Nat := 255

/-- The length in bytes that paths must stay below. -/
def pathLimit : Nat := 4096

/-- How many links a path may lead through. -/
def linkLimit : Nat := 40

/-- Take the parts of a path one by one. Every part but the first has to be looked up in a directory.
A link is handed over together with what is left, unless it is the last part and is wanted
itself. -/
def walkParts (tree : FileTree) (keepLast : Bool)
    (follow : Location → Bytes → List Part → Except SystemError Spot) (here : Location) :
    List Part → Except SystemError Spot
  | [] => .ok (.existing here)
  | part :: rest =>
    match tree.lookup here with
    | some .directory =>
      match part with
      | .here => walkParts tree keepLast follow here rest
      | .up => walkParts tree keepLast follow here.dropLast rest
      | .name name =>
        if nameLimit < name.length then .error .nameTooLong
        else
          match tree.lookup (here ++ [name]) with
          | none => if rest.isEmpty then .ok (.vacant here name) else .error .notFound
          | some (.link path) =>
            if rest.isEmpty && keepLast then .ok (.existing (here ++ [name]))
            else follow here path rest
          | some _ => walkParts tree keepLast follow (here ++ [name]) rest
    | _ => .error .notADirectory

/-- Where a path begins: at the top, or where one is. -/
def origin (here : Location) (path : Bytes) : Location :=
  if Path.isAbsolute path then [] else here

/-- Take the parts of a path, through so many links at the most. -/
def walkLinks (tree : FileTree) (keepLast : Bool) : (links : Nat) → Location → List Part →
    Except SystemError Spot
  | 0 => walkParts tree keepLast fun _ _ _ => .error .tooManyLinks
  | links + 1 => walkParts tree keepLast fun here path rest =>
    walkLinks tree keepLast links (origin here path) (Part.ofPathStrict path ++ rest)

/-- What no path may be. -/
def checkPath (path : Bytes) : Except SystemError Unit :=
  if path.contains 0 then .error .nulInPath
  else if path.isEmpty then .error .notFound
  else if pathLimit ≤ path.length then .error .nameTooLong
  else .ok ()

/-- Follow a path to the end. -/
def walk (tree : FileTree) (here : Location) (path : Bytes) : Except SystemError Spot := do
  checkPath path
  walkLinks tree false linkLimit (origin here path) (Part.ofPathStrict path)

/-- Follow a path, but no link at its end, and take a slash at its end for nothing. -/
def walkToEntry (tree : FileTree) (here : Location) (path : Bytes) : Except SystemError Spot := do
  checkPath path
  walkLinks tree true linkLimit (origin here path) (Part.ofPath path)

/-- The location of what a path leads to. -/
def locate (tree : FileTree) (here : Location) (path : Bytes) : Except SystemError Location := do
  match ← tree.walk here path with
  | .existing location => return location
  | .vacant _ _ => throw .notFound

end FileTree
end Occupancy
