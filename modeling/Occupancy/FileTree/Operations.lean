/-
Module: Occupancy.FileTree.Operations
Purpose: Reading and changing a tree of files by paths.
Main exports: FileTree.find, FileTree.pathExists, FileTree.isDirectory, FileTree.isFile,
  FileTree.read, FileTree.write, FileTree.makeDirectories
-/
import Occupancy.FileTree.Walk

namespace Occupancy.FileTree

/-!
Relative paths begin at a location, `here`. A change gives back the changed tree; one that fails
gives an error and so changes nothing. Only making several directories can fail halfway, and gives
the tree in both cases.
-/

/-- What a path leads to. -/
def find (tree : FileTree) (here : Location) (path : Bytes) : Except SystemError Node := do
  let some node := tree.lookup (← tree.locate here path) | throw .notFound
  return node

/-- Whether a path leads to something. -/
def pathExists (tree : FileTree) (here : Location) (path : Bytes) : Bool :=
  (tree.find here path).isOk

/-- Whether a path leads to a directory. -/
def isDirectory (tree : FileTree) (here : Location) (path : Bytes) : Bool :=
  match tree.find here path with
  | .ok .directory => true
  | _ => false

/-- Whether a path leads to a regular file. -/
def isFile (tree : FileTree) (here : Location) (path : Bytes) : Bool :=
  match tree.find here path with
  | .ok (.file _) => true
  | _ => false

/-- The contents of the file that a path leads to. -/
def read (tree : FileTree) (here : Location) (path : Bytes) : Except SystemError Contents := do
  match ← tree.find here path with
  | .file contents => return contents
  | .directory | .link _ => throw .isADirectory

/-- The text of the file that a path leads to, if it is text throughout. -/
def readText (tree : FileTree) (here : Location) (path : Bytes) :
    Except SystemError (List Char) := do
  match Text.decode? (← tree.read here path).text with
  | some text => return text
  | none => throw .notText

/-- Put contents into the file that a path leads to, which is made if its directory is there. No
file has a slash at the end of its path. -/
def write (tree : FileTree) (here : Location) (path : Bytes) (contents : Contents) :
    Except SystemError FileTree := do
  if path.getLast? == some Path.slash then
    let _ ← tree.walkToEntry here path
    throw .isADirectory
  match ← tree.walk here path with
  | .vacant directory name => return tree.put (directory ++ [name]) (.file contents)
  | .existing location =>
    match tree.lookup location with
    | some (.file _) => return tree.put location (.file contents)
    | _ => throw .isADirectory

/-- Make a directory. -/
def makeDirectory (tree : FileTree) (here : Location) (path : Bytes) :
    Except SystemError FileTree := do
  match ← tree.walkToEntry here path with
  | .vacant directory name => return tree.put (directory ++ [name]) .directory
  | .existing _ => throw .alreadyExists

/-- Make a link. -/
def makeLink (tree : FileTree) (here : Location) (path target : Bytes) :
    Except SystemError FileTree := do
  match ← tree.walkToEntry here path with
  | .vacant directory name => return tree.put (directory ++ [name]) (.link target)
  | .existing _ => throw .alreadyExists

/-- Make a directory unless there is one. -/
def ensureDirectory (tree : FileTree) (here : Location) (path : Bytes) :
    Except SystemError FileTree :=
  match tree.makeDirectory here path with
  | .ok tree => .ok tree
  | .error e => if tree.isDirectory here path then .ok tree else .error e

/-- Make a directory and those above it that are missing. A parent is only looked at when the
directory cannot be made for want of it. What has been made stays even if something below it cannot
be made. The fuel bounds the parents. -/
def makeDirectoriesFrom (tree : FileTree) (here : Location) : (fuel : Nat) → Bytes →
    FileTree × Except SystemError Unit
  | 0, _ => (tree, .ok ())
  | fuel + 1, path =>
    if path.isEmpty then (tree, .ok ())
    else
      match tree.ensureDirectory here path, Path.parent? path with
      | .ok made, _ => (made, .ok ())
      | .error .notFound, some parent =>
        match tree.makeDirectoriesFrom here fuel parent with
        | (tree, .error e) => (tree, .error e)
        | (tree, .ok ()) =>
          match tree.ensureDirectory here path with
          | .ok made => (made, .ok ())
          | .error e => (tree, .error e)
      | .error e, _ => (tree, .error e)

/-- Make a directory and those above it that are missing. -/
def makeDirectories (tree : FileTree) (here : Location) (path : Bytes) :
    FileTree × Except SystemError Unit :=
  tree.makeDirectoriesFrom here (path.length + 1) path

end Occupancy.FileTree
