/-
Module: Occupancy.FileTree.Build
Purpose: Trees of files from lists of what they are to hold.
Main exports: Entry, FileTree.ofEntries
-/
import Occupancy.FileTree.Operations

namespace Occupancy

/-- Something to put into a tree: a directory, a file with its bytes, or a link with its target. -/
inductive Entry where
  | directory (path : Bytes)
  | file (path data : Bytes)
  | link (path target : Bytes)
deriving DecidableEq, Repr

namespace FileTree

/-- Put one entry into a tree; the directories on its path are made as needed. -/
def add (tree : FileTree) (entry : Entry) : Except SystemError FileTree := do
  let parents (path : Bytes) : Except SystemError FileTree :=
    let (tree, result) := tree.makeDirectories [] ((Path.parent? path).getD [])
    result.map fun _ => tree
  match entry with
  | .directory path =>
    let (tree, result) := tree.makeDirectories [] path
    result.map fun _ => tree
  | .file path data => (← parents path).write [] path (.bytes data)
  | .link path target => (← parents path).makeLink [] path target

/-- A tree with the entries, which are put into it in order. -/
def ofEntries (entries : List Entry) : Except SystemError FileTree :=
  entries.foldlM add empty

end FileTree
end Occupancy
