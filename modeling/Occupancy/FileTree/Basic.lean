/-
Module: Occupancy.FileTree.Basic
Purpose: A tree of files as data.
Main exports: FileTree, Location, Node, Contents, FileTree.lookup, FileTree.put, FileTree.children
-/
import Occupancy.Sheet.Cell
import Occupancy.Text.Utf8

namespace Occupancy

/-!
A tree is kept flat: every file, directory and link stands in one list under its location, which is
the list of names that lead to it from the top. The top itself is always there and is not listed.
A change at one location thus plainly leaves every other one alone.
-/

/-- Names from the top of a tree down to something in it. -/
abbrev Location := List Bytes

/-- What a regular file holds: bytes, or a workbook, which is kept as the cells stored in it. -/
inductive Contents where
  | bytes (data : Bytes)
  | workbook (cells : List Sheet.Cell)
deriving Repr, Inhabited

/-- The bytes of a file as far as they are lines of text; those of a workbook are none. -/
def Contents.text : Contents → Bytes
  | .bytes data => data
  | .workbook _ => []

/-- What stands at a location. A link holds the path that it leads on to. -/
inductive Node where
  | directory
  | file (contents : Contents)
  | link (path : Bytes)
deriving Repr, Inhabited

/-- Everything below the top, by location. -/
structure FileTree where
  entries : List (Location × Node)
deriving Repr, Inhabited

namespace FileTree

/-- A tree with nothing below its top. -/
def empty : FileTree := ⟨[]⟩

/-- What stands at a location. -/
def lookup (tree : FileTree) : Location → Option Node
  | [] => some .directory
  | location => (tree.entries.find? (·.1 == location)).map (·.2)

/-- Replace the first entry of a location, or add one at the end. -/
def putEntry (location : Location) (node : Node) : List (Location × Node) → List (Location × Node)
  | [] => [(location, node)]
  | entry :: rest =>
    if entry.1 == location then (location, node) :: rest else entry :: putEntry location node rest

/-- Put something at a location, in place of what stands there. -/
def put (tree : FileTree) (location : Location) (node : Node) : FileTree :=
  ⟨putEntry location node tree.entries⟩

/-- The names in a directory, in no particular order. -/
def children (tree : FileTree) (directory : Location) : List Bytes :=
  tree.entries.filterMap fun entry =>
    if entry.1.dropLast == directory then entry.1.getLast? else none

end FileTree
end Occupancy
