/-
Module: Occupancy.Plan
Purpose: Which run folders of an input directory are scanned.
Main exports: Plan, Plan.runNames, Plan.render, PlanError, WalkError, Plan.ofTree
-/
import Occupancy.FileTree.Operations
import Occupancy.RunFolder

namespace Occupancy

/-- The folders to scan, and the names of those left out, each in the order of their names. -/
structure Plan where
  folders : List RunFolder
  excluded : List String
deriving DecidableEq, Repr, Inhabited

namespace Plan

/-- The distinct run names, in the order in which they first appear. -/
def runNames (plan : Plan) : List String :=
  plan.folders.foldl (fun names run =>
    if names.contains run.runName then names else names ++ [run.runName]) []

/-- The lines of one run: its name and its folders. -/
def renderRun (plan : Plan) (name : String) : String :=
  "├── run: " ++ name ++ "\n" ++
    String.join ((plan.folders.filter (·.runName == name)).map fun run =>
      "│   ├── " ++ run.folder ++ "\n")

/-- The plan as a tree of lines: the folders of each run together, then how many there are. -/
def render (plan : Plan) (input : Bytes) : String :=
  "occstat plan: " ++ Text.display input ++ "\n" ++
    String.join (plan.runNames.map plan.renderRun) ++
    plan.folders.length.repr ++ " folders found (" ++ plan.excluded.length.repr ++ " excluded).\n"

end Plan

/-- Why an entry of the input directory stops the listing. -/
inductive WalkError where
  | entry (path : Bytes) (error : SystemError)
  | loop (path input : Bytes)
deriving DecidableEq, Repr

/-- The text of a listing error. -/
def WalkError.message : WalkError → String
  | entry path error => "IO error for operation on " ++ Text.display path ++ ": " ++ error.message
  | loop path input =>
    "File system loop found: " ++ Text.display path ++ " points to an ancestor " ++
      Text.display input

/-- Why there is no plan. -/
inductive PlanError where
  | inputDirectory (path : Bytes) (error : SystemError)
  | notADirectory (path : Bytes)
  | walk (error : WalkError)
deriving DecidableEq, Repr

/-- Less or equal in the order of bytes from the left; what ends first comes first. -/
def bytesLe : Bytes → Bytes → Bool
  | [], _ => true
  | _ :: _, [] => false
  | a :: as, b :: bs => a < b || (a == b && bytesLe as bs)

/-- The names in a directory in the order of their bytes. -/
def FileTree.sortedChildren (tree : FileTree) (directory : Location) : List Bytes :=
  (tree.children directory).mergeSort bytesLe

/-- Whether an entry of the input directory is a directory, links followed. A link back to the input
directory would be listed for ever and is refused, as is one that leads nowhere. -/
def FileTree.entryIsDirectory (tree : FileTree) (here : Location) (input : Bytes)
    (root : Location) (name : Bytes) : Except WalkError Bool :=
  let path := Path.join input name
  match tree.lookup (root ++ [name]) with
  | some .directory => .ok true
  | some (.link _) =>
    match tree.locate here path with
    | .error e => .error (.entry path e)
    | .ok location =>
      match tree.lookup location with
      | some .directory => if location == root then .error (.loop path input) else .ok true
      | _ => .ok false
  | _ => .ok false

namespace Plan

/-- Sort a run folder in. -/
def add (exclude : List String) (plan : Plan) (run : RunFolder) : Plan :=
  if run.isNamedBy exclude then { plan with excluded := plan.excluded ++ [run.folder] }
  else { plan with folders := plan.folders ++ [run] }

/-- Plan the scan of an input directory: every entry of it that is a directory, links followed, less
those that an item of the exclude list names. -/
def ofTree (tree : FileTree) (here : Location) (input : Bytes) (exclude : List String) :
    Except PlanError Plan := do
  let root ← (tree.locate here input).mapError (.inputDirectory input)
  let some .directory := tree.lookup root | throw (.notADirectory input)
  (tree.sortedChildren root).foldlM (fun plan name => do
    if ← (tree.entryIsDirectory here input root name).mapError .walk then
      return plan.add exclude (.ofFolder (Path.join input name) (Text.display name))
    else return plan) ⟨[], []⟩

end Plan
end Occupancy
