/-
Module: Occupancy.RunFolder
Purpose: Folders that hold one trial of a run.
Main exports: RunFolder, RunFolder.ofFolder, RunFolder.logPath
-/
import Occupancy.Path

namespace Occupancy

/-- A folder with the logs of one trial. Its name is that of the run and the number of the trial, with
a dash between them. -/
structure RunFolder where
  path : Bytes
  folder : String
  runName : String
  runNumber : String
deriving DecidableEq, Repr, Inhabited

/-- Cut a text at its last dash. -/
def splitAtLastDash (cs : List Char) : Option (List Char × List Char) :=
  let backwards := cs.reverse
  match backwards.dropWhile (· != '-') with
  | [] => none
  | _ :: before => some (before.reverse, (backwards.takeWhile (· != '-')).reverse)

namespace RunFolder

/-- Split the name of a folder at its last dash. A name without a dash is a number of the run without
a name. -/
def ofFolder (path : Bytes) (folder : String) : RunFolder :=
  match splitAtLastDash folder.toList with
  | some (name, number) => ⟨path, folder, String.ofList name, String.ofList number⟩
  | none => ⟨path, folder, "", folder⟩

/-- Where the log of a benchmark is looked for: in a directory of its name inside the folder. -/
def logPath (run : RunFolder) (benchmark : String) : Bytes :=
  Path.join (Path.join run.path (Path.ofString benchmark)) (Path.ofString (benchmark ++ ".log"))

/-- Whether an item of an exclude list names the folder or its run. An empty item names nothing. -/
def isNamedBy (run : RunFolder) (exclude : List String) : Bool :=
  exclude.any fun item => item != "" && (item == run.folder || item == run.runName)

end RunFolder
end Occupancy
