/-
Module: Occupancy.Settings
Purpose: What a settings file chooses.
Main exports: Settings, Settings.standard, Settings.parse, Settings.load, Settings.discover
-/
import Occupancy.Cause
import Occupancy.Toml.Reader

namespace Occupancy

/-- What to collect and what to leave out. -/
structure CollectSettings where
  benchmarks : List String
  ignoreKernels : List String
  ignoreFolders : List String
  pattern : Option String
deriving DecidableEq, Repr, Inhabited

/-- What to write. -/
structure OutputSettings where
  spreadsheet : String
  json : Option String
deriving DecidableEq, Repr, Inhabited

/-- All that can be set. -/
structure Settings where
  collect : CollectSettings
  output : OutputSettings
deriving DecidableEq, Repr, Inhabited

/-- Why there are no settings: their file cannot be read, or it is not understood. -/
inductive SettingsError where
  | unreadable (path : Bytes) (error : SystemError)
  | malformed (path : Bytes)
deriving DecidableEq, Repr

namespace Settings

/-- What is collected if nothing is set. -/
def standardCollect : CollectSettings := ⟨standardBenchmarks, standardIgnoredKernels, [], none⟩

/-- What is written if nothing is set. -/
def standardOutput : OutputSettings := ⟨"occupancy", none⟩

/-- Everything as it is if nothing is set. -/
def standard : Settings := ⟨standardCollect, standardOutput⟩

/-- The name of the file that is looked for. -/
def fileName : Bytes := Path.ofString "occstat.toml"

/-- The values of named fields: of a table by their names, of an array by their order. Whatever else
is there does not matter. -/
def fields (names : List String) : Toml.Value → Option (List (Option Toml.Value))
  | .table _ members => some (names.map (Toml.Members.get? members))
  | .array _ items => some (names.mapIdx fun i _ => items[i]?)
  | _ => none

/-- A value that is a text. -/
def text? : Toml.Value → Option String
  | .text text => some text
  | _ => none

/-- A value that is an array of texts. -/
def texts? : Toml.Value → Option (List String)
  | .array _ items => items.mapM text?
  | _ => none

/-- Read a field, or take what stands for it if it is not there. -/
def orElse {α : Type} (read : Toml.Value → Option α) (standard : α) : Option Toml.Value → Option α
  | some value => read value
  | none => some standard

/-- What to collect. -/
def collect? (value : Toml.Value) : Option CollectSettings := do
  let [benchmarks, ignoreKernels, ignoreFolders, pattern] ←
    fields ["benchmarks", "ignore_kernels", "ignore_folders", "pattern"] value | none
  return {
    benchmarks := ← orElse texts? standardBenchmarks benchmarks
    ignoreKernels := ← orElse texts? standardIgnoredKernels ignoreKernels
    ignoreFolders := ← orElse texts? [] ignoreFolders
    pattern := ← orElse (fun value => (text? value).map some) none pattern }

/-- What to write. -/
def output? (value : Toml.Value) : Option OutputSettings := do
  let [spreadsheet, json] ← fields ["spreadsheet", "json"] value | none
  return {
    spreadsheet := ← orElse text? standardOutput.spreadsheet spreadsheet
    json := ← orElse (fun value => (text? value).map some) none json }

/-- The settings of a document. -/
def ofMembers? (members : Toml.Members) : Option Settings := do
  return {
    collect := ← orElse collect? standardCollect (members.get? "collect")
    output := ← orElse output? standardOutput (members.get? "output") }

/-- Read the text of a settings file. -/
def parse (text : List Char) : Option Settings := (Toml.parse text).bind ofMembers?

/-- Read a settings file. -/
def load (tree : FileTree) (here : Location) (path : Bytes) : Except SettingsError Settings := do
  let text ← (tree.readText here path).mapError (.unreadable path)
  match parse text with
  | some settings => return settings
  | none => throw (.malformed path)

/-- The absolute path of the settings file in a directory. -/
def filePath (directory : Location) : Bytes := Path.join (Path.ofLocation directory) fileName

/-- The settings of the file in a directory, if there is such a file; a file that is not understood
leaves everything as it is. The file is looked for at its absolute path, and a path that is too long
leads nowhere. -/
def here? (tree : FileTree) (directory : Location) : Option (Option Settings) :=
  if tree.pathExists [] (filePath directory) then
    some (load tree [] (filePath directory)).toOption
  else none

/-- A directory and those around it, the innermost first. -/
def ancestors (directory : Location) : List Location :=
  (List.range (directory.length + 1)).reverse.map directory.take

/-- Look for a settings file, from a directory outwards. The first one that is there decides. -/
def discover (tree : FileTree) (directory : Location) : Option Settings :=
  ((ancestors directory).findSome? (here? tree)).join

/-- The rule for lines that is set. -/
def rule (s : CollectSettings) : Except RuleFault LineRule :=
  match s.pattern with
  | some pattern => LineRule.ofText pattern
  | none => .ok .standard

/-- A settings file that sets everything to what it is anyway. -/
def template : String := String.intercalate "\n" [
  "# occstat configuration",
  "",
  "[collect]",
  "# Benchmarks reported on, in report order",
  "benchmarks = [",
  "    \"densenet121\",",
  "    \"densenet169\",",
  "    \"densenet201\",",
  "    \"inception_resnet_v2\",",
  "    \"inception_v3\",",
  "    \"mobilenet\",",
  "    \"nasnet_large\",",
  "    \"nasnet_mobile\",",
  "    \"resnet50\",",
  "    \"vgg16\",",
  "    \"vgg19\",",
  "    \"xception\",",
  "    \"imdb_lstm\",",
  "]",
  "# Kernels printed before scheduling; their occupancy is not counted",
  "ignore_kernels = [",
  "    \"copyBufferRect\",",
  "    \"copyBufferRectAligned\",",
  "    \"copyBuffer\",",
  "    \"copyBufferAligned\",",
  "    \"fillBuffer\",",
  "    \"copyBufferToImage\",",
  "    \"copyImageToBuffer\",",
  "    \"copyImage\",",
  "    \"copyImage1DA\",",
  "    \"fillImage\",",
  "    \"scheduler\",",
  "]",
  "# Run folders (or whole runs, by run name) to always skip",
  "ignore_folders = []",
  "# Custom line pattern with named groups `kernel` and `value` (uncomment to enable)",
  "# pattern = '^Final occupancy for function (?P<kernel>.*):(?P<value>\\d+)'",
  "",
  "[output]",
  "# Spreadsheet path; \".xlsx\" is appended unless the name ends in an xls extension",
  "spreadsheet = \"occupancy\"",
  "# JSON summary path (uncomment to enable)",
  "# json = \"occupancy.json\"",
  ""]

end Settings

/-- What is told of an error, the outermost cause first. -/
def SettingsError.chain : SettingsError → List Cause
  | .unreadable path e =>
    [.words ("failed to read " ++ Text.display path), .words e.message]
  | .malformed path => [.words ("failed to parse " ++ Text.display path), .document]

end Occupancy
