/-
Module: Occupancy.CommandLine.Arguments
Purpose: Reading the arguments of the program.
Main exports: Arguments, ArgumentError, Arguments.parse, ignoreList
-/
import Occupancy.Path
import Occupancy.Text.Blank

namespace Occupancy.CommandLine

/-- Arguments that are given or not. -/
inductive Switch where
  | verbose
  | disable
  | dryRun
deriving DecidableEq, Repr

/-- Arguments that have a value. -/
inductive Setting where
  | output
  | input
  | ignore
  | json
  | config
deriving DecidableEq, Repr

/-- What a name stands for. -/
inductive Meaning where
  | switch (s : Switch)
  | setting (s : Setting)
  | help
  | version
deriving DecidableEq, Repr

/-- What the arguments ask for. -/
structure Arguments where
  verbose : Bool
  output : Option Bytes
  disable : Bool
  input : Bytes
  ignore : String
  json : Option Bytes
  config : Option Bytes
  dryRun : Bool
deriving DecidableEq, Repr, Inhabited

/-- Why there are no arguments to go by. The last two are what was asked for. -/
inductive ArgumentError where
  | unknown
  | invalidValue
  | repeated
  | needlessValue
  | notText
  | help
  | version
deriving DecidableEq, Repr

/-- The meaning of a name behind two hyphens. -/
def longName? (name : Bytes) : Option Meaning :=
  ([("verbose", .switch .verbose), ("output", .setting .output), ("disable", .switch .disable),
    ("input", .setting .input), ("ignore", .setting .ignore), ("json", .setting .json),
    ("config", .setting .config), ("dry-run", .switch .dryRun), ("help", .help),
    ("version", .version)] : List (String × Meaning)).lookup (Text.display name)

/-- The meaning of a letter behind one hyphen. -/
def letter? (b : UInt8) : Option Meaning :=
  ([('v', .switch .verbose), ('o', .setting .output), ('d', .switch .disable),
    ('i', .setting .input), ('h', .help), ('V', .version)] : List (Char × Meaning)).lookup
      (Char.ofNat b.toNat)

/-- What has been read: the switches and values given so far, and a setting whose value is still
taken from the next argument or has not been looked at yet. -/
structure Given where
  switches : List Switch
  values : List (Setting × Bytes)
  pending : Option (Setting × Option Bytes)
deriving DecidableEq, Repr

namespace Given

/-- Nothing has been read. -/
def none : Given := ⟨[], [], Option.none⟩

/-- Whether a value will do. A path has at least one byte, and a list of names is text. -/
def check (s : Setting) (value : Bytes) : Except ArgumentError Unit :=
  match s with
  | .ignore => if (Text.decode? value).isSome then .ok () else .error .notText
  | _ => if value.isEmpty then .error .invalidValue else .ok ()

/-- Take a value for a setting, which may be given once. -/
def take (g : Given) (s : Setting) (value : Bytes) : Except ArgumentError Given := do
  if g.values.any (·.1 == s) then throw .repeated
  check s value
  return { g with values := g.values ++ [(s, value)] }

/-- Look at the value of the last setting. -/
def settle (g : Given) : Except ArgumentError Given :=
  match g.pending with
  | Option.none => .ok g
  | some (_, Option.none) => .error .invalidValue
  | some (s, some value) => { g with pending := Option.none }.take s value

/-- Take a switch, which may be given once. -/
def switch (g : Given) (s : Switch) : Except ArgumentError Given := do
  let g ← g.settle
  if s ∈ g.switches then throw .repeated
  return { g with switches := g.switches ++ [s] }

/-- Take a setting with a value that is written in the same argument. -/
def attached (g : Given) (s : Setting) (value : Bytes) : Except ArgumentError Given := do
  (← g.settle).take s value

/-- Take a setting whose value is the next argument. -/
def awaited (g : Given) (s : Setting) : Except ArgumentError Given := do
  return { ← g.settle with pending := some (s, Option.none) }

/-- Answer a question for help or the version, unless the last setting is wrong. -/
def ask (g : Given) (question : ArgumentError) : Except ArgumentError Given := do
  let _ ← g.settle
  throw question

end Given

/-- The byte of a hyphen. -/
def hyphen : UInt8 := 0x2D

/-- The byte of an equals sign. -/
def equals : UInt8 := 0x3D

/-- Read a name behind two hyphens, and the value behind its equals sign. -/
def readLong (g : Given) (text : Bytes) : Except ArgumentError Given :=
  let name := text.takeWhile (· != equals)
  let value := match text.dropWhile (· != equals) with
    | _ :: value => some value
    | [] => none
  match longName? name, value with
  | none, _ => .error .unknown
  | some (.setting s), some value => g.attached s value
  | some (.setting s), none => g.awaited s
  | some _, some _ => .error .needlessValue
  | some (.switch s), none => g.switch s
  | some .help, none => g.ask .help
  | some .version, none => g.ask .version

/-- Read letters behind one hyphen. What follows the letter of a setting is its value, with an equals
sign in front of it or not. -/
def readLetters (g : Given) : Bytes → Except ArgumentError Given
  | [] => .ok g
  | b :: rest =>
    match letter? b with
    | none => .error .unknown
    | some (.setting s) =>
      match rest with
      | [] => g.awaited s
      | c :: value => g.attached s (if c = equals then value else rest)
    | some (.switch s) => do readLetters (← g.switch s) rest
    | some .help => g.ask .help
    | some .version => g.ask .version

/-- Read the arguments one by one. Two hyphens alone end the settings, and there is nothing else that
could be given. -/
def readArguments (g : Given) : List Bytes → Except ArgumentError Given
  | [] => g.settle
  | argument :: rest =>
    match argument with
    | [a, b] =>
      if a = hyphen ∧ b = hyphen then if rest.isEmpty then g.settle else .error .unknown
      else one argument rest
    | _ => one argument rest
where
  /-- Read an argument that is not two hyphens alone. -/
  one (argument : Bytes) (rest : List Bytes) : Except ArgumentError Given :=
    match argument with
    | a :: b :: text => do
      if a = hyphen ∧ b = hyphen then readArguments (← readLong g text) rest
      else if a = hyphen then readArguments (← readLetters g (b :: text)) rest
      else value argument rest
    | _ => value argument rest
  /-- Read an argument that can only be a value. -/
  value (argument : Bytes) (rest : List Bytes) : Except ArgumentError Given :=
    match g.pending with
    | some (s, none) => readArguments { g with pending := some (s, some argument) } rest
    | _ => .error .unknown

namespace Arguments

/-- The value of a setting, if it was given. -/
def value? (g : Given) (s : Setting) : Option Bytes := g.values.lookup s

/-- Everything that was not given is as it usually is: the input is the current directory, and no
names are ignored. -/
def ofGiven (g : Given) : Arguments where
  verbose := Switch.verbose ∈ g.switches
  output := value? g .output
  disable := Switch.disable ∈ g.switches
  input := (value? g .input).getD (Path.ofString ".")
  ignore := ((value? g .ignore).map Text.display).getD ""
  json := value? g .json
  config := value? g .config
  dryRun := Switch.dryRun ∈ g.switches

/-- Read the arguments. -/
def parse (arguments : List Bytes) : Except ArgumentError Arguments :=
  (readArguments .none arguments).map ofGiven

end Arguments

/-- What is shown to someone who asks for help. -/
def helpText : String := String.intercalate "\n" [
  "Extract occupancy stats from benchmark runs. Requires a compiler that prints occupancy.",
  "",
  "Usage: occstat [OPTIONS]",
  "",
  "Options:",
  "  -v, --verbose          Print average occupancy to terminal",
  "  -o, --output <OUTPUT>  Output spreadsheet filepath [default: occupancy]",
  "  -d, --disable          Disable spreadsheet output",
  "  -i, --input <INPUT>    The path to scan for benchmark directories [default: .]",
  "      --ignore <IGNORE>  List of folders or run names to ignore separated by commas [default: \"\"]",
  "      --json <JSON>      Also write a JSON summary to this path",
  "      --config <CONFIG>  Configuration file (default: discover occstat.toml)",
  "      --dry-run          List the run folders that would be scanned, then exit",
  "  -h, --help             Print help",
  "  -V, --version          Print version",
  ""]

/-- What is shown to someone who asks for the version. -/
def versionText : String := "occstat 0.1.0\n"

/-- Cut a text at its commas. The first argument is the piece being read, backwards. -/
def splitCommas (piece : List Char) : List Char → List (List Char)
  | [] => [piece.reverse]
  | c :: rest =>
    if c = ',' then piece.reverse :: splitCommas [] rest else splitCommas (c :: piece) rest

/-- The names in a list with commas between them, without the white space around each. Pieces of
which nothing is left are no names. -/
def ignoreList (list : String) : List String :=
  (((splitCommas [] list.toList).map Text.trim).filter (!·.isEmpty)).map String.ofList

end Occupancy.CommandLine
