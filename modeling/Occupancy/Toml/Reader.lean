/-
Module: Occupancy.Toml.Reader
Purpose: Reading TOML documents.
Main exports: parse
-/
import Occupancy.Toml.Scalar

namespace Occupancy.Toml

/-- Reads a value. -/
abbrev ValueReader := List Char → Option (Value × List Char)

/-- Characters of names that need no quotes. -/
def isBare (c : Char) : Bool := c.isAlphanum || c == '_' || c == '-'

/-- Read a name. -/
def readName (cs : List Char) : Option (String × List Char) :=
  match cs with
  | '"' :: rest => readLineText '"' (rest.length + 1) [] rest
  | '\'' :: rest => readLineText '\'' (rest.length + 1) [] rest
  | _ =>
    let name := cs.takeWhile isBare
    if name.isEmpty then none else some (String.ofList name, cs.dropWhile isBare)

/-- Read names with points between them, and the blanks around each. The fuel bounds the names. -/
def readNames : (fuel : Nat) → List Char → Option (List String × List Char)
  | 0, _ => none
  | fuel + 1, cs => do
    let (name, rest) ← readName (skipBlank cs)
    match skipBlank rest with
    | '.' :: rest =>
      let (names, rest) ← readNames fuel rest
      return (name :: names, rest)
    | rest => return ([name], rest)

/-- How many names a key may have, and how many values may stand inside each other. -/
def depthLimit : Nat := 80

/-- A key: the names of the tables on the way, and the last name. -/
def readKey (cs : List Char) : Option ((List String × String) × List Char) := do
  let (names, rest) ← readNames (depthLimit - 1) cs
  return ((names.dropLast, names.getLastD ""), rest)

/-- Read a key and its value, and the blanks around both. -/
def readPair (value : ValueReader) (cs : List Char) :
    Option ((List String × String) × Value × List Char) := do
  let (key, rest) ← readKey cs
  let (value, rest) ← value (skipBlank (← readChar '=' rest))
  return (key, value, skipBlank rest)

/-- Read the items of an array up to its closing bracket. Comments and line ends may stand anywhere
between, and a comma behind the last item. The fuel bounds the items. -/
def readItems (value : ValueReader) : (fuel : Nat) → (done : List Value) → ValueReader
  | 0, _, _ => none
  | fuel + 1, done, cs => do
    match ← skipLines (cs.length + 1) cs with
    | ']' :: rest => return (.array false done.reverse, rest)
    | cs =>
      let (item, rest) ← value cs
      match ← skipLines (rest.length + 1) rest with
      | ',' :: rest => readItems value fuel (item :: done) rest
      | ']' :: rest => return (.array false (item :: done).reverse, rest)
      | _ => none

/-- Read the members of a table in braces, which stand on one line and have commas between them only.
The fuel bounds the members. -/
def readInline (value : ValueReader) : (fuel : Nat) → (done : Members) → ValueReader
  | 0, _, _ => none
  | fuel + 1, done, cs => do
    let ((path, name), item, rest) ← readPair value cs
    let done ← done.define path name item .inline
    match rest with
    | ',' :: rest => readInline value fuel done rest
    | '\x7d' :: rest => return (.table .inline done, rest)
    | _ => none

/-- Read a value. The depth bounds how many values may still stand inside each other. -/
def readValue : (depth : Nat) → ValueReader
  | 0, cs => scalar cs
  | depth + 1, cs =>
    match cs with
    | '[' :: rest => readItems (readValue depth) (rest.length + 1) [] rest
    | '\x7b' :: rest =>
      match skipBlank rest with
      | '\x7d' :: rest => some (.table .inline [], rest)
      | rest => readInline (readValue depth) (rest.length + 1) [] rest
    | _ => scalar cs
where
  /-- Read a value that holds no others. -/
  scalar (cs : List Char) : Option (Value × List Char) :=
    match cs with
    | '"' :: rest => (readText '"' rest).map fun (text, rest) => (.text text, rest)
    | '\'' :: rest => (readText '\'' rest).map fun (text, rest) => (.text text, rest)
    | 't' :: 'r' :: 'u' :: 'e' :: rest => some (.boolean true, rest)
    | 'f' :: 'a' :: 'l' :: 's' :: 'e' :: rest => some (.boolean false, rest)
    | _ => if isMoment cs then readMoment? cs else readNumber? cs

/-- The end of an expression: blanks, a comment, and the end of the line or of the text. -/
def readExpressionEnd (cs : List Char) : Option (List Char) :=
  match skipComment (skipBlank cs) with
  | [] => some []
  | cs => readLineEnd cs

/-- A document as far as it has been read: its members, and the path to the table that members are
added to now. -/
structure Document where
  members : Members
  current : List String
deriving Repr

namespace Document

/-- Add a member to the current table. -/
def define (d : Document) (path : List String) (name : String) (value : Value) :
    Option Document := do
  let define := Members.define path name value
  return { d with members := ← Members.within false define d.current .explicit d.members }

/-- Read the header of a table, behind its first bracket. -/
def readHeader (d : Document) (cs : List Char) : Option (Document × List Char) := do
  match cs with
  | '[' :: cs =>
    let ((path, name), rest) ← readKey cs
    let rest ← readChar ']' (← readChar ']' rest)
    return (⟨← d.members.openTables path name, path ++ [name]⟩, ← readExpressionEnd rest)
  | cs =>
    let ((path, name), rest) ← readKey cs
    let rest ← readChar ']' rest
    return (⟨← d.members.openTable path name, path ++ [name]⟩, ← readExpressionEnd rest)

/-- Read the expressions of a document. The fuel bounds them; each takes a character. -/
def readExpressions : (fuel : Nat) → Document → List Char → Option Document
  | 0, _, _ => none
  | fuel + 1, d, cs => do
    match skipBlank cs with
    | [] => return d
    | '#' :: rest => readExpressions fuel d (← readExpressionEnd ('#' :: rest))
    | '\n' :: rest => readExpressions fuel d rest
    | '\r' :: rest => readExpressions fuel d (← readLineEnd ('\r' :: rest))
    | '[' :: rest =>
      let (d, rest) ← d.readHeader rest
      readExpressions fuel d rest
    | cs =>
      let ((path, name), value, rest) ← readPair (readValue (depthLimit - 1)) cs
      readExpressions fuel (← d.define path name value) (← readExpressionEnd rest)

end Document

/-- Read a document. A byte order mark at its beginning is passed over. -/
def parse (text : List Char) : Option Members := do
  let text := match text with
    | '\uFEFF' :: rest => rest
    | _ => text
  let d ← Document.readExpressions (text.length + 1) ⟨[], []⟩ text
  return d.members

end Occupancy.Toml
