/-
Module: Occupancy.Json.Reader
Purpose: Readers of JSON values of a known kind.
Main exports: Reader, Read.string, Read.natural, Read.float, Read.nullable, Read.list, Field,
  Read.record, readAll
-/
import Occupancy.Json.Basic
import Occupancy.Json.Token

namespace Occupancy.Json

/-!
A reader knows what kind of value it wants and stops where the text first departs from it. A value
that is plainly of another kind is a mismatch; a number or a string is read to its end first, so that
a fault inside it is found before its kind is.
-/

/-- Read one value and give the text behind it. -/
abbrev Reader := List Char → Except Fault (Json × List Char)

/-- The fault of a value that begins here and is not of the kind that is wanted. -/
def mismatchAt (cs : List Char) : Fault :=
  let of {α : Type} (result : Except Fault α) : Fault :=
    match result with
    | .ok _ => .mismatch
    | .error fault => fault
  match cs with
  | 'n' :: rest => of (readWord "ull".toList rest)
  | 't' :: rest => of (readWord "rue".toList rest)
  | 'f' :: rest => of (readWord "alse".toList rest)
  | '-' :: rest => of (readNumber true rest)
  | '"' :: rest => of (readString rest)
  | '[' :: _ | '\x7b' :: _ => .mismatch
  | c :: _ => if c.isDigit then of (readNumber false cs) else .malformed
  | [] => .unfinished

/-- Read a string that satisfies a test. -/
def Read.checked (test : String → Bool) : Reader := fun cs => do
  match skipBlank cs with
  | '"' :: rest =>
    let (text, rest) ← readString rest
    let text := String.ofList text
    if test text then return (.string text, rest) else throw .mismatch
  | cs => throw (mismatchAt cs)

/-- Read a string. -/
def Read.string : Reader := Read.checked fun _ => true

/-- Read a number, if one is there. -/
def number (cs : List Char) : Except Fault (Number × List Char) :=
  match skipBlank cs with
  | '-' :: rest => readNumber true rest
  | [] => .error .unfinished
  | c :: rest =>
    if c.isDigit then readNumber false (c :: rest) else .error (mismatchAt (c :: rest))

/-- Read a natural number below a bound. -/
def Read.natural (bound : Nat) : Reader := fun cs => do
  match ← number cs with
  | (.natural n, rest) => if n < bound then return (.natural n, rest) else throw .mismatch
  | _ => throw .mismatch

/-- Read a number as a double. -/
def Read.float : Reader := fun cs => do
  match ← number cs with
  | (.natural n, rest) => return (.float (UInt64.ofNat n).toFloat, rest)
  | (.negative n, rest) => return (.float (-(UInt64.ofNat n).toFloat), rest)
  | (.float x, rest) => return (.float x, rest)

/-- Read a null, or what another reader reads. -/
def Read.nullable (reader : Reader) : Reader := fun cs => do
  match skipBlank cs with
  | 'n' :: rest => return (.null, ← readWord "ull".toList rest)
  | cs => reader cs

/-- Look for one more item of an array: passes over the comma in front of it, or finds the closing
bracket and leaves it. -/
def nextItem (first : Bool) (cs : List Char) : Except Fault (Bool × List Char) :=
  match skipBlank cs with
  | [] => .error .unfinished
  | ']' :: rest => .ok (false, ']' :: rest)
  | c :: rest =>
    if first then .ok (true, c :: rest)
    else if c = ',' then
      match skipBlank rest with
      | [] => .error .unfinished
      | ']' :: _ => .error .malformed
      | rest => .ok (true, rest)
    else .error .malformed

/-- The closing bracket of an array. -/
def endArray (cs : List Char) : Except Fault (List Char) :=
  match skipBlank cs with
  | ']' :: rest => .ok rest
  | [] => .error .unfinished
  | _ => .error .malformed

/-- Read the items of an array up to its closing bracket. The fuel bounds the items; each takes a
character. -/
def readItems (reader : Reader) : (fuel : Nat) → (first : Bool) → (done : List Json) → Reader
  | 0, _, _, _ => .error .unfinished
  | fuel + 1, first, done, cs => do
    let (more, cs) ← nextItem first cs
    if more then
      let (item, cs) ← reader cs
      readItems reader fuel false (item :: done) cs
    else return (.array done.reverse, ← endArray cs)

/-- Read an array. -/
def Read.list (reader : Reader) : Reader := fun cs => do
  match skipBlank cs with
  | '[' :: rest => readItems reader (rest.length + 1) true [] rest
  | cs => throw (mismatchAt cs)

/-- A member that an object is to have: its name, how it is read, and what it is if it is left
out. -/
structure Field where
  name : String
  read : Reader
  absent : Option Json

/-- Members in the order of the fields. One that was not read is what it is without being there. -/
def complete (members : List (String × Json)) : List Field → Except Fault (List (String × Json))
  | [] => .ok []
  | field :: fields =>
    match (members.find? (·.1 == field.name)).map (·.2) <|> field.absent with
    | some value => (complete members fields).map ((field.name, value) :: ·)
    | none => .error .mismatch

/-- Look for one more member of an object: passes over the comma in front of it and its opening quote,
or finds the closing brace and leaves it. -/
def nextMember (first : Bool) (cs : List Char) : Except Fault (Bool × List Char) :=
  match skipBlank cs with
  | [] => .error .unfinished
  | '\x7d' :: rest => .ok (false, '\x7d' :: rest)
  | '"' :: rest => if first then .ok (true, rest) else .error .malformed
  | ',' :: rest =>
    if first then .error .malformed
    else
      match skipBlank rest with
      | '"' :: rest => .ok (true, rest)
      | [] => .error .unfinished
      | _ => .error .malformed
  | _ => .error .malformed

/-- Read the colon behind the name of a member. -/
def readColon (cs : List Char) : Except Fault (List Char) :=
  match skipBlank cs with
  | ':' :: rest => .ok rest
  | [] => .error .unfinished
  | _ => .error .malformed

/-- Read the members of an object up to its closing brace. A field may be given once; members that are
no fields are passed over. The fuel bounds the members; each takes a character. -/
def readMembers (fields : List Field) : (fuel : Nat) → (first : Bool) →
    (done : List (String × Json)) → Reader
  | 0, _, _, _ => .error .unfinished
  | fuel + 1, first, done, cs => do
    let (more, cs) ← nextMember first cs
    if !more then
      let members ← complete done fields
      return (.object members, cs.drop 1)
    let (name, cs) ← readString cs
    let name := String.ofList name
    match fields.find? (·.name == name) with
    | some field =>
      if done.any (·.1 == name) then throw .mismatch
      let (value, cs) ← field.read (← readColon cs)
      readMembers fields fuel false (done ++ [(name, value)]) cs
    | none =>
      let cs ← ignoreValue (← readColon cs)
      readMembers fields fuel false done cs

/-- Read the fields of an object that is written as an array of their values. -/
def readValues (first : Bool) (done : List (String × Json)) : List Field → Reader
  | [], cs => return (.object done.reverse, ← endArray cs)
  | field :: fields, cs => do
    let (more, cs) ← nextItem first cs
    if !more then throw .mismatch
    let (value, cs) ← field.read cs
    readValues false ((field.name, value) :: done) fields cs

/-- Read an object with the given fields, by their names or, in an array, by their order. -/
def Read.record (fields : List Field) : Reader := fun cs => do
  match skipBlank cs with
  | '\x7b' :: rest => readMembers fields (rest.length + 1) true [] rest
  | '[' :: rest => readValues true [] fields rest
  | cs => throw (mismatchAt cs)

/-- Read a text that is one value and nothing else. -/
def readAll (reader : Reader) (cs : List Char) : Except Fault Json := do
  let (value, rest) ← reader cs
  if (skipBlank rest).isEmpty then return value else throw .malformed

end Occupancy.Json
