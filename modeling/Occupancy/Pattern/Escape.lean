/-
Module: Occupancy.Pattern.Escape
Purpose: What a pattern writes with a backslash.
Main exports: Fault, Flags, Flags.skip, Atom, readEscape
-/
import Occupancy.Pattern.Expr
import Occupancy.Pattern.NamedSet

namespace Occupancy.Pattern

/-- Why a text is no pattern. -/
inductive Fault where
  | lookAround
  | backReference
  | unfinishedEscape
  | unknownEscape (c : Char)
  | badCodePoint
  | unknownProperty
  | needsUnicode
  | needsBytes
  | nothingToRepeat
  | badCount
  | badGroupName
  | repeatedGroupName (name : List Char)
  | badFlags
  | unclosedGroup
  | unopenedGroup
  | unclosedClass
  | badClassItem
  | badRange
  | tooDeep
  | tooLarge
deriving DecidableEq, Repr

/-- How what follows is to be read. -/
structure Flags where
  caseless : Bool
  multiLine : Bool
  dotAll : Bool
  lazyFirst : Bool
  unicode : Bool
  anyLineEnd : Bool
  spaced : Bool
deriving DecidableEq, Repr

/-- The flags at the start of a pattern. -/
def Flags.start : Flags := ⟨false, false, false, false, true, false, false⟩

/-- A text less its leading white space and comments. The flag says that a comment is being read; a
comment ends with its line. -/
def skipSpace : (comment : Bool) → List Char → List Char
  | _, [] => []
  | true, c :: rest => skipSpace (c != '\n') rest
  | false, c :: rest =>
    if Text.isBlank c then skipSpace false rest
    else if c = '#' then skipSpace true rest
    else c :: rest

namespace Flags

/-- Pass over what a spaced pattern does not count. -/
def skip (f : Flags) (cs : List Char) : List Char :=
  if f.spaced then skipSpace false cs else cs

/-- Close a set under the case that does not matter. -/
def close (f : Flags) (set : CharSet) : CharSet :=
  if !f.caseless then set
  else if f.unicode then set.closeUnderCase
  else set.closeUnderAsciiCase

/-- Exclude a set, if asked to. Without Unicode a set is one of bytes, and all bytes but a few are
not in general the bytes of any text. -/
def negate (f : Flags) (negated : Bool) (set : CharSet) : Except Fault CharSet :=
  if !negated then .ok set
  else if f.unicode then .ok set.complement
  else .error .needsBytes

end Flags

/-- What stands for one character, a set of them or a place. The flag of a character says that it
was written as the two hexadecimal digits of a byte. -/
inductive Atom where
  | literal (c : Char) (byte : Bool)
  | set (s : CharSet)
  | look (test : Look)
deriving Repr

/-- The value of a hexadecimal digit. -/
def hexValue? (c : Char) : Option Nat :=
  if c.isDigit then some (c.toNat - 0x30)
  else if 'a' ≤ c ∧ c ≤ 'f' then some (c.toNat - 0x57)
  else if 'A' ≤ c ∧ c ≤ 'F' then some (c.toNat - 0x37)
  else none

/-- The character with a code point written in hexadecimal. -/
def codePoint (digits : List Char) : Except Fault Char := do
  if digits.isEmpty then throw .badCodePoint
  let some values := digits.mapM hexValue? | throw .badCodePoint
  let n := values.foldl (fun n d => n * 16 + d) 0
  if n.isValidChar then return Char.ofNat n else throw .badCodePoint

/-- Read so many characters, passing over what does not count behind each. -/
def readSpaced (f : Flags) : Nat → (taken : List Char) → List Char → Except Fault (List Char × List Char)
  | 0, taken, cs => .ok (taken.reverse, cs)
  | _ + 1, _, [] => .error .unfinishedEscape
  | n + 1, taken, c :: rest => readSpaced f n (c :: taken) (f.skip rest)

/-- Read up to a closing brace, passing over what does not count. The fuel bounds the characters to
be read. -/
def readBraced (f : Flags) : (fuel : Nat) → (taken : List Char) → List Char → Except Fault (List Char × List Char)
  | 0, _, _ => .error .unfinishedEscape
  | fuel + 1, taken, cs =>
    match f.skip cs with
    | [] => .error .unfinishedEscape
    | c :: rest =>
      if c = '\x7d' then .ok (taken.reverse, rest) else readBraced f fuel (c :: taken) rest

/-- Read a code point in hexadecimal: in braces, or with a fixed number of digits. -/
def readCodePoint (f : Flags) (width : Nat) (cs : List Char) : Except Fault (Atom × List Char) := do
  match f.skip cs with
  | '\x7b' :: rest =>
    let (digits, rest) ← readBraced f (rest.length + 1) [] rest
    return (.literal (← codePoint digits) false, rest)
  | cs =>
    let (digits, rest) ← readSpaced f width [] cs
    return (.literal (← codePoint digits) (width = 2), rest)

/-- Read the name of a property: in braces, or a single letter. -/
def readProperty (f : Flags) (negated : Bool) (cs : List Char) : Except Fault (Atom × List Char) := do
  let (name, rest) ←
    match f.skip cs with
    | [] => throw .unfinishedEscape
    | '\\' :: _ => throw .unknownProperty
    | '\x7b' :: rest => readBraced f (rest.length + 1) [] rest
    | c :: rest => pure ([c], rest)
  if !f.unicode then throw .needsUnicode
  let some set := propertySet? name | throw .unknownProperty
  return (.set (← f.negate negated (f.close set)), rest)

/-- A class with a letter of its own. -/
def letterClass (f : Flags) (negated : Bool) (unicode ascii : CharSet) : Except Fault Atom :=
  return .set (← f.negate negated (if f.unicode then unicode else ascii))

/-- Characters of the names of word tests. -/
def isTestNameChar (c : Char) : Bool := c.isAlpha || c == '-'

/-- Read letters and hyphens, passing over what does not count behind each. -/
def readTestName (f : Flags) : (fuel : Nat) → (taken : List Char) → List Char →
    List Char × List Char
  | 0, taken, cs => (taken.reverse, cs)
  | _ + 1, taken, [] => (taken.reverse, [])
  | fuel + 1, taken, c :: rest =>
    if isTestNameChar c then readTestName f fuel (c :: taken) (f.skip rest)
    else (taken.reverse, c :: rest)

/-- Read what may follow the escape of a word boundary: the name of a special one in braces. Braces
that hold no name are left, they are a count. -/
def readWordTest (f : Flags) (cs : List Char) : Except Fault (Look × List Char) := do
  match cs with
  | '\x7b' :: inner =>
    match f.skip inner with
    | [] => throw .unfinishedEscape
    | c :: rest =>
      if !isTestNameChar c then return (.wordBoundary f.unicode, cs)
      let (name, rest) := readTestName f (rest.length + 1) [] (c :: rest)
      let '\x7d' :: rest := rest | throw .unfinishedEscape
      match String.ofList name with
      | "start" => return (.wordStart f.unicode, rest)
      | "end" => return (.wordEnd f.unicode, rest)
      | "start-half" => return (.wordStartHalf f.unicode, rest)
      | "end-half" => return (.wordEndHalf f.unicode, rest)
      | _ => throw .unknownProperty
  | _ => return (.wordBoundary f.unicode, cs)

/-- Whether a character stands for itself behind a backslash: all ASCII characters but letters,
digits and the two angle brackets do. -/
def isEscapable (c : Char) : Bool :=
  c.toNat < 0x80 && !c.isAlphanum && c != '<' && c != '>'

/-- Read what follows a backslash. -/
def readEscape (f : Flags) (cs : List Char) : Except Fault (Atom × List Char) := do
  let c :: rest := cs | throw .unfinishedEscape
  if c.isDigit then throw .backReference
  if isEscapable c then return (.literal c false, rest)
  match c with
  | 'x' => readCodePoint f 2 rest
  | 'u' => readCodePoint f 4 rest
  | 'U' => readCodePoint f 8 rest
  | 'p' => readProperty f false rest
  | 'P' => readProperty f true rest
  | 'd' => return (← letterClass f false digitSet asciiDigitSet, rest)
  | 'D' => return (← letterClass f true digitSet asciiDigitSet, rest)
  | 's' => return (← letterClass f false spaceSet asciiSpaceSet, rest)
  | 'S' => return (← letterClass f true spaceSet asciiSpaceSet, rest)
  | 'w' => return (← letterClass f false wordSet asciiWordSet, rest)
  | 'W' => return (← letterClass f true wordSet asciiWordSet, rest)
  | 'a' => return (.literal '\x07' false, rest)
  | 'f' => return (.literal '\x0C' false, rest)
  | 't' => return (.literal '\t' false, rest)
  | 'n' => return (.literal '\n' false, rest)
  | 'r' => return (.literal '\r' false, rest)
  | 'v' => return (.literal '\x0B' false, rest)
  | 'A' => return (.look .textStart, rest)
  | 'z' => return (.look .textEnd, rest)
  | 'b' =>
    let (test, rest) ← readWordTest f rest
    return (.look test, rest)
  | 'B' => return (.look (.notWordBoundary f.unicode), rest)
  | '<' => return (.look (.wordStart f.unicode), rest)
  | '>' => return (.look (.wordEnd f.unicode), rest)
  | _ => throw (.unknownEscape c)

end Occupancy.Pattern
