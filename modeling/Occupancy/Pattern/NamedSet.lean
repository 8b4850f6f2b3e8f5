/-
Module: Occupancy.Pattern.NamedSet
Purpose: Sets of characters that patterns call by name.
Main exports: wordSet, digitSet, spaceSet, posixSet?, propertySet?
-/
import Occupancy.Pattern.CharSet
import Occupancy.Unicode.Property

namespace Occupancy.Pattern

/-- Characters of words, of every script. -/
def wordSet : CharSet := .ofRanges Unicode.wordRanges

/-- Characters of words in ASCII. -/
def asciiWordSet : CharSet := ⟨[(0x30, 0x39), (0x41, 0x5A), (0x5F, 0x5F), (0x61, 0x7A)]⟩

/-- Decimal digits of every script. -/
def digitSet : CharSet := ⟨Unicode.decimalDigitRanges⟩

/-- Decimal digits in ASCII. -/
def asciiDigitSet : CharSet := ⟨[(0x30, 0x39)]⟩

/-- White space of every script. -/
def spaceSet : CharSet := .ofRanges Unicode.whiteSpaceRanges

/-- White space in ASCII. -/
def asciiSpaceSet : CharSet := ⟨[(0x09, 0x0D), (0x20, 0x20)]⟩

/-- All characters. -/
def everySet : CharSet := ⟨[(0, 0x10FFFF)]⟩

/-- All characters that do not end a line, which only a line feed does. -/
def notLineEndSet : CharSet := ⟨[(0, 0x09), (0x0B, 0x10FFFF)]⟩

/-- All characters that do not end a line, which a carriage return does too. -/
def notAnyLineEndSet : CharSet := ⟨[(0, 0x09), (0x0B, 0x0C), (0x0E, 0x10FFFF)]⟩

/-- The ASCII classes with a name in brackets and colons. -/
def posixSet? (name : String) : Option CharSet :=
  match name with
  | "alnum" => some ⟨[(0x30, 0x39), (0x41, 0x5A), (0x61, 0x7A)]⟩
  | "alpha" => some ⟨[(0x41, 0x5A), (0x61, 0x7A)]⟩
  | "ascii" => some ⟨[(0x00, 0x7F)]⟩
  | "blank" => some ⟨[(0x09, 0x09), (0x20, 0x20)]⟩
  | "cntrl" => some ⟨[(0x00, 0x1F), (0x7F, 0x7F)]⟩
  | "digit" => some asciiDigitSet
  | "graph" => some ⟨[(0x21, 0x7E)]⟩
  | "lower" => some ⟨[(0x61, 0x7A)]⟩
  | "print" => some ⟨[(0x20, 0x7E)]⟩
  | "punct" => some ⟨[(0x21, 0x2F), (0x3A, 0x40), (0x5B, 0x60), (0x7B, 0x7E)]⟩
  | "space" => some asciiSpaceSet
  | "upper" => some ⟨[(0x41, 0x5A)]⟩
  | "word" => some asciiWordSet
  | "xdigit" => some ⟨[(0x30, 0x39), (0x41, 0x46), (0x61, 0x66)]⟩
  | _ => none

/-- What comes before and after the first place where a text is found in another. -/
def splitAtText (separator : List Char) (before : List Char) :
    List Char → Option (List Char × List Char)
  | [] => none
  | c :: rest =>
    if separator.isPrefixOf (c :: rest) then
      some (before.reverse, (c :: rest).drop separator.length)
    else splitAtText separator (c :: before) rest

/-- The set that the text in the braces of a property asks for. A property and its value are
separated by an unequal sign, a colon or an equals sign, looked for in this order. The unequal sign
means no more than the others: only the escape's own letter excludes. -/
def propertySet? (text : List Char) : Option CharSet :=
  let query : Unicode.Query :=
    match splitAtText ['!', '='] [] text <|> splitAtText [':'] [] text <|>
        splitAtText ['='] [] text with
    | some (property, value) => .valued property value
    | none => .named text
  query.ranges?.map .ofRanges

end Occupancy.Pattern
