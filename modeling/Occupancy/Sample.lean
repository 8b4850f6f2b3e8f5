/-
Module: Occupancy.Sample
Purpose: Occupancy samples and the rule that reads one off a line of a log.
Main exports: Sample, LineRule, LineRule.ofText, LineRule.parse, LineRule.standard
-/
import Occupancy.Pattern.Reader

namespace Occupancy

/-- The occupancy that a log reports for one kernel. -/
structure Sample where
  kernel : String
  value : UInt32
deriving DecidableEq, Repr

/-- Why a text is no line rule. -/
inductive RuleFault where
  | pattern (fault : Pattern.Fault)
  | missingGroup (name : String)
deriving DecidableEq, Repr

/-- A rule for the lines that hold a sample: a pattern with the groups `kernel` and `value`. -/
structure LineRule where
  pattern : Pattern
deriving Repr, Inhabited

/-- The value of decimal digits, most significant first. -/
def decimalValue? (digits : List Char) : Option Nat :=
  if digits.isEmpty ∨ ¬digits.all Char.isDigit then none
  else some (digits.foldl (fun n d => n * 10 + (d.toNat - 0x30)) 0)

/-- Read an occupancy: ASCII digits, behind a plus sign or not, for a number of 32 bits. -/
def occupancy? (text : List Char) : Option UInt32 := do
  let digits := match text with
    | '+' :: rest => rest
    | _ => text
  let n ← decimalValue? digits
  if n < UInt32.size then some (UInt32.ofNat n) else none

namespace LineRule

/-- The groups that a rule must have, in the order in which they are missed. -/
def groups : List String := ["kernel", "value"]

/-- Make a rule from the text of its pattern. -/
def ofText (text : String) : Except RuleFault LineRule :=
  match Pattern.ofText text with
  | .error fault => .error (.pattern fault)
  | .ok pattern =>
    match groups.find? fun name => !pattern.names.any (·.1 == name.toList) with
    | some name => .error (.missingGroup name)
    | none => .ok ⟨pattern⟩

/-- The text of the rule for the usual lines. -/
def standardText : String := "^Final occupancy for function (?P<kernel>.*):(?P<value>\\d+)"

/-- The rule for the usual lines. -/
def standard : LineRule :=
  match ofText standardText with
  | .ok rule => rule
  | .error _ => default

/-- The text of a rule. -/
def text (rule : LineRule) : String := rule.pattern.text

/-- Read the sample off a line. A line holds none when the pattern is not found, when one of the two
groups took no part in the match, and when the value is no number of 32 bits. -/
def parse (rule : LineRule) (line : List Char) : Option Sample := do
  let captures ← rule.pattern.captures? line
  let kernel ← captures "kernel".toList
  let raw ← captures "value".toList
  let value ← occupancy? raw
  return ⟨String.ofList kernel, value⟩

end LineRule
end Occupancy
