/-
Module: Occupancy.Cause
Purpose: The chain of causes behind an error.
Main exports: Cause, Cause.message
-/
import Occupancy.Collection

namespace Occupancy

/-- One link of a chain of causes: a text, or what is wrong in a document or a pattern, which is not
put into words any further. -/
inductive Cause where
  | words (text : String)
  | document
  | pattern (fault : Pattern.Fault)
deriving DecidableEq, Repr

namespace Cause

/-- What a user is told. -/
def message : Cause → String
  | .words text => text
  | .document => "the document is malformed"
  | .pattern _ => "invalid occupancy pattern"

/-- The causes of an error of a rule. -/
def ofRuleFault : RuleFault → List Cause
  | .pattern fault => [.pattern fault]
  | .missingGroup name => [.words ("occupancy pattern is missing the named group `" ++ name ++ "`")]

end Cause
end Occupancy
