/-
Module: Occupancy.Pattern.Expr
Purpose: Regular expressions with named groups, as data.
Main exports: Look, Expr, Expr.sequence, Expr.choice, Expr.rounds
-/
import Occupancy.Pattern.CharSet

namespace Occupancy.Pattern

/-- Tests of a place in a text, which take no character. -/
inductive Look where
  /-- Nothing stands before. -/
  | textStart
  /-- Nothing stands after. -/
  | textEnd
  /-- The text starts here or a line feed stands before. -/
  | lineStart
  /-- The text ends here or a line feed stands after. -/
  | lineEnd
  /-- As `lineStart`, where carriage return, line feed and the two together all end a line. -/
  | lineStartAny
  /-- As `lineEnd`, with the same ends of lines. -/
  | lineEndAny
  /-- A word character on exactly one side; the flag admits those of every script. -/
  | wordBoundary (unicode : Bool)
  /-- Word characters on both sides or on neither. -/
  | notWordBoundary (unicode : Bool)
  /-- A word character after and none before. -/
  | wordStart (unicode : Bool)
  /-- A word character before and none after. -/
  | wordEnd (unicode : Bool)
  /-- No word character before. -/
  | wordStartHalf (unicode : Bool)
  /-- No word character after. -/
  | wordEndHalf (unicode : Bool)
deriving DecidableEq, Repr

/-- A regular expression. Where several ways of matching exist the earlier one is preferred: the
left side of a choice, and for a repetition one more round if it is greedy and none if it is not. -/
inductive Expr where
  | empty
  | one (set : CharSet)
  | look (test : Look)
  | seq (a b : Expr)
  | alt (a b : Expr)
  | repeated (body : Expr) (least : Nat) (most : Option Nat) (greedy : Bool)
  | group (index : Nat) (body : Expr)
deriving Repr, Inhabited

namespace Expr

/-- Whether every match takes at least one character. An expression without matches counts as one
that may take none. -/
def consumes : Expr → Bool
  | empty => false
  | one set => !set.ranges.isEmpty
  | look _ => false
  | seq a b => a.consumes || b.consumes
  | alt a b => a.consumes && b.consumes
  | repeated body least _ _ => least != 0 && body.consumes
  | group _ body => body.consumes

/-- Whether every match takes no character. -/
def isEmptyOnly : Expr → Bool
  | empty => true
  | one _ => false
  | look _ => true
  | seq a b => a.isEmptyOnly && b.isEmptyOnly
  | alt a b => a.isEmptyOnly && b.isEmptyOnly
  | repeated body _ _ _ => body.isEmptyOnly
  | group _ body => body.isEmptyOnly

/-- One after the other. The sequence leans to the left, so that the last part is at hand. -/
def sequence : List Expr → Expr
  | [] => empty
  | first :: rest => rest.foldl seq first

/-- Any of several, the earlier ones preferred. -/
def choice : List Expr → Expr
  | [] => empty
  | first :: rest => rest.foldl alt first

/-- A repetition. More than one round of a body that takes no character changes nothing, no round at
all is the empty expression, whatever groups the body has, and exactly one is the body. -/
def rounds (body : Expr) (least : Nat) (most : Option Nat) (greedy : Bool) : Expr :=
  let (least, most) :=
    if body.isEmptyOnly then (min least 1, some (min (most.getD 1) 1)) else (least, most)
  if most = some 0 then empty
  else if least = 1 ∧ most = some 1 then body
  else repeated body least most greedy

/-- The indexes of the groups in an expression. -/
def groups : Expr → List Nat
  | empty | one _ | look _ => []
  | seq a b | alt a b => a.groups ++ b.groups
  | repeated body _ _ _ => body.groups
  | group index body => index :: body.groups

end Expr
end Occupancy.Pattern
