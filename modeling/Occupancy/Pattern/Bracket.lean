/-
Module: Occupancy.Pattern.Bracket
Purpose: Sets of characters written in brackets.
Main exports: Bracketed, readBracketed
-/
import Occupancy.Pattern.Escape

namespace Occupancy.Pattern

/-!
Brackets may be nested, and inside them sets are combined by three operators. All of these have the
same binding power, weaker than that of standing side by side, and group to the left. The brackets
that are open are kept on a stack, so reading is one loop.
-/

/-- The operators between sets. -/
inductive SetOp where
  | intersection
  | difference
  | symmetricDifference
deriving DecidableEq, Repr

/-- Apply an operator. -/
def SetOp.apply : SetOp → CharSet → CharSet → CharSet
  | .intersection => .inter
  | .difference => .difference
  | .symmetricDifference => .symmetricDifference

/-- A set and how deeply its text is nested. -/
structure Bracketed where
  set : CharSet
  height : Nat
deriving Repr

/-- An open bracket: whether it excludes, what stands before the last operator, and the members read
since. -/
structure OpenBracket where
  negated : Bool
  left : Option (SetOp × Bracketed)
  members : List Bracketed
deriving Repr

namespace OpenBracket

/-- Put one more member in. -/
def insert (b : OpenBracket) (member : Bracketed) : OpenBracket :=
  { b with members := member :: b.members }

/-- The union of the members. -/
def side (b : OpenBracket) : Bracketed :=
  match b.members with
  | [] => ⟨⟨[]⟩, 0⟩
  | [member] => member
  | members => ⟨.ofRanges (members.flatMap (·.set.ranges)), members.foldl (max · ·.height) 0 + 1⟩

/-- All that has been read: the left side combined with the members. -/
def value (f : Flags) (b : OpenBracket) : Bracketed :=
  match b.left with
  | none => b.side
  | some (op, left) =>
    ⟨op.apply (f.close left.set) (f.close b.side.set), max left.height b.side.height + 1⟩

/-- Go on behind an operator. -/
def operate (f : Flags) (op : SetOp) (b : OpenBracket) : OpenBracket :=
  { b with left := some (op, b.value f), members := [] }

/-- Close the bracket. -/
def close (f : Flags) (b : OpenBracket) : Except Fault Bracketed := do
  let value := b.value f
  return ⟨← f.negate b.negated (f.close value.set), value.height + 1⟩

end OpenBracket

/-- A member that is a set of its own. Without Unicode only ASCII can be a member. -/
def member (f : Flags) (set : CharSet) : Except Fault Bracketed :=
  if f.unicode || set.isAscii then .ok ⟨set, 0⟩ else .error .needsUnicode

/-- Read hyphens, each of which stands for itself at the beginning of a bracket. -/
def readHyphens (f : Flags) : (fuel : Nat) → OpenBracket → List Char → OpenBracket × List Char
  | 0, b, cs => (b, cs)
  | fuel + 1, b, cs =>
    match cs with
    | '-' :: rest => readHyphens f fuel (b.insert ⟨.single '-', 0⟩) (f.skip rest)
    | _ => (b, cs)

/-- Read what follows an opening bracket: the sign that excludes, then hyphens or a closing bracket
that stand for themselves. A bracket is never empty, so what would close it at once is a member. -/
def openBracket (f : Flags) (cs : List Char) : Except Fault (OpenBracket × List Char) := do
  let cs := f.skip cs
  let (negated, cs) :=
    match cs with
    | '^' :: rest => (true, f.skip rest)
    | _ => (false, cs)
  let (b, cs) := readHyphens f (cs.length + 1) ⟨negated, none, []⟩ cs
  match cs with
  | [] => throw .unclosedClass
  | ']' :: rest =>
    if b.members.isEmpty then
      let rest := f.skip rest
      if rest.isEmpty then throw .unclosedClass
      return (b.insert ⟨.single ']', 0⟩, rest)
    else return (b, cs)
  | _ => return (b, cs)

/-- Read an ASCII class by name, behind its opening bracket; what is none is left to be read as a
bracket. -/
def readPosix? (f : Flags) (cs : List Char) : Option (Except Fault Bracketed × List Char) :=
  match cs with
  | ':' :: rest =>
    let (negated, rest) :=
      match rest with
      | '^' :: rest => (true, rest)
      | _ => (false, rest)
    match splitAtText [':'] [] rest with
    | some (name, ']' :: rest) =>
      (posixSet? (String.ofList name)).map fun set =>
        (do return ⟨← f.negate negated (f.close set), 0⟩, rest)
    | _ => none
  | _ => none

/-- Read one character or one escape. -/
def readBracketAtom (f : Flags) (cs : List Char) : Except Fault (Atom × List Char) :=
  match cs with
  | [] => .error .unclosedClass
  | '\\' :: rest => readEscape f rest
  | c :: rest => .ok (.literal c false, rest)

/-- The character that an end of a range is. -/
def rangeEnd : Atom → Except Fault Char
  | .literal c _ => .ok c
  | _ => .error .badRange

/-- Read a member that is no bracket: a range, a character or a class with an escape. A hyphen makes
a range unless the bracket ends behind it or another hyphen makes it an operator. -/
def readMember (f : Flags) (cs : List Char) : Except Fault (Bracketed × List Char) := do
  let (first, rest) ← readBracketAtom f cs
  let rest := f.skip rest
  let ranged :=
    match rest with
    | '-' :: behind =>
      match f.skip behind with
      | ']' :: _ | '-' :: _ => none
      | behind => some behind
    | _ => none
  match ranged with
  | some behind =>
    let (last, rest) ← readBracketAtom f behind
    let low ← rangeEnd first
    let high ← rangeEnd last
    if high < low then throw .badRange
    return (← member f ⟨[(low.toNat, high.toNat)]⟩, rest)
  | none =>
    match first with
    | .literal c _ => return (← member f (.single c), rest)
    | .set s => return (← member f s, rest)
    | .look _ => throw .badClassItem

/-- Read up to the bracket that closes the outermost one. The fuel bounds the turns; each takes a
character. -/
def readBrackets (f : Flags) : (fuel : Nat) → (outer : List OpenBracket) → OpenBracket →
    List Char → Except Fault (Bracketed × List Char)
  | 0, _, _, _ => .error .unclosedClass
  | fuel + 1, outer, b, cs => do
    match f.skip cs with
    | [] => throw .unclosedClass
    | '[' :: rest =>
      match readPosix? f rest with
      | some (set, rest) => readBrackets f fuel outer (b.insert (← set)) rest
      | none =>
        let (inner, rest) ← openBracket f rest
        readBrackets f fuel (b :: outer) inner rest
    | ']' :: rest =>
      let closed ← b.close f
      match outer with
      | [] => return (closed, rest)
      | b :: outer => readBrackets f fuel outer (b.insert closed) rest
    | '&' :: '&' :: rest => readBrackets f fuel outer (b.operate f .intersection) rest
    | '-' :: '-' :: rest => readBrackets f fuel outer (b.operate f .difference) rest
    | '~' :: '~' :: rest => readBrackets f fuel outer (b.operate f .symmetricDifference) rest
    | cs =>
      let (member, rest) ← readMember f cs
      readBrackets f fuel outer (b.insert member) rest

/-- Read a set in brackets, behind the opening one. -/
def readBracketed (f : Flags) (cs : List Char) : Except Fault (Bracketed × List Char) := do
  let (b, rest) ← openBracket f cs
  readBrackets f (cs.length + 1) [] b rest

end Occupancy.Pattern
