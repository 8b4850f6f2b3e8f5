/-
Module: Occupancy.Pattern.Reader
Purpose: Reading the text of a pattern.
Main exports: Pattern, Pattern.ofText
-/
import Occupancy.Pattern.Bracket
import Occupancy.Pattern.Search

namespace Occupancy.Pattern

/-!
The groups that are open are kept on a stack, so reading is one loop over the text, and each turn of
it (`step`) reads one piece. Flags that are set inside a group hold to its end, across the bars
between its branches.
-/

/-- A part of a pattern, how deeply its text is nested, and whether it can be repeated. A group that
only sets flags is a part that cannot. -/
structure Piece where
  expr : Expr
  height : Nat
  repeatable : Bool
deriving Repr

/-- An open group: its index if it has one, the flags that hold again behind it, and the branches
and pieces around it that have been read, the last ones first. -/
structure OpenGroup where
  index : Option Nat
  flags : Flags
  branches : List Piece
  pieces : List Piece
deriving Repr

/-- The middle of reading. -/
structure Reading where
  flags : Flags
  outer : List OpenGroup
  branches : List Piece
  pieces : List Piece
  names : List (List Char × Nat)
  groups : Nat
deriving Repr

namespace Reading

/-- Nothing has been read. -/
def start : Reading := ⟨.start, [], [], [], [], 0⟩

/-- Add a piece. -/
def push (r : Reading) (expr : Expr) (height : Nat) : Reading :=
  { r with pieces := ⟨expr, height, true⟩ :: r.pieces }

/-- The pieces of the current branch in a row. -/
def row (r : Reading) : Piece :=
  match r.pieces with
  | [] => ⟨.empty, 0, true⟩
  | [piece] => piece
  | pieces =>
    ⟨.sequence (pieces.reverse.map (·.expr)), pieces.foldl (max · ·.height) 0 + 1, true⟩

/-- All that has been read of the current group. -/
def body (r : Reading) : Piece :=
  match r.branches with
  | [] => r.row
  | branches =>
    let branches := r.row :: branches
    ⟨.choice (branches.reverse.map (·.expr)), branches.foldl (max · ·.height) 0 + 1, true⟩

/-- Begin the next branch. -/
def nextBranch (r : Reading) : Reading :=
  { r with branches := r.row :: r.branches, pieces := [] }

/-- Open a group, inside which the given flags hold. -/
def openGroup (r : Reading) (index : Option Nat) (flags : Flags) : Reading :=
  { r with
    flags := flags, outer := ⟨index, r.flags, r.branches, r.pieces⟩ :: r.outer,
    branches := [], pieces := [] }

/-- Open a group that takes the next index. -/
def openIndexed (r : Reading) : Reading :=
  { r.openGroup (some r.groups) r.flags with groups := r.groups + 1 }

/-- Close the innermost group. -/
def closeGroup (r : Reading) : Except Fault Reading :=
  match r.outer with
  | [] => .error .unopenedGroup
  | g :: outer =>
    let body := r.body
    let expr := match g.index with
      | some index => .group index body.expr
      | none => body.expr
    .ok ({ r with flags := g.flags, outer, branches := g.branches, pieces := g.pieces }.push
      expr (body.height + 1))

/-- Repeat the last piece. -/
def repeatLast (r : Reading) (least : Nat) (most : Option Nat) (greedy : Bool) :
    Except Fault Reading :=
  match r.pieces with
  | piece :: pieces =>
    if piece.repeatable then
      .ok ({ r with pieces }.push
        (.rounds piece.expr least most (greedy != r.flags.lazyFirst)) (piece.height + 1))
    else .error .nothingToRepeat
  | [] => .error .nothingToRepeat

/-- Add a character, a set or a test. -/
def pushAtom (r : Reading) : Atom → Except Fault Reading
  | .literal c byte =>
    if byte && !r.flags.unicode && 0x80 ≤ c.toNat then .error .needsBytes
    else .ok (r.push (.one (r.flags.close (.single c))) 0)
  | .set s => .ok (r.push (.one s) 0)
  | .look test => .ok (r.push (.look test) 0)

end Reading

/-- What the dot stands for. -/
def dotSet (f : Flags) : Except Fault CharSet :=
  if !f.unicode then .error .needsBytes
  else if f.dotAll then .ok everySet
  else if f.anyLineEnd then .ok notAnyLineEndSet
  else .ok notLineEndSet

/-- What the circumflex stands for. -/
def startTest (f : Flags) : Look :=
  if !f.multiLine then .textStart else if f.anyLineEnd then .lineStartAny else .lineStart

/-- What the dollar sign stands for. -/
def endTest (f : Flags) : Look :=
  if !f.multiLine then .textEnd else if f.anyLineEnd then .lineEndAny else .lineEnd

/-- Whether a question mark follows, which asks for as few rounds as possible. -/
def readLazy : List Char → Bool × List Char
  | '?' :: rest => (true, rest)
  | cs => (false, cs)

/-- Read decimal digits, passing over what does not count behind each. -/
def readDigits (f : Flags) : (fuel : Nat) → (taken : List Char) → List Char →
    List Char × List Char
  | 0, taken, cs => (taken.reverse, cs)
  | _ + 1, taken, [] => (taken.reverse, [])
  | fuel + 1, taken, c :: rest =>
    if c.isDigit then readDigits f fuel (c :: taken) (f.skip rest) else (taken.reverse, c :: rest)

/-- Read a number of rounds with the white space around it, if digits are there. It has to fit into
32 bits. -/
def readCount (f : Flags) (cs : List Char) : Except Fault (Option Nat × List Char) :=
  let (digits, rest) := readDigits f (cs.length + 1) [] (cs.dropWhile Text.isBlank)
  let rest := rest.dropWhile Text.isBlank
  let n := digits.foldl (fun n d => n * 10 + (d.toNat - 0x30)) 0
  if digits.isEmpty then .ok (none, rest)
  else if n < UInt32.size then .ok (some n, rest)
  else .error .badCount

/-- Read the bounds of a repetition, behind the opening brace. -/
def readBounds (f : Flags) (cs : List Char) :
    Except Fault ((Nat × Option Nat) × List Char) := do
  let (least, rest) ← readCount f (f.skip cs)
  let some least := least | throw .badCount
  match rest with
  | '\x7d' :: rest => return ((least, some least), rest)
  | ',' :: rest =>
    match f.skip rest with
    | '\x7d' :: rest => return ((least, none), rest)
    | rest =>
      let (most, rest) ← readCount f rest
      let some most := most | throw .badCount
      let '\x7d' :: rest := rest | throw .badCount
      if most < least then throw .badCount
      return ((least, some most), rest)
  | _ => throw .badCount

/-- Change a flag by its letter. -/
def Flags.set? (f : Flags) (c : Char) (on : Bool) : Option Flags :=
  match c with
  | 'i' => some { f with caseless := on }
  | 'm' => some { f with multiLine := on }
  | 's' => some { f with dotAll := on }
  | 'U' => some { f with lazyFirst := on }
  | 'u' => some { f with unicode := on }
  | 'R' => some { f with anyLineEnd := on }
  | 'x' => some { f with spaced := on }
  | _ => none

/-- Read the letters of flags, each at most once, up to the colon or parenthesis that ends them. One
hyphen may stand among them, not at the end; the letters behind it take their flags back. -/
def readFlags (seen : List Char) (f : Flags) : List Char →
    Except Fault (Flags × Bool × List Char)
  | [] => .error .badFlags
  | c :: rest =>
    if c = ':' ∨ c = ')' then
      if seen.head? = some '-' ∨ c = ')' ∧ seen.isEmpty then .error .badFlags
      else .ok (f, c = ':', rest)
    else if c ∈ seen then .error .badFlags
    else if c = '-' then readFlags (c :: seen) f rest
    else
      match f.set? c ('-' ∉ seen) with
      | some f => readFlags (c :: seen) f rest
      | none => .error .badFlags

/-- Characters that the name of a group begins with. -/
def isNameStart (c : Char) : Bool :=
  c == '_' || c.isAlpha ||
    (0x80 ≤ c.toNat && (CharSet.ofRanges Unicode.alphabeticRanges).contains c)

/-- Characters that the name of a group goes on with. -/
def isNameRest (c : Char) : Bool :=
  c == '_' || c == '.' || c == '[' || c == ']' || c.isAlphanum ||
    (0x80 ≤ c.toNat && (CharSet.ofRanges Unicode.alphanumericRanges).contains c)

/-- Read the name of a group up to the angle bracket that ends it. -/
def readName (cs : List Char) : Except Fault (List Char × List Char) := do
  let name := cs.takeWhile (· != '>')
  let '>' :: rest := cs.dropWhile (· != '>') | throw .badGroupName
  let first :: others := name | throw .badGroupName
  if isNameStart first && others.all isNameRest then return (name, rest)
  else throw .badGroupName

/-- Read what follows an opening parenthesis. -/
def readGroup (r : Reading) (cs : List Char) : Except Fault (Reading × List Char) := do
  let named (rest : List Char) : Except Fault (Reading × List Char) := do
    let (name, rest) ← readName rest
    if r.names.any (·.1 == name) then throw (.repeatedGroupName name)
    return ({ r.openIndexed with names := (name, r.groups) :: r.names }, rest)
  match r.flags.skip cs with
  | '?' :: '=' :: _ | '?' :: '!' :: _ | '?' :: '<' :: '=' :: _ | '?' :: '<' :: '!' :: _ =>
    throw .lookAround
  | '?' :: 'P' :: '<' :: rest => named rest
  | '?' :: '<' :: rest => named rest
  | '?' :: rest =>
    let (flags, opens, rest) ← readFlags [] r.flags rest
    if opens then return (r.openGroup none flags, rest)
    else return ({ r with flags, pieces := ⟨.empty, 0, false⟩ :: r.pieces }, rest)
  | rest => return (r.openIndexed, rest)

/-- Read one piece of a pattern, or what separates pieces. -/
def step (r : Reading) (c : Char) (rest : List Char) : Except Fault (Reading × List Char) := do
  let repeated (least : Nat) (most : Option Nat) (rest : List Char) := do
    let (reluctant, rest) := readLazy rest
    return (← r.repeatLast least most !reluctant, rest)
  match c with
  | '(' => readGroup r rest
  | ')' => return (← r.closeGroup, rest)
  | '|' => return (r.nextBranch, rest)
  | '[' =>
    let (class', rest) ← readBracketed r.flags rest
    return (r.push (.one class'.set) class'.height, rest)
  | '?' => repeated 0 (some 1) rest
  | '*' => repeated 0 none rest
  | '+' => repeated 1 none rest
  | '\x7b' =>
    let ((least, most), rest) ← readBounds r.flags rest
    repeated least most (r.flags.skip rest)
  | '\\' =>
    let (atom, rest) ← readEscape r.flags rest
    return (← r.pushAtom atom, rest)
  | '.' => return (r.push (.one (← dotSet r.flags)) 0, rest)
  | '^' => return (r.push (.look (startTest r.flags)) 0, rest)
  | '$' => return (r.push (.look (endTest r.flags)) 0, rest)
  | c => return (← r.pushAtom (.literal c false), rest)

/-- Read to the end of the text. The fuel bounds the turns; each takes a character. -/
def readPieces : (fuel : Nat) → Reading → List Char → Except Fault Reading
  | 0, r, _ => .ok r
  | fuel + 1, r, cs =>
    match r.flags.skip cs with
    | [] => .ok r
    | c :: rest => do
      let (r, rest) ← step r c rest
      readPieces fuel r rest

/-- The deepest nesting that is read. -/
def heightLimit : Nat := 250

end Pattern

/-- A pattern ready for searching: its text, its program, and the groups that have a name. -/
structure Pattern where
  text : String
  program : Pattern.Program
  names : List (List Char × Nat)
deriving Repr, Inhabited

namespace Pattern

/-- Read a pattern. A group inside a part that is repeated no times is no group of the pattern. -/
def ofText (text : String) : Except Fault Pattern := do
  let cs := text.toList
  let reading ← readPieces (cs.length + 1) .start cs
  if !reading.outer.isEmpty then throw .unclosedGroup
  let body := reading.body
  if heightLimit < body.height then throw .tooDeep
  if costLimit < body.expr.cost then throw .tooLarge
  let groups := body.expr.groups
  return ⟨text, .ofExpr body.expr reading.groups, reading.names.filter (·.2 ∈ groups)⟩

/-- The text of each named group in the preferred match, for groups that took part in it. -/
def captures? (p : Pattern) (text : List Char) : Option (List Char → Option (List Char)) :=
  (p.program.find? text).map fun marks name => do
    let (_, index) ← p.names.find? (·.1 == name)
    groupText marks text index

end Pattern
end Occupancy
