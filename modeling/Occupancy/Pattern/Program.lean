/-
Module: Occupancy.Pattern.Program
Purpose: Regular expressions as programs of small instructions.
Main exports: Instr, Program, Program.ofExpr, Expr.cost
-/
import Occupancy.Pattern.Expr

namespace Occupancy.Pattern

/-!
A program is a graph of instructions. It is laid out from the end: each part is compiled with the
address that is to follow it already known, and gives back the address at which it begins. Only a
loop needs an address before its instruction is known; `Program.loop` sets a place aside for it.
-/

/-- One instruction. An instruction with two followers prefers the first of them. -/
inductive Instr where
  | one (set : CharSet) (next : Nat)
  | look (test : Look) (next : Nat)
  | fork (first second : Nat)
  | mark (slot : Nat) (next : Nat)
  | accept
deriving Repr, Inhabited

/-- Instructions, the address of the first one, and the number of places that marks are kept in: a
beginning and an end for each group. -/
structure Program where
  code : Array Instr
  entry : Nat
  slots : Nat
deriving Repr, Inhabited

namespace Program

/-- A part of a program whose first address is `entry`. -/
structure Part where
  entry : Nat
  code : Array Instr
deriving Repr

/-- Put one more instruction in front. -/
def Part.push (code : Array Instr) (instr : Instr) : Part :=
  ⟨code.size, code.push instr⟩

/-- The choice between one more round and going on. -/
def choose (greedy : Bool) (round next : Nat) : Instr :=
  if greedy then .fork round next else .fork next round

/-- Repeat a step. -/
def times (step : Part → Part) : Nat → Part → Part
  | 0, part => part
  | n + 1, part => times step n (step part)

/-- A loop that has to be entered through its body: the body is followed by the choice between
itself and what comes after. Gives the address of the choice and the part that begins with the
body. -/
def loop (body : Nat → Array Instr → Part) (greedy : Bool) (next : Nat) (code : Array Instr) :
    Nat × Part :=
  let choice := code.size
  let part := body choice (code.push .accept)
  (choice, ⟨part.entry, part.code.setIfInBounds choice (choose greedy part.entry next)⟩)

/-- Put an expression in front of the instruction at `next`. -/
def compile : Expr → (next : Nat) → Array Instr → Part
  | .empty, next, code => ⟨next, code⟩
  | .one set, next, code => .push code (.one set next)
  | .look test, next, code => .push code (.look test next)
  | .seq a b, next, code =>
    let part := compile b next code
    compile a part.entry part.code
  | .alt a b, next, code =>
    let right := compile b next code
    let left := compile a next right.code
    .push left.code (.fork left.entry right.entry)
  | .group index body, next, code =>
    let close := Part.push code (.mark (2 * index + 1) next)
    let part := compile body close.entry close.code
    .push part.code (.mark (2 * index) part.entry)
  | .repeated body least most greedy, next, code =>
    let round (part : Part) : Part := compile body part.entry part.code
    match most with
    | some most =>
      let optional (part : Part) : Part :=
        let part := round part
        .push part.code (choose greedy part.entry next)
      times round least (times optional (most - least) ⟨next, code⟩)
    | none =>
      let (choice, part) := loop (fun next code => compile body next code) greedy next code
      if least = 0 then
        -- A body that can take nothing is entered behind a choice of its own: going round through
        -- the loop's choice would prefer the empty round to the ways that the body lists after it.
        if body.consumes then ⟨choice, part.code⟩
        else .push part.code (choose greedy part.entry next)
      else times round (least - 1) part

/-- The program of an expression with so many groups. -/
def ofExpr (expr : Expr) (groups : Nat) : Program :=
  let part := compile expr 0 #[.accept]
  ⟨part.code, part.entry, 2 * groups⟩

end Program

/-- Bytes that a set of characters takes in a program over UTF-8: an estimate by its ranges. -/
def CharSet.cost (set : CharSet) : Nat :=
  match set.ranges with
  | [(low, high)] =>
    if low = high then 32 * (String.singleton (Char.ofNat low)).utf8ByteSize
    else if high < 0x80 then 32 else 128
  | ranges => if set.isAscii then 32 + 8 * ranges.length else 64 * ranges.length

/-- Bytes that the program of an expression takes. Repetitions are written out, so a short text can
ask for a program of any size. -/
def Expr.cost : Expr → Nat
  | .empty => 32
  | .one set => set.cost
  | .look _ => 32
  | .seq a b => a.cost + b.cost
  | .alt a b => a.cost + b.cost + 32
  | .repeated body least most _ => body.cost * max 1 (most.getD least) + 32
  | .group _ body => body.cost + 64

/-- The greatest size of a program in bytes. -/
def costLimit : Nat := 10 * 1024 * 1024

end Occupancy.Pattern
