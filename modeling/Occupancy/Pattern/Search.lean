/-
Module: Occupancy.Pattern.Search
Purpose: The preferred match of a program in a text.
Main exports: Marks, Place, settle, search, Program.find?
-/
import Occupancy.Pattern.NamedSet
import Occupancy.Pattern.Program

namespace Occupancy.Pattern

/-!
All ways of matching are followed side by side, one character at a time, as a list of threads in
order of preference. Two threads at the same address have the same future, so only the preferred one
is kept; the list is then never longer than the program, and a search takes time in proportion to
the text however many ways there are.

At each place the threads first run through the instructions that take no character (`settle`). A
thread that accepts there ends all threads of lower preference, also those that have not begun to
match yet, while the preferred ones live on and may still find a better match.
-/

/-- Where the groups begin and end. -/
abbrev Marks := List (Option Nat)

/-- A place in a text: how many characters stand before it, and the characters around it. -/
structure Place where
  offset : Nat
  before : Option Char
  after : Option Char
deriving Repr

/-- Whether there is a word character. -/
def isWord (unicode : Bool) (c : Option Char) : Bool :=
  c.any fun c =>
    asciiWordSet.contains c || (unicode && 0x80 ≤ c.toNat && wordSet.contains c)

/-- Whether a test holds at a place. -/
def Look.holds (p : Place) : Look → Bool
  | .textStart => p.before.isNone
  | .textEnd => p.after.isNone
  | .lineStart => p.before.isNone || p.before == some '\n'
  | .lineEnd => p.after.isNone || p.after == some '\n'
  | .lineStartAny =>
    p.before.isNone || p.before == some '\n' || (p.before == some '\r' && p.after != some '\n')
  | .lineEndAny =>
    p.after.isNone || p.after == some '\r' || (p.after == some '\n' && p.before != some '\r')
  | .wordBoundary unicode => isWord unicode p.before != isWord unicode p.after
  | .notWordBoundary unicode => isWord unicode p.before == isWord unicode p.after
  | .wordStart unicode => !isWord unicode p.before && isWord unicode p.after
  | .wordEnd unicode => isWord unicode p.before && !isWord unicode p.after
  | .wordStartHalf unicode => !isWord unicode p.before
  | .wordEndHalf unicode => !isWord unicode p.after

/-- One way of matching: the address it has come to, and its marks. -/
structure Thread where
  pc : Nat
  marks : Marks
deriving Repr

/-- A thread that waits for a character. -/
structure Waiting where
  set : CharSet
  next : Nat
  marks : Marks
deriving Repr

/-- What the threads come to at one place: those that wait for a character, in order of preference,
and the marks of the one that accepted, if one did. -/
structure Settled where
  waiting : List Waiting
  accepted : Option Marks
deriving Repr

/-- Run threads, the most preferred first, up to the instructions that take a character. Addresses
already passed at this place are the bits of `seen`. Each of them is left once and in at most two
ways, so fuel for every thread given and twice the size of the program is enough. -/
def settle (p : Program) (place : Place) :
    (fuel : Nat) → (seen : Nat) → (waiting : List Waiting) → List Thread → Settled
  | _, _, waiting, [] => ⟨waiting.reverse, none⟩
  | 0, _, waiting, _ => ⟨waiting.reverse, none⟩
  | fuel + 1, seen, waiting, ⟨pc, marks⟩ :: threads =>
    if seen.testBit pc then settle p place fuel seen waiting threads
    else
      let seen := seen ||| 1 <<< pc
      match p.code[pc]? with
      | some (.one set next) => settle p place fuel seen (⟨set, next, marks⟩ :: waiting) threads
      | some (.look test next) =>
        let threads := if test.holds place then ⟨next, marks⟩ :: threads else threads
        settle p place fuel seen waiting threads
      | some (.fork first second) =>
        settle p place fuel seen waiting (⟨first, marks⟩ :: ⟨second, marks⟩ :: threads)
      | some (.mark slot next) =>
        settle p place fuel seen waiting (⟨next, marks.set slot (some place.offset)⟩ :: threads)
      | some .accept => ⟨waiting.reverse, some marks⟩
      | none => settle p place fuel seen waiting threads

/-- The threads that can take a character, behind it. -/
def advance (c : Char) (waiting : List Waiting) : List Thread :=
  waiting.filterMap fun w => if w.set.contains c then some ⟨w.next, w.marks⟩ else none

/-- The thread of a match that would begin here. -/
def Program.start (p : Program) : Thread := ⟨p.entry, List.replicate p.slots none⟩

/-- Settle the threads at a place. While nothing is found a new match may begin, the least preferred
of all. -/
def Program.settleAt (p : Program) (place : Place) (threads : List Thread)
    (found : Option Marks) : Settled :=
  let threads := if found.isSome then threads else threads ++ [p.start]
  settle p place (threads.length + 2 * p.code.size) 0 [] threads

/-- Follow the threads through the rest of a text. -/
def search (p : Program) (offset : Nat) (before : Option Char) (threads : List Thread)
    (found : Option Marks) : List Char → Option Marks
  | [] => (p.settleAt ⟨offset, before, none⟩ threads found).accepted <|> found
  | c :: rest =>
    let settled := p.settleAt ⟨offset, before, some c⟩ threads found
    let found := settled.accepted <|> found
    if settled.waiting.isEmpty && found.isSome then found
    else search p (offset + 1) (some c) (advance c settled.waiting) found rest

/-- The marks of the preferred match: of those that begin first, the one whose choices are preferred
from left to right. -/
def Program.find? (p : Program) (text : List Char) : Option Marks :=
  search p 0 none [] none text

/-- What a group matched. -/
def groupText (marks : Marks) (text : List Char) (index : Nat) : Option (List Char) := do
  let start ← (marks[2 * index]?).join
  let stop ← (marks[2 * index + 1]?).join
  return (text.drop start).take (stop - start)

end Occupancy.Pattern
