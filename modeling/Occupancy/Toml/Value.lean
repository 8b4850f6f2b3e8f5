/-
Module: Occupancy.Toml.Value
Purpose: TOML values, and how a document's tables grow.
Main exports: TableKind, Value, Members, Members.define, Members.openTable, Members.openTables
-/

namespace Occupancy.Toml

/-!
A table may be written in several places of a document, but not in every combination of ways. Each
table therefore remembers how it came about, and that decides what may still be added to it.
-/

/-- How a table came about: by a header of its own, as a part of the header of another table, as a
part of a dotted key, or as a value in braces. -/
inductive TableKind where
  | explicit
  | implied
  | dotted
  | inline
deriving DecidableEq, Repr

/-- A value. An array is marked if its items are tables with headers. -/
inductive Value where
  | text (text : String)
  | integer (n : Int)
  | float (x : Float)
  | boolean (b : Bool)
  | moment (text : String)
  | array (ofTables : Bool) (items : List Value)
  | table (kind : TableKind) (members : List (String × Value))
deriving Repr, Inhabited

/-- The members of a table, each name at most once. -/
abbrev Members := List (String × Value)

namespace Members

/-- The value of a name. -/
def get? (members : Members) (name : String) : Option Value :=
  (members.find? (·.1 == name)).map (·.2)

/-- Give a name a value, in place of the one that it has. -/
def set (name : String) (value : Value) : Members → Members
  | [] => [(name, value)]
  | m :: rest => if m.1 == name then (name, value) :: rest else m :: set name value rest

/-- Change the table that a path of names leads to. Tables that are missing on the way are made. A
path that is part of a dotted key leads only through tables that have no header of their own; a
header leads through any tables, and through the last item of an array of tables. -/
def within (dotted : Bool) (change : TableKind → Members → Option Members) :
    List String → TableKind → Members → Option Members
  | [], kind, members => change kind members
  | name :: path, _, members =>
    match members.get? name with
    | none => do
      let kind := if dotted then .dotted else .implied
      let inner ← within dotted change path kind []
      return members.set name (.table kind inner)
    | some (.table kind inner) =>
      if kind = .inline ∨ dotted ∧ kind = .explicit then none
      else do
        let inner ← within dotted change path kind inner
        return members.set name (.table kind inner)
    | some (.array true items) =>
      match items.reverse with
      | .table kind inner :: before => do
        let inner ← within dotted change path kind inner
        return members.set name (.array true (.table kind inner :: before).reverse)
      | _ => none
    | some _ => none

/-- Add a member under a dotted key. A table takes members through dotted keys only if it is made of
such keys, and then only through them; and no name is given twice. -/
def define (path : List String) (name : String) (value : Value) :
    TableKind → Members → Option Members :=
  within true (fun kind members =>
    if (kind == .dotted) == path.isEmpty || (members.get? name).isSome then none
    else some (members ++ [(name, value)])) path

/-- Open the table of a header. It may be there already as a part of other headers only. -/
def openTable (path : List String) (name : String) (root : Members) : Option Members :=
  within false (fun _ members =>
    match members.get? name with
    | none => some (members ++ [(name, .table .explicit [])])
    | some (.table .implied inner) => some (members.set name (.table .explicit inner))
    | some _ => none) path .explicit root

/-- Open one more table of the array of a header. -/
def openTables (path : List String) (name : String) (root : Members) : Option Members :=
  within false (fun _ members =>
    match members.get? name with
    | none => some (members ++ [(name, .array true [.table .explicit []])])
    | some (.array true items) =>
      some (members.set name (.array true (items ++ [.table .explicit []])))
    | some _ => none) path .explicit root

end Members
end Occupancy.Toml
