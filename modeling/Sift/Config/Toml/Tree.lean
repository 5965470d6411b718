import Sift.Config.Value

set_option autoImplicit false
set_option relaxedAutoImplicit false

/-!
# Tables of TOML under construction

The headers and assignments of a TOML text build one tree of tables. What may be added to a table
depends on how it has come about: a table that only stands on the way to another may still get a
header of its own, until a dotted key assigns a value in it; dotted keys may add to a table without
a header; and what is written as a value is complete.

## Main definitions

* `Sift.Config.Toml.Node`: a part of the tree.
* `Sift.Config.Toml.Statement`: a header or an assignment.
* `Sift.Config.Toml.tableOf?`: the table that statements build.
-/

namespace Sift.Config.Toml

/-- How a table has come about. -/
inductive Origin
  /-- It stands on the way to a table with a header. -/
  | onTheWay
  /-- It has a header. -/
  | header
  /-- A dotted key has made it or has assigned a value in it. -/
  | dotted
deriving DecidableEq

/-- A part of the tree. -/
inductive Node
  /-- A value. -/
  | value (value : Value)
  /-- A table. -/
  | table (origin : Origin) (entries : List (String × Node))
  /-- Tables with equal headers, the last one first. -/
  | tables (last : List (String × Node)) (before : List (List (String × Node)))

/-- A header or an assignment. -/
inductive Statement
  /-- The header of a table. -/
  | header (path : List String)
  /-- The header of one of several tables. -/
  | arrayHeader (path : List String)
  /-- An assignment to a dotted key. -/
  | assignment (path : List String) (value : Value)

namespace Node

/-- Named parts of the tree. -/
abbrev Entries : Type :=
  List (String × Node)

/-- Change the table at the end of a path of headers. Missing tables are made on the way. -/
def changeAt? (change : Entries → Option Entries) : List String → Entries → Option Entries
  | [], entries => change entries
  | key :: path, entries =>
    match entries.lookup key with
    | none => do
      let inner ← changeAt? change path []
      return put key (table .onTheWay inner) entries
    | some (table origin inner) => do
      let inner ← changeAt? change path inner
      return put key (table origin inner) entries
    | some (tables last before) => do
      let last ← changeAt? change path last
      return put key (tables last before) entries
    | some (value _) => none

/-- Add the header of a table, which may not have one yet. -/
def addHeader? (key : String) (entries : Entries) : Option Entries :=
  match entries.lookup key with
  | none => some (put key (table .header []) entries)
  | some (table .onTheWay inner) => some (put key (table .header inner) entries)
  | some _ => none

/-- Add a header of one of several tables. -/
def addArrayHeader? (key : String) (entries : Entries) : Option Entries :=
  match entries.lookup key with
  | none => some (put key (tables [] []) entries)
  | some (tables last before) => some (put key (tables [] (last :: before)) entries)
  | some _ => none

/-- Assign a value to a dotted key, which may not have one yet. No table on the way has a header,
but for the last of several tables, which may be on the way to a further table. The table that gets
the value may have no header from then on; the tables passed on the way to it keep their origin. -/
def assign? (v : Value) : List String → Entries → Option Entries
  | [], _ => none
  | [key], entries =>
    match entries.lookup key with
    | none => some (put key (value v) entries)
    | some _ => none
  | key :: next :: path, entries =>
    match entries.lookup key with
    | none => do
      let inner ← assign? v (next :: path) []
      return put key (table .dotted inner) entries
    | some (table origin inner) =>
      if origin = .header then none
      else do
        let inner ← assign? v (next :: path) inner
        return put key (table (if path.isEmpty then .dotted else origin) inner) entries
    | some (tables last before) =>
      if path.isEmpty then none
      else do
        let last ← assign? v (next :: path) last
        return put key (tables last before) entries
    | some (value _) => none

mutual

/-- The value that a part of the tree has when it is complete. -/
def toValue : Node → Value
  | value v => v
  | table _ entries => .table (toTable entries)
  | tables last before => .array (toTables before (.table (toTable last) :: []))

/-- The values of named parts. -/
def toTable : List (String × Node) → Table
  | [] => []
  | (key, node) :: rest => (key, node.toValue) :: toTable rest

/-- The tables with equal headers in the order in which they are written, before those given. -/
def toTables : List (List (String × Node)) → List Value → List Value
  | [], after => after
  | entries :: before, after => toTables before (.table (toTable entries) :: after)

end

end Node

/-- The tree and the path of the header that was read last. -/
structure Building where
  /-- The parts of the outermost table. -/
  entries : Node.Entries
  /-- The path of the header that holds for assignments. -/
  current : List String

/-- Add a statement to the tree. -/
def Building.add? (b : Building) : Statement → Option Building
  | .header path => do
    let key ← path.getLast?
    let entries ← Node.changeAt? (Node.addHeader? key) path.dropLast b.entries
    return ⟨entries, path⟩
  | .arrayHeader path => do
    let key ← path.getLast?
    let entries ← Node.changeAt? (Node.addArrayHeader? key) path.dropLast b.entries
    return ⟨entries, path⟩
  | .assignment path v => do
    let entries ← Node.changeAt? (Node.assign? v path) b.current b.entries
    return ⟨entries, b.current⟩

/-- The table that statements build, if each of them may be made. -/
def tableOf? (statements : List Statement) : Option Table := do
  let built ← statements.foldlM Building.add? ⟨[], []⟩
  return Node.toTable built.entries

end Sift.Config.Toml
