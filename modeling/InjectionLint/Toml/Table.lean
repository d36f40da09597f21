import InjectionLint.Toml.Value

/-!
Tables in the making. A document may fill a table in several places, but each table is defined once:
by a header, by the dotted keys of one place, or as a value. `Node` remembers how a table came to be.
-/

set_option autoImplicit false

namespace InjectionLint

namespace Toml

inductive Definition where
  /-- On the way to a table below it. -/
  | implied
  | byHeader
  | byDottedKey
  deriving DecidableEq, Repr

inductive Node where
  | leaf (value : Value)
  | table (definition : Definition) (entries : List (String × Node))
  | tables (items : List (List (String × Node)))

abbrev Entries := List (String × Node)

namespace Entries

def get? (entries : Entries) (key : String) : Option Node :=
  (entries.find? (·.1 = key)).map (·.2)

def set (key : String) (node : Node) : Entries → Entries
  | [] => [(key, node)]
  | (name, old) :: rest =>
    if name = key then (key, node) :: rest else (name, old) :: set key node rest

/-- Set a value under a dotted key. Tables on the way are made by the key or were made by such keys
before; a value is never replaced. -/
def insert? (value : Value) : List String → Entries → Option Entries
  | [], _ => none
  | [key], entries =>
    match entries.get? key with
    | some _ => none
    | none => some (entries.set key (.leaf value))
  | key :: rest, entries =>
    match entries.get? key with
    | none => do pure (entries.set key (.table .byDottedKey (← insert? value rest [])))
    | some (.table .byDottedKey inner) => do
      pure (entries.set key (.table .byDottedKey (← insert? value rest inner)))
    | some _ => none

/-- Change the table under a path of headers; tables on the way are implied. Of tables under a
repeated header the last one is meant. -/
def update? (change : Entries → Option Entries) : List String → Entries → Option Entries
  | [], entries => change entries
  | key :: rest, entries =>
    match entries.get? key with
    | none => do pure (entries.set key (.table .implied (← update? change rest [])))
    | some (.table definition inner) => do
      pure (entries.set key (.table definition (← update? change rest inner)))
    | some (.tables items) =>
      match items.getLast? with
      | some last => do
        pure (entries.set key (.tables (items.dropLast ++ [← update? change rest last])))
      | none => none
    | some (.leaf _) => none

/-- Define a table by its header. Only a table that is merely implied may exist. -/
def define? (key : String) (entries : Entries) : Option Entries :=
  match entries.get? key with
  | none => some (entries.set key (.table .byHeader []))
  | some (.table .implied inner) => some (entries.set key (.table .byHeader inner))
  | some _ => none

def extend? (key : String) (entries : Entries) : Option Entries :=
  match entries.get? key with
  | none => some (entries.set key (.tables [[]]))
  | some (.tables items) => some (entries.set key (.tables (items ++ [[]])))
  | some _ => none

end Entries

mutual

def Node.value : Node → Value
  | .leaf value => value
  | .table _ entries => .table (entryValues entries)
  | .tables items => .array (tableValues items)

def entryValues : List (String × Node) → List (String × Value)
  | [] => []
  | (key, node) :: rest => (key, node.value) :: entryValues rest

def tableValues : List (List (String × Node)) → List Value
  | [] => []
  | entries :: rest => .table (entryValues entries) :: tableValues rest

end

end Toml

end InjectionLint
