import BuildStamp.Decimal.Binary64

/-!
# Table — what a document holds and how its tables grow

A dotted key or a header names a table by a path of keys.  Tables on the way are made as they are
needed.  What may still be added to a table depends on its origin: a table is opened by a header
only once, dotted keys add only to tables that dotted keys made, and a table between braces is
finished.

* `Toml.Value` — the values, tables included;
* `Toml.Origin` — how a table came about, which decides what may still be added to it;
* `Toml.Entries` — the members of a table, in the order in which they came;
* `Entries.insert?` — adds one key, which may be dotted;
* `Entries.fill?` — adds several;
* `Entries.within?` — changes the table that the way to a header's table leads to;
* `Entries.open?`, `Entries.append?` — what single and double brackets do there.
-/

namespace BuildStamp
namespace Toml

/-! ## Values -/

/-- How a table came about. -/
inductive Origin where
  | header
  -- As a table on the way to the table of a header.
  | implied
  -- As a table on the way to a dotted key.
  | dotted
  | inline
  deriving DecidableEq, Repr

/-- A value.  A date or a time is checked when it is read and not kept, for no setting holds
one. -/
inductive Value where
  | string (text : String)
  | integer (value : Int)
  | float (value : Binary64)
  | boolean (value : Bool)
  -- A date, a time or both.
  | moment
  | array (items : List Value)
  | table (origin : Origin) (entries : List (String × Value))
  -- The tables of repeated double-bracket headers.
  | tables (items : List (List (String × Value)))

/-- The members of a table, in the order in which they came. -/
abbrev Entries := List (String × Value)

/-- A key and its value in a table, the key being split at its dots. -/
structure Pair where
  -- The parts of the key before the last.
  path : List String
  key : String
  value : Value

namespace Entries

/-! ## Members -/

def replace (key : String) (value : Value) (entries : Entries) : Entries :=
  entries.map fun (k, v) => if k = key then (k, value) else (k, v)

def remove (key : String) (entries : Entries) : Entries :=
  entries.filter fun (k, _) => k ≠ key

def addNew? (key : String) (value : Value) (entries : Entries) : Option Entries :=
  if (entries.lookup key).isSome then none else some (entries ++ [(key, value)])

/-! ## Dotted keys -/

/-- Adds the value of a key whose parts before the last are `path`. -/
def insert? (key : String) (value : Value) : List String → Entries → Option Entries
  | [], entries => addNew? key value entries
  | part :: path, entries =>
      match entries.lookup part with
      | none => do
          let inner ← insert? key value path []
          some (entries ++ [(part, .table .dotted inner)])
      | some (.table origin inner) =>
          if origin = .dotted ∨ (origin = .implied ∧ path ≠ []) then do
            let inner ← insert? key value path inner
            some (replace part (.table origin inner) entries)
          else none
      | some (.tables items) =>
          match items.getLast? with
          | some inner =>
              if path ≠ [] then do
                let inner ← insert? key value path inner
                some (replace part (.tables (items.dropLast ++ [inner])) entries)
              else none
          | none => none
      | some _ => none

/-- Adds some pairs, one after the other. -/
def fill? (pairs : List Pair) (entries : Entries) : Option Entries :=
  pairs.foldlM (fun es p => insert? p.key p.value p.path es) entries

/-! ## Headers -/

/-- Changes the table that `path` leads to.  Of the tables of double brackets the last one is
meant. -/
def within? (change : Entries → Option Entries) : List String → Entries → Option Entries
  | [], entries => change entries
  | part :: path, entries =>
      match entries.lookup part with
      | none => do
          let inner ← within? change path []
          some (entries ++ [(part, .table .implied inner)])
      | some (.table .inline _) => none
      | some (.table origin inner) => do
          let inner ← within? change path inner
          some (replace part (.table origin inner) entries)
      | some (.tables items) =>
          match items.getLast? with
          | some inner => do
              let inner ← within? change path inner
              some (replace part (.tables (items.dropLast ++ [inner])) entries)
          | none => none
      | some _ => none

/-- Opens the table `key` and puts pairs into it.  A table that so far was only implied keeps what
it holds and moves behind the other members. -/
def open? (key : String) (pairs : List Pair) (entries : Entries) : Option Entries :=
  match entries.lookup key with
  | none => do
      let table ← fill? pairs []
      some (entries ++ [(key, .table .header table)])
  | some (.table .implied inner) => do
      let table ← fill? pairs inner
      some (remove key entries ++ [(key, .table .header table)])
  | some _ => none

/-- Appends a table with some pairs to the tables of `key`. -/
def append? (key : String) (pairs : List Pair) (entries : Entries) : Option Entries :=
  match entries.lookup key with
  | none => do
      let table ← fill? pairs []
      some (entries ++ [(key, .tables [table])])
  | some (.tables items) => do
      let table ← fill? pairs []
      some (replace key (.tables (items ++ [table])) entries)
  | some _ => none

end Entries
end Toml
end BuildStamp
