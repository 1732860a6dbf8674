/-!
# PascalTokens.Toml.Item

What a TOML document holds: scalars, arrays and tables.

A table may be written in pieces, but only in certain ways, so a table
remembers how it came about:

1. a table under its own header, or an element of an array of tables, is not
   opened a second time, neither by a header nor by dotted keys;
2. a table that headers only pass through may still get its own header;
3. a table made by dotted keys grows by dotted keys alone;
4. an inline table is finished where it is closed.
-/

namespace PascalTokens.Toml

/-- How a table came about. -/
inductive TableOrigin
  /-- By a header of its own. -/
  | header
  /-- On the way to the table of a header. -/
  | passed
  /-- By dotted keys. -/
  | dotted
  /-- Between braces. -/
  | inline
deriving DecidableEq, Repr

/-- An item of a document.  Of numbers and of dates and times only the sort is
kept. -/
inductive Item
  | string (s : String)
  | boolean (b : Bool)
  | number
  | moment
  | array (items : List Item)
  | table (origin : TableOrigin) (entries : List (String × Item))
  /-- An array of tables, each written under a header of its own. -/
  | tables (elements : List (List (String × Item)))

/-- The entries of a table. -/
abbrev Entries := List (String × Item)

namespace Entries

/-- The entries with another item under a key that is there already. -/
def replace (entries : Entries) (key : String) (item : Item) : Entries :=
  entries.map fun e => if e.1 = key then (key, item) else e

/-- Changes the entries of the table at the end of a path of keys, which is
made where it is missing.  On the way an array of tables stands for its last
element.  Dotted keys (`dotted`) do not lead into tables with a header, and
nothing leads into an inline table. -/
def update (dotted : Bool) (change : TableOrigin → Entries → Option Entries) :
    List String → TableOrigin → Entries → Option Entries
  | [], origin, entries => change origin entries
  | key :: path, _, entries =>
    match entries.lookup key with
    | none => do
      let origin := if dotted then .dotted else .passed
      let inner ← update dotted change path origin []
      some (entries ++ [(key, .table origin inner)])
    | some (.table origin inner) =>
      if origin = .inline ∨ (dotted ∧ origin = .header) then none
      else do
        let inner ← update dotted change path origin inner
        some (entries.replace key (.table origin inner))
    | some (.tables elements) => do
      let last ← elements.getLast?
      let last ← update dotted change path .header last
      some (entries.replace key (.tables (elements.dropLast ++ [last])))
    | some _ => none

/-- Adds an item under the last of some dotted keys.  The key has to be new, and
the other keys have to lead to a table made by dotted keys. -/
def insert (path : List String) (key : String) (item : Item) (origin : TableOrigin)
    (entries : Entries) : Option Entries :=
  update true
    (fun origin entries =>
      if (origin = .dotted) ↔ path = [] then none
      else if (entries.lookup key).isSome then none
      else some (entries ++ [(key, item)]))
    path origin entries

/-- Opens the table of a header, whose last key is `key`. -/
def openTable (path : List String) (key : String) (root : Entries) : Option Entries :=
  update false
    (fun _ entries =>
      match entries.lookup key with
      | none => some (entries ++ [(key, .table .header [])])
      | some (.table .passed inner) => some (entries.replace key (.table .header inner))
      | some _ => none)
    path .header root

/-- Adds an empty element to the array of tables of a header. -/
def openElement (path : List String) (key : String) (root : Entries) : Option Entries :=
  update false
    (fun _ entries =>
      match entries.lookup key with
      | none => some (entries ++ [(key, .tables [[]])])
      | some (.tables elements) => some (entries.replace key (.tables (elements ++ [[]])))
      | some _ => none)
    path .header root

/-- Adds an item to the table of a header that has been opened. -/
def insertUnder (header path : List String) (key : String) (item : Item) (root : Entries) :
    Option Entries :=
  update false (insert path key item) header .header root

end Entries

end PascalTokens.Toml
