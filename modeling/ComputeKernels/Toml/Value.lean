/-!
# Values and tables of a TOML document

A document is a tree of tables.  Each table remembers how it came to be, since that decides which
later lines may still add to it: a header may complete a table that longer headers implied, dotted
keys may add to tables that dotted keys created, and a literal table is closed at once.

Main results:

- Theorem `find?_append`: an entry that is added does not hide an earlier one.
-/

namespace ComputeKernels.Toml

/-! ## Values -/

/-- How a table came to be. -/
inductive Origin
  /-- It has a header of its own. -/
  | header
  /-- A longer header implied it. -/
  | implied
  /-- Dotted keys created it. -/
  | dotted
  /-- It was written as a value. -/
  | literal
deriving DecidableEq

/-- Values of a document.  Numbers with a fraction and points in time are recognised but not
evaluated. -/
inductive Value
  | string (text : String)
  | integer (number : Int)
  | float
  | boolean (flag : Bool)
  | dateTime
  | array (items : List Value)
  /-- Tables that share a doubly bracketed header, in order. -/
  | tables (items : List (List (String × Value)))
  | table (origin : Origin) (entries : List (String × Value))

/-- Entries of a table. -/
abbrev Entries := List (String × Value)

namespace Entries

/-- Value of a key. -/
def find? (key : String) : Entries → Option Value
  | [] => none
  | (k, v) :: rest => if k = key then some v else find? key rest

/-- Puts a value in place of the one of a key, or after all others. -/
def put (key : String) (value : Value) : Entries → Entries
  | [] => [(key, value)]
  | (k, v) :: rest => if k = key then (key, value) :: rest else (k, v) :: put key value rest

/-- An entry that is added does not hide an earlier one. -/
theorem find?_append (key : String) (a b : Entries) :
    find? key (a ++ b) = (find? key a).or (find? key b) := by
  induction a with
  | nil => rfl
  | cons e rest ih => grind [find?]

/-! ## Adding to a document -/

/-- Applies a change to the last of several tables. -/
def changeLast (change : Entries → Option Entries) : List Entries → Option (List Entries)
  | [] => none
  | [last] => (change last).map ([·])
  | first :: rest => (changeLast change rest).map (first :: ·)

/-- Applies a change below a value that headers may name on their way. -/
def changeBelow (change : Entries → Option Entries) : Value → Option Value
  | .table .literal _ => none
  | .table origin entries => (change entries).map (.table origin)
  | .tables items => (changeLast change items).map .tables
  | _ => none

/-- Applies a change to the table at a path that exists. -/
def changeAt (change : Entries → Option Entries) : List String → Entries → Option Entries
  | [], entries => change entries
  | key :: path, entries => do
    let value ← entries.find? key
    return entries.put key (← changeBelow (changeAt change path) value)

/-- Opens the table of a header: it is new, or longer headers implied it. -/
def openTable (key : String) : List String → Entries → Option Entries
  | [], entries =>
    match entries.find? key with
    | none => some (entries.put key (.table .header []))
    | some (.table .implied below) => some (entries.put key (.table .header below))
    | some _ => none
  | next :: path, entries =>
    match entries.find? key with
    | none => do
      return entries.put key (.table .implied (← openTable next path []))
    | some value => do
      return entries.put key (← changeBelow (openTable next path) value)

/-- Opens one more table under a doubly bracketed header. -/
def openItem (key : String) : List String → Entries → Option Entries
  | [], entries =>
    match entries.find? key with
    | none => some (entries.put key (.tables [[]]))
    | some (.tables items) => some (entries.put key (.tables (items ++ [[]])))
    | some _ => none
  | next :: path, entries =>
    match entries.find? key with
    | none => do
      return entries.put key (.table .implied (← openItem next path []))
    | some value => do
      return entries.put key (← changeBelow (openItem next path) value)

/-- Adds a value under a dotted key.  The table that gets the value must be one that dotted keys
created; on the way there may also be tables that headers implied. -/
def assign (value : Value) (key : String) : List String → Entries → Option Entries
  | [], entries =>
    match entries.find? key with
    | none => some (entries.put key value)
    | some _ => none
  | next :: path, entries =>
    match entries.find? key with
    | none => do
      return entries.put key (.table .dotted (← assign value next path []))
    | some (.table .dotted below) => do
      return entries.put key (.table .dotted (← assign value next path below))
    | some (.table .implied below) =>
      if path.isEmpty then none
      else do
        return entries.put key (.table .implied (← assign value next path below))
    | some (.tables items) =>
      if path.isEmpty then none
      else do
        return entries.put key (.tables (← changeLast (assign value next path) items))
    | some _ => none

end Entries

end ComputeKernels.Toml
