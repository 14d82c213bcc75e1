import ComputeKernels.Toml.Scalar

/-!
# TOML documents

A document is a sequence of statements, one a line: a header opens a table, and a key with a value
adds to the open table.  Two statements that define the same thing make the document invalid.
-/

namespace ComputeKernels.Toml

open Text (Reader)
open Text.Reader

/-! ## Values -/

/-- Takes the items of an array after its bracket, at most as many as a budget. -/
def itemsWithin (item : Reader Value) : Nat → Reader (List Value)
  | 0 => failure
  | budget + 1 => do
    gap
    if ← maybe (only ']') then return []
    let first ← item
    gap
    if ← maybe (only ',') then return first :: (← itemsWithin item budget)
    only ']'
    return [first]

/-- Adds the entries of a literal table after its brace, at most as many as a budget. -/
def entriesWithin (item : Reader Value) : Nat → Entries → Reader Entries
  | 0, _ => failure
  | budget + 1, entries => do
    let (key, path) ← dottedKey
    only '='
    spaces
    let value ← item
    spaces
    match entries.assign value key path with
    | none => failure
    | some entries =>
      if ← maybe (only ',') then entriesWithin item budget entries
      else do
        only '\x7d'
        return entries

/-- Takes an array after its bracket. -/
def array (item : Reader Value) : Reader Value := do
  return .array (← itemsWithin item (← remaining))

/-- Takes a literal table after its brace. -/
def literalTable (item : Reader Value) : Reader Value :=
  (do spaces; only '\x7d'; return .table .literal []) <|>
    (do return .table .literal (← entriesWithin item (← remaining) []))

/-- Takes a value with at most some number of levels of arrays and tables. -/
def valueWithin : Nat → Reader Value
  | 0 => scalar
  | depth + 1 => do
    if ← maybe (only '[') then array (valueWithin depth)
    else if ← maybe (only '\x7b') then literalTable (valueWithin depth)
    else scalar
where
  /-- Takes a value without parts. -/
  scalar : Reader Value :=
    (do return .string (← anyString)) <|> number <|> boolean

/-- Takes a value. -/
def value : Reader Value := valueWithin depthLimit

/-! ## Statements -/

/-- What one line of a document does. -/
inductive Statement
  | blank
  /-- Opens a table. -/
  | header (key : String) (path : List String)
  /-- Opens one more table under a shared header. -/
  | item (key : String) (path : List String)
  | assignment (key : String) (path : List String) (value : Value)

/-- Takes a header after its brackets. -/
def headerRest (close : String) : Reader (String × List String) := do
  let key ← dottedKey
  word close
  lineRest
  return key

/-- Takes one statement with the end of its line. -/
def statement : Reader Statement := do
  match ← peek? with
  | some '#' => do
    comment
    lineEnd
    return .blank
  | some '[' => do
    only '['
    if ← maybe (only '[') then do
      let (key, path) ← headerRest "]]"
      return .item key path
    else do
      let (key, path) ← headerRest "]"
      return .header key path
  | some '\n' | some '\r' => do
    newline
    return .blank
  | _ => do
    let (key, path) ← dottedKey
    only '='
    spaces
    let v ← value
    lineRest
    return .assignment key path v

/-- Takes all statements, at most as many as a budget. -/
def statementsWithin : Nat → Reader (List Statement)
  | 0 => do
    finish
    return []
  | budget + 1 => do
    spaces
    if ← maybe finish then return []
    let first ← statement
    return first :: (← statementsWithin budget)

/-- The statements of a document, which may start with a byte order mark. -/
def statements? (text : List Char) : Option (List Statement) :=
  let body := match text with
    | '\ufeff' :: rest => rest
    | cs => cs
  (StateT.run (statementsWithin (body.length + 1)) body).map Prod.fst

/-! ## Documents -/

/-- A document and the path of the table that is open. -/
structure Document where
  entries : Entries := []
  opened : List String := []

/-- Carries out a statement. -/
def Document.step (d : Document) : Statement → Option Document
  | .blank => some d
  | .header key path => do
    return ⟨← d.entries.openTable key path, key :: path⟩
  | .item key path => do
    return ⟨← d.entries.openItem key path, key :: path⟩
  | .assignment key path v => do
    return { d with entries := ← d.entries.changeAt (Entries.assign v key path) d.opened }

/-- The entries of a document. -/
def parse? (text : String) : Option Entries := do
  let d ← (← statements? text.toList).foldlM Document.step {}
  return d.entries

end ComputeKernels.Toml
