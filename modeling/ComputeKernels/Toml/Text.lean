import ComputeKernels.Toml.Blanks

/-!
# Strings and keys of TOML

Strings come in two kinds, with escapes between double quotes and without between single quotes, and
each kind also in a form that spans lines.
-/

namespace ComputeKernels.Toml

open Text (Reader)
open Text.Reader

/-! ## Escapes -/

/-- Value of a hexadecimal digit. -/
def hexValue? (c : Char) : Option Nat :=
  if c.isDigit then some (c.toNat - '0'.toNat)
  else if 'a' ≤ c ∧ c ≤ 'f' then some (c.toNat - 'a'.toNat + 10)
  else if 'A' ≤ c ∧ c ≤ 'F' then some (c.toNat - 'A'.toNat + 10)
  else none

/-- Value of a number of hexadecimal digits after a value read so far. -/
def hexAfter (value : Nat) : Nat → Reader Nat
  | 0 => pure value
  | count + 1 => do
    let c ← char fun _ => true
    match hexValue? c with
    | some d => hexAfter (16 * value + d) count
    | none => failure

/-- The character of a code point of some number of digits. -/
def codePoint (count : Nat) : Reader Char := do
  let n ← hexAfter 0 count
  if n.isValidChar then return Char.ofNat n else failure

/-- The character that an escape stands for, after its backslash. -/
def escaped : Reader Char := do
  match ← char fun _ => true with
  | 'b' => return '\x08'
  | 't' => return '\t'
  | 'n' => return '\n'
  | 'f' => return '\x0c'
  | 'r' => return '\r'
  | '"' => return '"'
  | '\\' => return '\\'
  | 'u' => codePoint 4
  | 'U' => codePoint 8
  | _ => failure

/-- Takes a line end inside a string, which is always one character. -/
def newlineInText : Reader Char := do
  newline
  return '\n'

/-- Takes a backslash at the end of a line, with all blanks and line ends after it. -/
def continuation (budget : Nat) : Reader Unit := do
  only '\\'
  spaces
  newline
  blankLines budget
where
  /-- Takes blanks and line ends. -/
  blankLines : Nat → Reader Unit
    | 0 => pure ()
    | budget + 1 => do
      spaces
      if ← maybe newline then blankLines budget

/-! ## Strings on one line -/

/-- Takes the rest of a string between double quotes, at most as many characters as a budget. -/
def basicRest : Nat → Reader (List Char)
  | 0 => failure
  | budget + 1 => do
    match ← char isPlain with
    | '"' => return []
    | '\\' => do
      let c ← escaped
      return c :: (← basicRest budget)
    | c => return c :: (← basicRest budget)

/-- Takes a string between double quotes. -/
def basicString : Reader String := do
  only '"'
  return String.ofList (← basicRest (← remaining))

/-- Takes a string between single quotes. -/
def literalString : Reader String := do
  only '\''
  let cs ← run fun c => isPlain c && c != '\''
  only '\''
  return String.ofList cs

/-! ## Strings over several lines -/

/-- What a run of quotes inside a string over several lines means: one or two stand for themselves,
three close the string, and up to two more before these belong to it. -/
def closing? (count : Nat) : Option Nat :=
  if 3 ≤ count ∧ count ≤ 5 then some (count - 3) else none

/-- Takes the rest of a string over several lines that three quotes close. -/
def linesRest (quote : Char) (hasEscapes : Bool) : Nat → Reader (List Char)
  | 0 => failure
  | budget + 1 => do
    let quotes ← run (· == quote)
    match closing? quotes.length with
    | some kept => return List.replicate kept quote
    | none =>
      if 5 < quotes.length then failure
      else do
        let c ← item budget
        return quotes ++ c ++ (← linesRest quote hasEscapes budget)
where
  /-- Takes what stands for at most one character. -/
  item (budget : Nat) : Reader (List Char) :=
    (do return [← newlineInText]) <|>
      if hasEscapes then
        (do continuation budget; return []) <|> (do only '\\'; return [← escaped]) <|>
          (do return [← char fun c => isPlain c && c != '\\'])
      else do
        return [← char isPlain]

/-- Takes a string over several lines; a line end right after the opening quotes is left out. -/
def linesString (quote : Char) (hasEscapes : Bool) : Reader String := do
  only quote
  only quote
  only quote
  discard <| maybe newline
  return String.ofList (← linesRest quote hasEscapes (← remaining))

/-- Takes a string of any form. -/
def anyString : Reader String := do
  match ← peek? with
  | some '"' => linesString '"' true <|> basicString
  | some '\'' => linesString '\'' false <|> literalString
  | _ => failure

/-! ## Keys -/

/-- Characters of a key without quotes. -/
def isBare (c : Char) : Bool := c.isAlphanum || c == '-' || c == '_'

/-- Takes one part of a key. -/
def simpleKey : Reader String := do
  match ← peek? with
  | some '"' => basicString
  | some '\'' => literalString
  | _ => do
    let cs ← run isBare
    if cs.isEmpty then failure else return String.ofList cs

/-- Takes the parts of a dotted key, at most as many as a budget. -/
def keyWithin : Nat → Reader (String × List String)
  | 0 => failure
  | budget + 1 => do
    spaces
    let first ← simpleKey
    spaces
    if ← maybe (only '.') then do
      let (next, rest) ← keyWithin budget
      return (first, next :: rest)
    else return (first, [])

/-- Nesting of values and of keys stays below this. -/
def depthLimit : Nat := 79

/-- Takes a dotted key: its first part and the others. -/
def dottedKey : Reader (String × List String) := keyWithin depthLimit

end ComputeKernels.Toml
