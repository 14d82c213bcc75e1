import ComputeKernels.Text.Pattern.Settings

/-!
# Escapes

A backslash gives a meaning to a letter that stands for itself otherwise, and takes the meaning from
a mark.  With an escape a pattern names a character, a kind of characters, or a place.
-/

namespace ComputeKernels.Text

/-- What an escape stands for. -/
inductive Escape
  | character (c : Char)
  /-- The characters of a kind, or all others. -/
  | kind (k : Kind) (others : Bool)
  | place (a : Assertion)
deriving DecidableEq

namespace Escape

open Reader

/-! ## Characters -/

/-- Whether a character is an ASCII mark that a backslash can come before. -/
def isMark (c : Char) : Bool := c.toNat < 0x80 && !c.isAlphanum && c != '<' && c != '>'

/-- Value of a hexadecimal digit. -/
def digitValue? (c : Char) : Option Nat :=
  if c.isDigit then some (c.toNat - '0'.toNat)
  else if 'a' ≤ c.toLower && c.toLower ≤ 'f' then some (c.toLower.toNat - 'a'.toNat + 10)
  else none

/-- Takes a given number of hexadecimal digits after a value that is read already. -/
def digits (s : Settings) (value : Nat) : Nat → Reader Nat
  | 0 => return value
  | count + 1 => do
    s.space
    match digitValue? (← char fun _ => true) with
    | some d => digits s (16 * value + d) count
    | none => failure

/-- Takes the number of a character, with a given number of digits. -/
def numbered (s : Settings) (count : Nat) : Reader Char := do
  let n ← digits s 0 count
  if n.isValidChar then return Char.ofNat n else failure

/-! ## Escapes -/

/-- Takes the letter of a category. -/
def category (s : Settings) : Reader Kind := do
  s.space
  match Category.ofLetter? (← char fun _ => true) with
  | some c => return .category c
  | none => failure

/-- The edges of words, which are known for ASCII only. -/
def edge (s : Settings) (a : Assertion) : Reader Escape :=
  if s.allScripts then failure else return place a

/-- Takes an escape after its backslash.  A character that is given by two digits is one of ASCII
unless all scripts are known. -/
def afterBackslash (s : Settings) : Reader Escape := do
  match ← char fun _ => true with
  | 'a' => return character '\x07'
  | 't' => return character '\t'
  | 'n' => return character '\n'
  | 'v' => return character '\x0b'
  | 'f' => return character '\x0c'
  | 'r' => return character '\r'
  | 'x' => do
    let c ← numbered s 2
    if s.allScripts || c.toNat < 0x80 then return character c else failure
  | 'u' => return character (← numbered s 4)
  | 'U' => return character (← numbered s 8)
  | 'd' => return kind .digit false
  | 'D' => return kind .digit true
  | 's' => return kind .blank false
  | 'S' => return kind .blank true
  | 'w' => return kind .word false
  | 'W' => return kind .word true
  | 'p' => return kind (← category s) false
  | 'P' => return kind (← category s) true
  | 'A' => return place .textStart
  | 'z' => return place .textEnd
  | 'b' => edge s .wordEdge
  | 'B' => edge s .noWordEdge
  | '<' => edge s .wordStart
  | '>' => edge s .wordEnd
  | c => if isMark c then return character c else failure

end Escape

end ComputeKernels.Text
