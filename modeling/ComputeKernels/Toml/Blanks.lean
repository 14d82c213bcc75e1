import ComputeKernels.Text.Reader

/-!
# Blanks, comments and line ends of TOML

What stands between the statements of a document and between the parts of a statement.
-/

namespace ComputeKernels.Toml

open Text (Reader)
open Text.Reader

/-- Blanks within a line. -/
def isSpace (c : Char) : Bool := c == ' ' || c == '\t'

/-- Characters beyond ASCII. -/
def isWide (c : Char) : Bool := 0x80 ≤ c.toNat

/-- Characters that text may hold as they are: all but controls, with the tabulator allowed. -/
def isPlain (c : Char) : Bool :=
  c == '\t' || (0x20 ≤ c.toNat && c.toNat ≤ 0x7e) || isWide c

/-- Takes the blanks that come next. -/
def spaces : Reader Unit := do
  discard <| run isSpace

/-- Takes a line end. -/
def newline : Reader Unit := only '\n' <|> word "\r\n"

/-- Takes a comment up to the end of its line. -/
def comment : Reader Unit := do
  only '#'
  discard <| run isPlain

/-- Takes a line end or the end of the text. -/
def lineEnd : Reader Unit := newline <|> finish

/-- Takes what may follow a statement on its line. -/
def lineRest : Reader Unit := do
  spaces
  discard <| maybe comment
  lineEnd

/-- Takes blanks, comments and line ends, at most as many as a budget. -/
def gapWithin : Nat → Reader Unit
  | 0 => pure ()
  | budget + 1 => do
    spaces
    if ← maybe (comment <|> newline) then gapWithin budget

/-- Takes all blanks, comments and line ends that come next. -/
def gap : Reader Unit := do
  gapWithin (← remaining)

end ComputeKernels.Toml
