/-!
# Readers

A reader takes characters from the front of a text, or fails.  A choice between two readers starts
the second one where the first one started.
-/

namespace ComputeKernels.Text

/-- Takes characters from the front of a text, or fails. -/
abbrev Reader := StateT (List Char) Option

namespace Reader

/-- Takes a character of a kind. -/
def char (kind : Char → Bool) : Reader Char := fun cs =>
  match cs with
  | c :: rest => if kind c then some (c, rest) else none
  | [] => none

/-- Takes a given character. -/
def only (c : Char) : Reader Unit := do
  discard <| char (· == c)

/-- Drops the first of two texts from the front of the second. -/
def dropFront? : List Char → List Char → Option (List Char)
  | [], rest => some rest
  | c :: cs, d :: rest => if c = d then dropFront? cs rest else none
  | _ :: _, [] => none

/-- Takes a given text. -/
def word (s : String) : Reader Unit := fun cs =>
  (dropFront? s.toList cs).map ((), ·)

/-- Takes all characters of a kind that come next. -/
def run (kind : Char → Bool) : Reader (List Char) := fun cs =>
  some (cs.takeWhile kind, cs.dropWhile kind)

/-- Runs a reader if it succeeds; says whether it did. -/
def maybe (r : Reader Unit) : Reader Bool := (do r; return true) <|> pure false

/-- Whether some characters are left, with the first one not taken. -/
def peek? : Reader (Option Char) := fun cs => some (cs.head?, cs)

/-- Succeeds at the end of the text. -/
def finish : Reader Unit := fun cs => if cs.isEmpty then some ((), cs) else none

/-- Number of characters that are left. -/
def remaining : Reader Nat := fun cs => some (cs.length, cs)

end Reader

end ComputeKernels.Text
