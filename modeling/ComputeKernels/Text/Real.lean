import ComputeKernels.Text.Reader

/-!
# Real numerals

Numerals with an optional sign, fraction and exponent, where the digits before or after the point
may be missing but not both.  The infinities and the value that is not a number have names.
-/

namespace ComputeKernels.Text

open Reader

/-- Takes a sign. -/
def sign : Reader Unit := only '+' <|> only '-'

/-- Takes an exponent. -/
def exponent : Reader Unit := do
  only 'e' <|> only 'E'
  discard <| maybe sign
  if (← run Char.isDigit).isEmpty then failure

/-- Takes the digits of a numeral, with a point among them or not. -/
def mantissa : Reader Unit := do
  let whole ← run Char.isDigit
  let fraction ← if ← maybe (only '.') then run Char.isDigit else pure []
  if whole.isEmpty && fraction.isEmpty then failure

/-- Takes a numeral that has digits. -/
def digitNumeral : Reader Unit := do
  discard <| maybe sign
  mantissa
  unless ← maybe finish do
    exponent
    finish

/-- Takes the name of a value that has no digits, in lower case. -/
def namedReal : Reader Unit := do
  discard <| maybe sign
  word "infinity" <|> word "inf" <|> word "nan"
  finish

/-- Whether a text is a real numeral. -/
def isReal (cs : List Char) : Bool :=
  (digitNumeral cs).isSome || (namedReal (cs.map Char.toLower)).isSome

end ComputeKernels.Text
