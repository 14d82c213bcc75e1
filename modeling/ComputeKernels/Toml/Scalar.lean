import ComputeKernels.Toml.Value
import ComputeKernels.Toml.Text

/-!
# Numbers and points in time of TOML

Integers have 64 bits.  A number with a fraction or an exponent must not be too large for double
precision, and points in time must exist in the calendar; neither is evaluated any further.
-/

namespace ComputeKernels.Toml

open Text (Reader)
open Text.Reader

/-! ## Digits -/

/-- Digits after a first one, with single underscores between them. -/
def moreDigits (kind : Char → Bool) : List Char → Option (List Char × List Char)
  | '_' :: c :: rest =>
    if kind c then (moreDigits kind rest).map fun (ds, r) => (c :: ds, r) else none
  | c :: rest =>
    if kind c then (moreDigits kind rest).map fun (ds, r) => (c :: ds, r)
    else if c = '_' then none
    else some ([], c :: rest)
  | [] => some ([], [])

/-- Takes one or more digits, with single underscores between them. -/
def digitRun (kind : Char → Bool) : Reader (List Char) := do
  let first ← char kind
  let more ← (moreDigits kind : List Char → Option (List Char × List Char))
  return first :: more

/-- Takes a decimal number without leading zeros. -/
def decimalRun : Reader (List Char) :=
  (do only '0'; return ['0']) <|> digitRun Char.isDigit

/-- Takes a sign; says whether it is a minus. -/
def sign : Reader Bool := (do only '-'; return true) <|> (do discard <| maybe (only '+'); return false)

/-- Value of digits in a base. -/
def valueIn (base : Nat) (ds : List Char) : Nat :=
  ds.foldl (fun n c => base * n + (hexValue? c).getD 0) 0

/-! ## Integers -/

/-- Integers have 64 bits. -/
def fitsInteger (n : Int) : Bool := Int64.minValue.toInt ≤ n && n ≤ Int64.maxValue.toInt

/-- Takes digits of a base after the mark of the base. -/
def basedInteger (mark : String) (base : Nat) (kind : Char → Bool) : Reader Int := do
  word mark
  return valueIn base (← digitRun kind)

/-- Takes a decimal integer. -/
def decimalInteger : Reader Int := do
  let negative ← sign
  let n := valueIn 10 (← decimalRun)
  return if negative then -n else n

/-- Whether a hexadecimal digit is below a base. -/
def isDigitOf (base : Nat) (c : Char) : Bool := (hexValue? c).any (decide <| · < base)

/-- Takes an integer. -/
def integer : Reader Value := do
  let n ← basedInteger "0x" 16 (isDigitOf 16) <|> basedInteger "0o" 8 (isDigitOf 8) <|>
    basedInteger "0b" 2 (isDigitOf 2) <|> decimalInteger
  if fitsInteger n then return .integer n else failure

/-! ## Numbers with a fraction -/

/-- Least number that is rounded to infinity in double precision. -/
def doubleOverflow : Nat := Nat.pow 2 1024 - Nat.pow 2 970

/-- Decimal digits of the overflow limit. -/
def overflowDigits : Nat := 309

/-- Whether a number of decimal digits, times a power of ten, is rounded to infinity. -/
def overflows (digits : List Char) (exponent : Int) : Bool :=
  let significant := digits.dropWhile (· == '0')
  let size := significant.length + exponent
  if significant.isEmpty || size < overflowDigits then false
  else if overflowDigits < size then true
  else
    doubleOverflow * Nat.pow 10 (-exponent).toNat ≤
      valueIn 10 significant * Nat.pow 10 exponent.toNat

/-- Takes an exponent. -/
def exponentPart : Reader Int := do
  discard <| char fun c => c == 'e' || c == 'E'
  let negative ← sign
  let n := valueIn 10 (← digitRun Char.isDigit)
  return if negative then -n else n

/-- Takes the digits of a fraction. -/
def fractionPart : Reader (List Char) := do
  only '.'
  digitRun Char.isDigit

/-- Takes a number with a fraction or an exponent. -/
def finiteFloat : Reader Value := do
  let negative ← sign
  let whole ← decimalRun
  let (fraction, exponent) ←
    (do return ([], ← exponentPart)) <|>
      (do
        let fraction ← fractionPart
        return (fraction, ← exponentPart <|> pure 0))
  if !negative && overflows (whole ++ fraction) (exponent - fraction.length) then failure
  else return .float

/-- Takes an infinity, or the value that is not a number. -/
def specialFloat : Reader Value := do
  discard sign
  word "inf" <|> word "nan"
  return .float

/-! ## Points in time -/

/-- Takes a given number of decimal digits after a value read so far. -/
def digitsAfter (value : Nat) : Nat → Reader Nat
  | 0 => pure value
  | count + 1 => do
    let c ← char Char.isDigit
    digitsAfter (10 * value + (c.toNat - '0'.toNat)) count

/-- Takes a given number of decimal digits with a value in a range. -/
def digitsBetween (count least most : Nat) : Reader Nat := do
  let n ← digitsAfter 0 count
  if least ≤ n ∧ n ≤ most then return n else failure

/-- Whether a year has a leap day. -/
def isLeap (year : Nat) : Bool := year % 4 == 0 && (year % 100 != 0 || year % 400 == 0)

/-- Days of a month. -/
def daysOf (year month : Nat) : Nat :=
  if month = 2 then (if isLeap year then 29 else 28)
  else if [4, 6, 9, 11].contains month then 30
  else 31

/-- Takes a day of the calendar. -/
def date : Reader Unit := do
  let year ← digitsBetween 4 0 9999
  only '-'
  let month ← digitsBetween 2 1 12
  only '-'
  discard <| digitsBetween 2 1 (daysOf year month)

/-- Takes a time of day; a minute may have a leap second. -/
def time : Reader Unit := do
  discard <| digitsBetween 2 0 23
  only ':'
  discard <| digitsBetween 2 0 59
  only ':'
  discard <| digitsBetween 2 0 60
  discard <| maybe do
    only '.'
    discard <| char Char.isDigit
    discard <| run Char.isDigit

/-- Takes a distance from universal time. -/
def offset : Reader Unit :=
  (do discard <| char fun c => c == 'Z' || c == 'z') <|>
    (do
      discard <| char fun c => c == '+' || c == '-'
      discard <| digitsBetween 2 0 23
      only ':'
      discard <| digitsBetween 2 0 59)

/-- Takes a day, a time of day, or both. -/
def dateTime : Reader Value :=
  (do
    date
    discard <| maybe do
      discard <| char fun c => c == 'T' || c == 't' || c == ' '
      time
      discard <| maybe offset
    return .dateTime) <|>
    (do time; return .dateTime)

/-- Takes a number or a point in time. -/
def number : Reader Value := dateTime <|> finiteFloat <|> specialFloat <|> integer

/-- Takes a truth value. -/
def boolean : Reader Value :=
  (do word "true"; return .boolean true) <|> (do word "false"; return .boolean false)

end ComputeKernels.Toml
