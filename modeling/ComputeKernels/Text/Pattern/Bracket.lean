import ComputeKernels.Text.Pattern.Escape

/-!
# Bracketed classes

Brackets hold characters, ranges, kinds of characters, and bracketed classes; a circumflex in front
takes the complement.  Two ampersands, minus signs or tildes combine what stands before them with
what stands after them.
-/

namespace ComputeKernels.Text.CharacterClass

open Reader

/-! ## Named classes of ASCII -/

/-- Class of ASCII characters with a given name. -/
def named? (name : List Char) : Option CharacterClass :=
  match String.ofList name with
  | "alnum" => some (ranges [('0', '9'), ('A', 'Z'), ('a', 'z')])
  | "alpha" => some (ranges [('A', 'Z'), ('a', 'z')])
  | "ascii" => some (ranges [('\x00', '\x7f')])
  | "blank" => some (ranges [('\t', '\t'), (' ', ' ')])
  | "cntrl" => some (ranges [('\x00', '\x1f'), ('\x7f', '\x7f')])
  | "digit" => some (ranges [('0', '9')])
  | "graph" => some (ranges [('!', '~')])
  | "lower" => some (ranges [('a', 'z')])
  | "print" => some (ranges [(' ', '~')])
  | "punct" => some (ranges [('!', '/'), (':', '@'), ('[', '\x60'), ('\x7b', '~')])
  | "space" => some (ranges [('\t', '\r'), (' ', ' ')])
  | "upper" => some (ranges [('A', 'Z')])
  | "word" => some (ranges [('0', '9'), ('A', 'Z'), ('_', '_'), ('a', 'z')])
  | "xdigit" => some (ranges [('0', '9'), ('A', 'F'), ('a', 'f')])
  | _ => none

/-- Takes the name of a class, between colons in brackets; a circumflex asks for the complement. -/
def name : Reader (CharacterClass × Bool) := do
  word "[:"
  let others ← maybe (only '^')
  let text ← run (· != ':')
  word ":]"
  match named? text with
  | some a => return (a, others)
  | none => failure

/-! ## Parts of a class -/

/-- The complement of a class, if it is asked for. -/
def complementIf (s : Settings) (others : Bool) (a : CharacterClass) : Reader CharacterClass :=
  if others then StateT.lift (s.complement? a) else return a

/-- Takes a character or a kind of characters. -/
def atom (s : Settings) : Reader Escape := do
  match ← char fun _ => true with
  | '\\' => Escape.afterBackslash s
  | c => return .character c

/-- The character that stands in a class, which is one of ASCII unless all scripts are known. -/
def member (s : Settings) : Escape → Reader Char
  | .character c => if s.allScripts || c.toNat < 0x80 then return c else failure
  | _ => failure

/-- Takes the mark of a range, which is neither the last character of a class nor the first of two
minus signs. -/
def rangeMark (s : Settings) : Reader Unit := do
  only '-'
  s.space
  match ← peek? with
  | some ']' | some '-' => failure
  | _ => return ()

/-- Takes a character, a range, or a kind of characters. -/
def part (s : Settings) : Reader CharacterClass := do
  let first ← atom s
  s.space
  if ← maybe (rangeMark s) then
    let last ← member s (← atom s)
    let first ← member s first
    if first ≤ last then return ranges [(first, last)] else failure
  else
    match first with
    | .kind k others => StateT.lift (s.kind? k others)
    | e => return .single (← member s e)

/-- Takes the mark of an operation on two classes, if there is one. -/
def operation? : Reader (Option SetOperation) := do
  if ← maybe (word "&&") then return some .intersection
  if ← maybe (word "--") then return some .difference
  if ← maybe (word "~~") then return some .symmetricDifference
  return none

/-- Takes the minus signs in front of a class, at most as many as a budget; says whether there is
one. -/
def minusSigns (s : Settings) : Nat → Reader Bool
  | 0 => return false
  | budget + 1 => do
    if ← maybe (only '-') then
      s.space
      discard <| minusSigns s budget
      return true
    else return false

/-- A class after an operation that is waiting for it, with all variants if letters of either case
are equal. -/
def combineWith (s : Settings) (waiting : Option (SetOperation × CharacterClass))
    (a : CharacterClass) : CharacterClass :=
  match waiting with
  | some (op, b) => combine op (s.folded b) (s.folded a)
  | none => a

/-! ## Classes -/

mutual

/-- Takes a class, nested no deeper than a budget.  A bracket that comes first is one of the
characters. -/
def bracketed (s : Settings) : Nat → Reader CharacterClass
  | 0 => failure
  | budget + 1 => do
    only '['
    s.space
    let others ← maybe (only '^')
    s.space
    let first ←
      if ← minusSigns s (← remaining) then pure (single '-')
      else if ← maybe (only ']') then pure (single ']')
      else pure nothing
    let a ← rest s none first budget
    complementIf s others (s.folded a)

/-- Takes the rest of a class up to its bracket. -/
def rest (s : Settings) (waiting : Option (SetOperation × CharacterClass)) (a : CharacterClass) :
    Nat → Reader CharacterClass
  | 0 => failure
  | budget + 1 => do
    s.space
    if ← maybe (only ']') then return combineWith s waiting a
    if let some op ← operation? then
      rest s (some (op, combineWith s waiting a)) nothing budget
    else if (← peek?) = some '[' then
      match ← (some <$> name) <|> pure none with
      | some (b, others) => do
        let b ← complementIf s others (s.folded b)
        rest s waiting (a.union b) budget
      | none => do
        let b ← bracketed s budget
        rest s waiting (a.union b) budget
    else do
      let b ← part s
      rest s waiting (a.union b) budget

end

end ComputeKernels.Text.CharacterClass
