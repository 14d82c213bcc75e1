import ComputeKernels.Text.Pattern.Alternatives
import ComputeKernels.Text.Pattern.Bracket

/-!
# Written patterns

Most characters stand for themselves.  A point stands for any character, brackets hold a class,
parentheses a group, a bar separates alternatives, and `*`, `+` and `?` repeat what comes before
them, reluctantly if another `?` follows.  Settings that are changed within a group are in force up
to its end.  Braces are not part of the notation.
-/

namespace ComputeKernels.Text.Pattern

open Reader

/-! ## Single items -/

/-- Takes a character, a class, or a place. -/
def single (s : Settings) : Reader Pattern := do
  if (← peek?) = some '[' then return one (← CharacterClass.bracketed s (← remaining))
  match ← char (· ∉ ['(', ')', '*', '+', '?', '\x7b', '|']) with
  | '.' => one <$> StateT.lift s.point?
  | '^' => return place s.start
  | '$' => return place s.stop
  | '\\' =>
    match ← Escape.afterBackslash s with
    | .character c => return one (s.folded (.single c))
    | .kind k others => one <$> StateT.lift (s.kind? k others)
    | .place a => return place a
  | c => return one (s.folded (.single c))

/-- Takes the repetitions of a pattern, at most as many as a budget. -/
def repetitions (s : Settings) (p : Pattern) : Nat → Reader Pattern
  | 0 => return p
  | budget + 1 => do
    s.space
    match ← peek? with
    | some '*' => do
      let often ← isEager
      repetitions s (optional often (repeated often p)) budget
    | some '+' => do repetitions s (repeated (← isEager) p) budget
    | some '?' => do repetitions s (optional (← isEager) p) budget
    | _ => return p
where
  /-- Takes a mark of repetition; says whether more is preferred. -/
  isEager : Reader Bool := do
    discard <| char fun _ => true
    return (← maybe (only '?')) == s.reluctant

/-! ## Groups -/

/-- What is in force at some place in a written pattern. -/
structure Scope where
  settings : Settings := {}
  /-- Number of the groups so far. -/
  groups : Nat := 0
  /-- Names of the groups so far. -/
  names : List (List Char) := []

/-- Whether a character can be part of the name of a group, or begin it. -/
def isNameChar (first : Bool) (c : Char) : Bool :=
  c == '_' || if first then isAlphabetic c else c ∈ ['.', '[', ']'] || isAlphanumeric c

/-- Takes the name of a group, which no group has so far. -/
def groupName (scope : Scope) : Reader Scope := do
  let first ← char (isNameChar true)
  let name := first :: (← run (isNameChar false))
  only '>'
  if name ∈ scope.names then failure else return { scope with names := name :: scope.names }

/-- What the beginning of a group is. -/
inductive Opening
  /-- A group follows. -/
  | group (inner : Scope)
  /-- Items that only belong together follow. -/
  | bundle (inner : Scope)
  /-- The settings are changed, and nothing belongs together. -/
  | change (scope : Scope)

/-- Takes the beginning of a group. -/
def opening (scope : Scope) : Reader Opening := do
  only '('
  scope.settings.space
  if ← maybe (word "?P<") then return .group (← groupName scope)
  if ← maybe (word "?<") then return .group (← groupName scope)
  if ← maybe (only '?') then
    let letters ← run fun c => c != ':' && c != ')'
    let some settings := scope.settings.update? letters | failure
    if ← maybe (only ':') then return .bundle { scope with settings }
    only ')'
    if letters.isEmpty then failure else return .change { scope with settings }
  return .group scope

mutual

/-- Takes items one after the other, nested no deeper than a budget. -/
def items (scope : Scope) : Nat → Reader (Pattern × Scope)
  | 0 => failure
  | budget + 1 => do
    scope.settings.space
    match ← peek? with
    | none | some '|' | some ')' => return (empty, scope)
    | some '(' =>
      match ← opening scope with
      | .change scope => items scope budget
      | .bundle inner => do
        let (ps, inner) ← alternatives inner budget
        only ')'
        following (anyOf ps) { inner with settings := scope.settings } budget
      | .group inner => do
        let (ps, inner) ← alternatives { inner with groups := inner.groups + 1 } budget
        only ')'
        following (group scope.groups (anyOf ps)) { inner with settings := scope.settings } budget
    | some _ => do following (← single scope.settings) scope budget

/-- Takes what follows an item: its repetitions, and more items. -/
def following (p : Pattern) (scope : Scope) : Nat → Reader (Pattern × Scope)
  | 0 => failure
  | budget + 1 => do
    let p ← repetitions scope.settings p (← remaining)
    let (q, scope) ← items scope budget
    return (sequence p q, scope)

/-- Takes alternatives. -/
def alternatives (scope : Scope) : Nat → Reader (List Pattern × Scope)
  | 0 => failure
  | budget + 1 => do
    let (p, scope) ← items scope budget
    if ← maybe (only '|') then
      let (ps, scope) ← alternatives scope budget
      return (p :: ps, scope)
    else return ([p], scope)

end

/-- Reads a pattern. -/
def ofText? (cs : List Char) : Option Pattern :=
  let whole : Reader Pattern := do
    let (ps, _) ← alternatives {} (3 * cs.length + 3)
    finish
    return anyOf ps
  (whole cs).map Prod.fst

end ComputeKernels.Text.Pattern
