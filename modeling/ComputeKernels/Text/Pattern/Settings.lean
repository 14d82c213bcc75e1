import ComputeKernels.Text.Pattern.Basic
import ComputeKernels.Text.Reader

/-!
# Settings of patterns

Settings change what the parts of a written pattern mean.  They are written as letters; those after a
minus sign are turned off.

Main results:

- Theorem `Settings.holds_folded`: a class keeps its characters under all settings.
-/

namespace ComputeKernels.Text

/-- What the parts of a written pattern mean. -/
structure Settings where
  /-- Letters of either case are equal. -/
  caseless : Bool := false
  /-- The beginning and the end of each line are found, not only those of the text. -/
  lines : Bool := false
  /-- A point stands for line ends too. -/
  wholeText : Bool := false
  /-- Carriage returns are line ends too. -/
  returns : Bool := false
  /-- Repetitions are reluctant, and those that are marked are not. -/
  reluctant : Bool := false
  /-- Characters of all scripts are known, not only those of ASCII. -/
  allScripts : Bool := true
  /-- Blanks and comments are skipped. -/
  spaced : Bool := false
deriving DecidableEq

namespace Settings

/-! ## Letters -/

/-- Changes the setting that has a letter. -/
def set? (s : Settings) (letter : Char) (value : Bool) : Option Settings :=
  match letter with
  | 'i' => some { s with caseless := value }
  | 'm' => some { s with lines := value }
  | 's' => some { s with wholeText := value }
  | 'R' => some { s with returns := value }
  | 'U' => some { s with reluctant := value }
  | 'u' => some { s with allScripts := value }
  | 'x' => some { s with spaced := value }
  | _ => none

/-- Turns settings on, or off. -/
def setEach? (value : Bool) : List Char → Settings → Option Settings
  | [], s => some s
  | letter :: rest, s => (s.set? letter value).bind (setEach? value rest)

/-- Changes settings by their letters, of which each stands once; some follow a minus sign if there
is one. -/
def update? (letters : List Char) (s : Settings) : Option Settings :=
  let on := letters.takeWhile (· != '-')
  let off := (letters.dropWhile (· != '-')).drop 1
  if letters.eraseDups != letters || letters.getLast? == some '-' then none
  else (setEach? true on s).bind (setEach? false off)

/-! ## Meanings -/

/-- A class of characters, with their variants if letters of either case are equal. -/
def folded (s : Settings) (a : CharacterClass) : CharacterClass :=
  if s.caseless then .caseless (if s.allScripts then .general else .ascii) a else a

/-- A class keeps its characters under all settings. -/
theorem holds_folded (s : Settings) {a : CharacterClass} {c : Char} (h : a.holds c = true) :
    (s.folded a).holds c = true := by
  unfold folded
  split
  · exact CharacterClass.holds_caseless _ h
  · exact h

/-- The complement of a class, which has characters beyond ASCII. -/
def complement? (s : Settings) (a : CharacterClass) : Option CharacterClass :=
  if s.allScripts then some (.complement a) else none

/-- The characters that a point stands for. -/
def point? (s : Settings) : Option CharacterClass :=
  if s.wholeText then s.complement? .nothing
  else if s.returns then s.complement? (.ranges [('\r', '\r'), ('\n', '\n')])
  else s.complement? (.single '\n')

/-- Where a circumflex finds a beginning. -/
def start (s : Settings) : Assertion := if s.lines then .lineStart s.returns else .textStart

/-- Where a dollar sign finds an end. -/
def stop (s : Settings) : Assertion := if s.lines then .lineEnd s.returns else .textEnd

/-- The characters of a kind, or all others.  Categories are not known without all scripts; of the
other kinds, the characters of ASCII are. -/
def kind? (s : Settings) (k : Kind) (others : Bool) : Option CharacterClass :=
  let known : Option CharacterClass :=
    match k with
    | .category _ => if s.allScripts then some (s.folded (.kind k)) else none
    | .digit => if s.allScripts then some (.kind k) else some (.ranges [('0', '9')])
    | .blank => if s.allScripts then some (.kind k) else some (.ranges [('\t', '\r'), (' ', ' ')])
    | .word =>
      if s.allScripts then some (.kind k)
      else some (.ranges [('0', '9'), ('A', 'Z'), ('_', '_'), ('a', 'z')])
  known.bind fun a => if others then s.complement? a else some a

/-! ## Blanks -/

/-- Text without the blanks and comments in front of it, where a comment may have begun. -/
def dropSpace (inComment : Bool) : List Char → List Char
  | [] => []
  | c :: cs =>
    if inComment then dropSpace (c != '\n') cs
    else if c == '#' then dropSpace true cs
    else if isBlank c then dropSpace false cs
    else c :: cs

/-- Takes the blanks and comments that are skipped. -/
def space (s : Settings) : Reader Unit := fun cs =>
  some ((), if s.spaced then dropSpace false cs else cs)

end Settings

end ComputeKernels.Text
