import ComputeKernels.Text.Pattern.CharacterClass

/-!
# Patterns

A pattern describes texts: characters of given classes one after the other, alternatives,
repetitions, and places such as the two ends of the text.

A pattern is looked for from the front of a text to its end.  Of the ways in which it can be found,
those that are preferred come first: a way that begins earlier, an earlier alternative, and one more
repetition unless the repetition is reluctant.  A pattern fits a text if the preferred way ends with
the text.

Main results:

- Theorem `fits_textEnd`: the end is found in every text.
- Theorem `fits_empty`: the empty pattern is found at once, so it fits nothing but the empty text.
-/

namespace ComputeKernels.Text

/-! ## Places -/

/-- A place in a text, between two characters or at an end. -/
structure Place where
  before : Option Char
  after : Option Char

/-- What can be said about a place. -/
inductive Assertion
  | textStart
  | textEnd
  /-- The beginning of a line; carriage returns may be line ends too. -/
  | lineStart (returns : Bool)
  /-- The end of a line; carriage returns may be line ends too. -/
  | lineEnd (returns : Bool)
  /-- A place where a word of ASCII characters begins or ends. -/
  | wordEdge
  /-- A place where no word of ASCII characters begins or ends. -/
  | noWordEdge
  | wordStart
  | wordEnd
deriving DecidableEq

/-- Whether a character belongs to words of ASCII characters. -/
def isAsciiWordChar (c : Char) : Bool := c.isAlphanum || c == '_'

namespace Assertion

/-- Whether something can be said about a place.  No line begins or ends between a carriage return
and a line feed. -/
def holds (p : Place) : Assertion → Bool
  | textStart => p.before.isNone
  | textEnd => p.after.isNone
  | lineStart false => p.before.all (· == '\n')
  | lineStart true =>
    p.before.all (· == '\n') || (p.before == some '\r' && p.after != some '\n')
  | lineEnd false => p.after.all (· == '\n')
  | lineEnd true => p.after.all (· == '\r') || (p.after == some '\n' && p.before != some '\r')
  | wordEdge => p.before.any isAsciiWordChar != p.after.any isAsciiWordChar
  | noWordEdge => p.before.any isAsciiWordChar == p.after.any isAsciiWordChar
  | wordStart => !p.before.any isAsciiWordChar && p.after.any isAsciiWordChar
  | wordEnd => p.before.any isAsciiWordChar && !p.after.any isAsciiWordChar

end Assertion

/-! ## Patterns -/

/-- A description of texts. -/
inductive Pattern
  | empty
  | one (kind : CharacterClass)
  | place (a : Assertion)
  | sequence (a b : Pattern)
  | either (a b : Pattern)
  /-- At least once, and then as often as possible or as seldom as possible. -/
  | repeated (often : Bool) (a : Pattern)
  /-- Any number of further times after a repetition that took a character. -/
  | further (often : Bool) (a : Pattern)
  /-- A group, which is equal to no other one. -/
  | group (number : Nat) (a : Pattern)
deriving DecidableEq

namespace Pattern

/-- A pattern at most once. -/
def optional (often : Bool) (a : Pattern) : Pattern :=
  if often then either a empty else either empty a

/-- A pattern after any characters, as few as possible. -/
def search (a : Pattern) : Pattern := sequence (further false (one .everything)) a

/-! ## Fitting -/

/-- What a pattern can do next: be complete, or take a character and go on. -/
inductive Choice
  | done
  | take (kind : CharacterClass) (rest : Pattern)

namespace Choice

/-- Whether a pattern is complete. -/
def isDone : Choice → Bool
  | done => true
  | take .. => false

/-- How a pattern goes on after a character. -/
def after? (c : Char) : Choice → Option Pattern
  | done => none
  | take kind rest => if kind.holds c then some rest else none

/-- A choice that goes on with another pattern when it has taken a character. -/
def andThen (next : Pattern) : Choice → Choice
  | done => done
  | take kind rest => take kind (sequence rest next)

end Choice

/-- What a pattern can do at a place, the preferred choice first.  A repetition does not begin anew
before it has taken a character. -/
def choices (p : Place) : Pattern → List Choice
  | empty => [.done]
  | one kind => [.take kind empty]
  | place a => if a.holds p then [.done] else []
  | sequence a b => (choices p a).flatMap fun
    | .done => choices p b
    | .take kind rest => [.take kind (sequence rest b)]
  | either a b => choices p a ++ choices p b
  | repeated often a => (choices p a).map (·.andThen (further often a))
  | further often a =>
    let again := ((choices p a).filter (!·.isDone)).map (·.andThen (further often a))
    if often then again ++ [.done] else .done :: again
  | group _ a => choices p a

/-- Whether the preferred one of some ways ends with the end of the text, where the text goes on
after a character or begins.  A way that is complete rules out all ways after it. -/
def endsLast (before : Option Char) (ways : List Pattern) : List Char → Bool
  | [] => (ways.flatMap (choices ⟨before, none⟩)).any Choice.isDone
  | c :: cs =>
    let preferred := (ways.flatMap (choices ⟨before, some c⟩)).takeWhile (!·.isDone)
    endsLast (some c) (preferred.filterMap (Choice.after? c)).eraseDups cs

/-- Whether a pattern fits a text. -/
def fits (p : Pattern) (text : List Char) : Bool := endsLast none [p.search] text

/-! ## Laws -/

/-- Nothing ends with the text where there are no ways. -/
theorem endsLast_nil (before : Option Char) (text : List Char) :
    endsLast before [] text = false := by
  induction text generalizing before with
  | nil => rfl
  | cons c cs ih => exact ih (some c)

/-- The empty pattern is found at once, so it fits nothing but the empty text. -/
theorem fits_empty (text : List Char) : empty.fits text = text.isEmpty := by
  cases text with
  | nil => rfl
  | cons c cs => exact endsLast_nil (some c) cs

/-- The search for the end of a text goes on until it is found. -/
theorem endsLast_search_textEnd (before : Option Char) (text : List Char) :
    endsLast before [sequence (sequence empty (further false (one .everything))) (place .textEnd)] text
      = true := by
  induction text generalizing before with
  | nil => rfl
  | cons c cs ih => exact ih (some c)

/-- The end is found in every text. -/
theorem fits_textEnd (text : List Char) : (place .textEnd).fits text = true := by
  cases text with
  | nil => rfl
  | cons c cs => exact endsLast_search_textEnd (some c) cs

end Pattern

end ComputeKernels.Text
