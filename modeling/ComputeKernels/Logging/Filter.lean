import ComputeKernels.Logging.Directive

/-!
# Filters

A filter is a list of directives.  Those that name no phase and ask for no value decide by target:
the one with the longest text that begins the target prevails, and what no directive covers does not
pass.  Directives that name a phase or a field single out phases: within such a phase everything
passes down to the limit of the directive, and the phase itself passes in order that this can be
known.

Main results:

- Theorem `Filter.passes_of_rank_le`: if something passes, so does what is more important and the
  same otherwise.
- Theorem `Filter.passes_of_passes`: what passes elsewhere passes within a phase that is singled out.
-/

namespace ComputeKernels.Logging

/-- What a filter decides about: a message, or a phase of work. -/
structure Subject where
  target : String
  level : Level
  /-- Name of a phase, or none for a message. -/
  phase : Option String := none
  fields : Fields := []

namespace Directive

/-! ## Deciding by target -/

/-- Whether a directive covers the target of a subject. -/
def coversTarget (d : Directive) (s : Subject) : Bool :=
  d.target.all (·.isPrefixOf s.target.toList)

/-- Whether a directive decides by target, perhaps only about messages with a field. -/
def isGeneral (d : Directive) : Bool :=
  d.phase.isNone && d.field.all (·.value.isNone)

/-- Whether a directive covers a subject by target; phases need not have the field. -/
def covers (d : Directive) (s : Subject) : Bool :=
  d.isGeneral && d.coversTarget s && (s.phase.isSome || d.field.all (·.isDeclared s.fields))

/-- Length of the text that a directive asks for; a directive for all targets comes below all. -/
def specificity (d : Directive) : Nat :=
  match d.target with
  | none => 0
  | some start => start.length + 1

/-- Whether a directive is more specific than another: by its target, or else by its field. -/
def outranks (a b : Directive) : Bool :=
  b.specificity < a.specificity ||
    (b.specificity == a.specificity &&
      match a.field, b.field with
      | some s, some t => decide (t.name < s.name)
      | some _, none => true
      | none, _ => false)

/-- Of two directives the one that decides: the more specific one, or else the second. -/
def prevailing (a b : Directive) : Directive := if a.outranks b then a else b

/-! ## Singling out phases -/

/-- Whether a directive is about phases. -/
def isParticular (d : Directive) : Bool := d.phase.isSome || d.field.isSome

/-- Whether a directive singles out a phase, whatever the values of its fields are. -/
def singlesOut (d : Directive) (s : Subject) : Bool :=
  d.isParticular && s.phase.isSome && d.coversTarget s &&
    d.phase.all (some · == s.phase) && d.field.all (·.isDeclared s.fields)

/-- Whether two directives are about the same. -/
def sameScope (a b : Directive) : Bool :=
  a.target == b.target && a.phase == b.phase && a.field == b.field

end Directive

/-! ## Filters -/

/-- Directives in the order in which they were given. -/
abbrev Filter := List Directive

namespace Filter

/-- Reads directives one after the other. -/
def ofParts : List (List Char) → Except FilterError Filter
  | [] => .ok []
  | text :: rest => do
    let d ← Directive.ofText text
    return d :: (← ofParts rest)

/-- Reads a filter: directives between commas, where nothing between two commas is skipped. -/
def ofText (s : String) : Except FilterError Filter :=
  ofParts ((Text.parts ',' s.toList).filter (!·.isEmpty))

/-- The directive that decides about a subject by its target. -/
def deciding? (f : Filter) (s : Subject) : Option Directive :=
  (f.filter (·.covers s)).foldl
    (fun best d => some ((best.map (·.prevailing d)).getD d)) none

/-- Limit for a subject by its target. -/
def limit (f : Filter) (s : Subject) : Limit := (f.deciding? s).bind Directive.limit

/-- A filter without the directives that a later one replaces. -/
def current : Filter → Filter
  | [] => []
  | d :: rest => if rest.any d.sameScope then current rest else d :: current rest

/-- Limit for what happens within a phase, if the phase is singled out. -/
def granted? (f : Filter) (s : Subject) : Option Limit :=
  let chosen := f.current.filter (·.singlesOut s)
  if chosen.isEmpty then none
  else
    let met := chosen.filter (·.field.all (·.isMet s.fields))
    some (Limit.greatest (met.map Directive.limit))

/-- Greatest detail of the directives about phases. -/
def particularLimit (f : Filter) : Limit :=
  Limit.greatest ((f.filter Directive.isParticular).map Directive.limit)

/-- Whether a subject passes within phases for which limits were granted. -/
def passes (f : Filter) (granted : List Limit) (s : Subject) : Bool :=
  granted.any (·.admits s.level) || (f.limit s).admits s.level

/-- Whether a phase passes.  One that is singled out passes down to the detail of the directives
about phases, or to the detail that is kept in view anyway. -/
def passesPhase (f : Filter) (inView : Limit) (granted : List Limit) (s : Subject) : Bool :=
  ((f.granted? s).isSome && (f.particularLimit.admits s.level || inView.admits s.level)) ||
    f.passes granted s

/-! ## Laws -/

/-- If something passes, so does what is more important and the same otherwise. -/
theorem passes_of_rank_le {f : Filter} {granted : List Limit} {s : Subject} {a : Level}
    (h : a.rank ≤ s.level.rank) (hs : f.passes granted s = true) :
    f.passes granted { s with level := a } = true := by
  simp only [passes, Bool.or_eq_true, List.any_eq_true] at hs ⊢
  rcases hs with ⟨limit, hmem, hlimit⟩ | hlimit
  · exact .inl ⟨limit, hmem, Limit.admits_of_rank_le h hlimit⟩
  · exact .inr (Limit.admits_of_rank_le h hlimit)

/-- What passes elsewhere passes within a phase that is singled out. -/
theorem passes_of_passes {f : Filter} {granted : List Limit} {s : Subject} (limit : Limit)
    (h : f.passes granted s = true) : f.passes (limit :: granted) s = true := by
  simp only [passes, List.any_cons, Bool.or_eq_true] at h ⊢
  rcases h with h | h
  · exact .inl (.inr h)
  · exact .inr h

/-! ## Sources of a filter -/

/-- The filter that lets everything pass down to informative messages. -/
def standard : Filter := [{ limit := some .info }]

/-- Variables that a filter is read from, the first one first. -/
def sources : List String := ["RUST_LOG", "TESSEL_LOG"]

/-- The first of some texts that is a filter, or else the standard filter.  A text that would be cut
inside a character ends the search. -/
def firstOf : List String → Except FilterError Filter
  | [] => .ok standard
  | s :: rest =>
    match ofText s with
    | .ok f => .ok f
    | .error .unreadable => firstOf rest
    | .error .splitCharacter => .error .splitCharacter

/-- The first filter in the variables, else a given text, else the standard filter. -/
def choose (lookup : String → Option String) (fallback : Option String) :
    Except FilterError Filter :=
  firstOf (sources.filterMap lookup ++ fallback.toList)

end Filter

end ComputeKernels.Logging
