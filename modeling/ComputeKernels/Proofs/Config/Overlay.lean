import ComputeKernels.Config.Overrides

/-!
# Overrides as an overlay

The variables of a lookup lie over the settings below them, each over its own setting: where a variable
is present and can be read its value shows, elsewhere the setting below.  A present variable that cannot
be read gives one notice.  Zeros are replaced after that, in each setting by itself, so replacing them
below an overlay as well makes no difference above it.

Main definitions:

- `overlay`: the settings that show.
- `ignored`: the notices about variables that cannot be read.
- `Useful`: no zero stands in the way of a backend.

Main results:

- Theorem `foldl_applyVariable`: variables that are applied one after the other.
- Theorem `normalized_overlay_normalized`: zeros may be replaced below an overlay or not.
- Theorem `overrides_are_an_overlay`: what overrides give, however often they are applied, and in
  whatever order.
-/

namespace ComputeKernels.Config

open Text

/-! ## Values over others -/

section Values

variable {α : Type}

private theorem getD_getD (o : Option α) (below : α) : o.getD (o.getD below) = o.getD below := by
  cases o <;> rfl

/-- Of two values one of which is missing, either may lie over the other. -/
theorem getD_comm {o o' : Option α} (h : o = none ∨ o' = none) (below : α) :
    o'.getD (o.getD below) = o.getD (o'.getD below) := by
  rcases h with rfl | rfl <;> rfl

/-- A value that is mended when it shows need not be mended below. -/
theorem map_getD_map (mend : α → α) (hmend : ∀ a, mend (mend a) = mend a) (o : Option α)
    (below : α) : mend (o.getD (mend below)) = mend (o.getD below) := by
  cases o with
  | none => exact hmend below
  | some a => rfl

end Values

variable {lookup other : String → Option String} {s : Settings} {notices : List Notice}

/-! ## What variables say -/

/-- Reads the target that the choice between the two shading languages stands for. -/
def parseTarget? (raw : String) : Option Target := (parseBool? raw).map Variable.targetOf

namespace Variable

/-- Whether a text is a value of a variable. -/
def reads (v : Variable) (raw : String) : Bool :=
  match v with
  | batchSize | cpuThreshold => (parseNumber? raw).isSome
  | cpuForward | useGlsl => (parseBool? raw).isSome
  | power => (parsePower? raw).isSome
  | workgroup => (parseWorkgroup? raw).isSome

/-- The value of a variable that is present and can be read. -/
def value? {α : Type} (v : Variable) (lookup : String → Option String)
    (parse : String → Option α) : Option α :=
  (lookup v.name).bind parse

/-- The settings with a variable over its own setting, if it is present and can be read. -/
def lay (lookup : String → Option String) (s : Settings) (v : Variable) : Settings :=
  ((lookup v.name).bind (v.assign? · s)).getD s

/-- The notice about a variable that is present and cannot be read. -/
def refusal? (lookup : String → Option String) (v : Variable) : Option Notice :=
  ((lookup v.name).filter (!v.reads ·)).map v.notice

private theorem isSome_assign? (v : Variable) (raw : String) :
    (v.assign? raw s).isSome = v.reads raw := by
  cases v <;> simp [assign?, reads]

/-- A variable that puts what it reads into a setting lies over that setting. -/
theorem lay_eq {α : Type} (v : Variable) (parse : String → Option α) (put : Settings → α → Settings)
    (get : Settings → α) (hassign : ∀ raw t, v.assign? raw t = (parse raw).map (put t))
    (hput : ∀ t, put t (get t) = t) (s : Settings) :
    lay lookup s v = put s ((v.value? lookup parse).getD (get s)) := by
  rw [lay, value?]
  cases lookup v.name with
  | none => exact (hput s).symm
  | some raw => simp only [Option.bind_some, hassign, ← Option.getD_map (put s), hput]

private theorem value?_of_absent {α : Type} {v : Variable} {parse : String → Option α}
    (h : lookup v.name = none) : v.value? lookup parse = none := by
  rw [value?, h, Option.bind_none]

end Variable

/-- The settings that show when the variables of a lookup lie over settings. -/
def overlay (lookup : String → Option String) (s : Settings) : Settings :=
  { s with
    batchSize := (Variable.batchSize.value? lookup parseNumber?).getD s.batchSize
    cpuForward := (Variable.cpuForward.value? lookup parseBool?).getD s.cpuForward
    cpuThreshold := (Variable.cpuThreshold.value? lookup parseNumber?).getD s.cpuThreshold
    target := (Variable.useGlsl.value? lookup parseTarget?).getD s.target
    power := (Variable.power.value? lookup parsePower?).getD s.power
    workgroup := (Variable.workgroup.value? lookup parseWorkgroup?).getD s.workgroup }

/-- The notices about the variables that are present and cannot be read, in the order of the
variables. -/
def ignored (lookup : String → Option String) : List Notice :=
  Variable.all.filterMap (Variable.refusal? lookup)

/-! ## Applying variables -/

/-- One variable is laid over its setting, or gives its notice. -/
theorem applyVariable_eq (lookup : String → Option String) (s : Settings) (notices : List Notice)
    (v : Variable) :
    applyVariable lookup (s, notices) v =
      (Variable.lay lookup s v, notices ++ (Variable.refusal? lookup v).toList) := by
  rw [applyVariable, Variable.lay, Variable.refusal?]
  cases lookup v.name with
  | none => simp
  | some raw =>
    have hreads := Variable.isSome_assign? (s := s) v raw
    cases hassign : v.assign? raw s with
    | none =>
      rw [hassign, Option.isSome_none] at hreads
      simp [hassign, ← hreads, Option.filter]
    | some t =>
      rw [hassign, Option.isSome_some] at hreads
      simp [hassign, ← hreads, Option.filter]

/-- Variables that are applied one after the other are laid over their settings in turn, and those that
cannot be read give their notices in turn. -/
theorem foldl_applyVariable (lookup : String → Option String) (vs : List Variable) (s : Settings)
    (notices : List Notice) :
    vs.foldl (applyVariable lookup) (s, notices) =
      (vs.foldl (Variable.lay lookup) s, notices ++ vs.filterMap (Variable.refusal? lookup)) := by
  induction vs generalizing s notices with
  | nil => simp
  | cons v vs ih =>
    rw [List.foldl_cons, applyVariable_eq, ih, List.foldl_cons, List.append_assoc]
    cases hrefusal : Variable.refusal? lookup v <;> simp [hrefusal]

/-- All variables laid over settings in turn are the overlay. -/
theorem foldl_lay_all (lookup : String → Option String) (s : Settings) :
    Variable.all.foldl (Variable.lay lookup) s = overlay lookup s := by
  simp only [Variable.all, List.foldl_cons, List.foldl_nil]
  rw [Variable.lay_eq .workgroup parseWorkgroup? (fun t g => { t with workgroup := g })
      (·.workgroup) (fun _ _ => rfl) fun _ => rfl,
    Variable.lay_eq .power parsePower? (fun t p => { t with power := p })
      (·.power) (fun _ _ => rfl) fun _ => rfl,
    Variable.lay_eq .useGlsl parseTarget? (fun t target => { t with target })
      (·.target) (fun _ _ => by rw [parseTarget?, Option.map_map]; rfl) fun _ => rfl,
    Variable.lay_eq .cpuThreshold parseNumber? (fun t n => { t with cpuThreshold := n })
      (·.cpuThreshold) (fun _ _ => rfl) fun _ => rfl,
    Variable.lay_eq .cpuForward parseBool? (fun t b => { t with cpuForward := b })
      (·.cpuForward) (fun _ _ => rfl) fun _ => rfl,
    Variable.lay_eq .batchSize parseNumber? (fun t n => { t with batchSize := n })
      (·.batchSize) (fun _ _ => rfl) fun _ => rfl]
  rfl

/-- What overrides give: the overlay without its zeros, and the notices about what cannot be read before
those about zeros. -/
theorem applyOverrides_eq (lookup : String → Option String) (s : Settings) (notices : List Notice) :
    applyOverrides lookup (s, notices) =
      ((overlay lookup s).normalized, notices ++ ignored lookup ++ (overlay lookup s).normalNotices) := by
  rw [applyOverrides, foldl_applyVariable, foldl_lay_all]
  rfl

/-! ## Overlays and zeros -/

private theorem overlay_overlay (lookup : String → Option String) (s : Settings) :
    overlay lookup (overlay lookup s) = overlay lookup s := by
  simp only [overlay, getD_getD]

/-- Lookups without a common variable may be laid over settings in any order. -/
theorem overlay_comm (h : ∀ v : Variable, lookup v.name = none ∨ other v.name = none) (s : Settings) :
    overlay other (overlay lookup s) = overlay lookup (overlay other s) := by
  have hvalue {α : Type} (v : Variable) (parse : String → Option α) (below : α) :
      (v.value? other parse).getD ((v.value? lookup parse).getD below) =
        (v.value? lookup parse).getD ((v.value? other parse).getD below) :=
    getD_comm ((h v).imp Variable.value?_of_absent Variable.value?_of_absent) below
  simp only [overlay, hvalue]

/-- Zeros may be replaced below an overlay or not, as long as they are replaced above it. -/
theorem normalized_overlay_normalized (lookup : String → Option String) (s : Settings) :
    (overlay lookup s.normalized).normalized = (overlay lookup s).normalized := by
  have hdefault : hasZeroExtent defaultWorkgroup = false := rfl
  have hbatch := map_getD_map (fun n : Nat => if n = 0 then 1 else n) (by grind)
    (Variable.batchSize.value? lookup parseNumber?) s.batchSize
  have hgroup := map_getD_map (fun g => if hasZeroExtent g then defaultWorkgroup else g) (by grind)
    (Variable.workgroup.value? lookup parseWorkgroup?) s.workgroup
  have hlimit : s.normalized.normalized.maxDispatch = s.normalized.maxDispatch :=
    congrArg Settings.maxDispatch s.normalized_normalized
  simp only [overlay, Settings.normalized, Settings.mk.injEq, true_and] at hlimit ⊢
  exact ⟨hbatch, hgroup, hlimit⟩

/-- No zero stands in the way of a backend. -/
structure Useful (s : Settings) : Prop where
  batchSize : 1 ≤ s.batchSize
  workgroup : ∀ extent ∈ s.workgroup.toList, 0 < extent
  maxDispatch : 0 < s.maxDispatch

private theorem useful_normalized (s : Settings) : Useful s.normalized where
  batchSize := by
    simp only [Settings.normalized]
    split <;> omega
  workgroup extent hextent := by
    rw [Settings.normalized] at hextent
    by_cases hzero : hasZeroExtent s.workgroup = true
    · simp only [hzero, if_true] at hextent
      exact (by decide : ∀ extent ∈ defaultWorkgroup.toList, 0 < extent) extent hextent
    · simp only [hzero] at hextent
      refine Nat.pos_of_ne_zero fun h => hzero ?_
      exact List.any_eq_true.mpr ⟨extent, hextent, beq_iff_eq.mpr h⟩
  maxDispatch := by
    simp only [Settings.normalized]
    split
    · decide
    · omega

/-! ## Overrides -/

/-- Every present variable that can be read replaces its own setting, every other setting is kept, and
then zeros are replaced; a present variable that cannot be read gives one notice.  So the result is
useful whatever was there before, a second application changes nothing, and lookups without a common
variable may be applied in any order. -/
theorem overrides_are_an_overlay (lookup : String → Option String) (s : Settings)
    (notices : List Notice) :
    applyOverrides lookup (s, notices) =
        ((overlay lookup s).normalized,
          notices ++ ignored lookup ++ (overlay lookup s).normalNotices) ∧
      Useful (applyOverrides lookup (s, notices)).1 ∧
      (applyOverrides lookup (applyOverrides lookup (s, notices))).1 =
        (applyOverrides lookup (s, notices)).1 ∧
      (∀ other : String → Option String,
        (∀ v : Variable, lookup v.name = none ∨ other v.name = none) →
          (applyOverrides other (applyOverrides lookup (s, notices))).1 =
            (applyOverrides lookup (applyOverrides other (s, notices))).1) ∧
      s.normalized.normalized = s.normalized ∧ s.normalized.normalNotices = [] := by
  refine ⟨applyOverrides_eq lookup s notices, ?_, ?_, fun other h => ?_,
    s.normalized_normalized, s.normalNotices_normalized⟩
  · rw [applyOverrides_eq]
    exact useful_normalized _
  · rw [applyOverrides_eq, applyOverrides_eq, normalized_overlay_normalized, overlay_overlay]
  · rw [applyOverrides_eq, applyOverrides_eq, applyOverrides_eq, applyOverrides_eq]
    calc (overlay other (overlay lookup s).normalized).normalized
        = (overlay other (overlay lookup s)).normalized := normalized_overlay_normalized _ _
      _ = (overlay lookup (overlay other s)).normalized := by rw [overlay_comm h]
      _ = (overlay lookup (overlay other s).normalized).normalized :=
        (normalized_overlay_normalized _ _).symm

/-- Variables that ask for batches of no passes and give no truth value. -/
def uselessVariables (name : String) : Option String :=
  if name = Variable.batchSize.name then some " 0 "
  else if name = Variable.cpuForward.name then some "maybe"
  else none

/-- A variable that gives two extents of a workgroup. -/
def planeVariable (name : String) : Option String :=
  if name = Variable.workgroup.name then some "8, 4" else none

/-- Variables of two lookups may be applied to settings with a zero in either order; the first lookup
alone gives one notice about a variable and two about zeros. -/
theorem useless_and_plane_commute :
    (∀ v : Variable, uselessVariables v.name = none ∨ planeVariable v.name = none) ∧
      (applyOverrides planeVariable
          (applyOverrides uselessVariables ({ workgroup := ⟨0, 8, 1⟩ }, []))).1 =
        (applyOverrides uselessVariables
          (applyOverrides planeVariable ({ workgroup := ⟨0, 8, 1⟩ }, []))).1 ∧
      (applyOverrides uselessVariables ({ workgroup := ⟨0, 8, 1⟩ }, [])).2 =
        [.notBoolean Variable.cpuForward.name "\"maybe\"", .zeroBatch, .zeroWorkgroup ⟨0, 8, 1⟩] := by
  have hdisjoint : ∀ v : Variable, uselessVariables v.name = none ∨ planeVariable v.name = none := by
    intro v
    cases v <;> decide
  have hall := overrides_are_an_overlay uselessVariables { workgroup := ⟨0, 8, 1⟩ } []
  refine ⟨hdisjoint, hall.2.2.2.1 planeVariable hdisjoint, ?_⟩
  rw [hall.1]
  decide +kernel

end ComputeKernels.Config
