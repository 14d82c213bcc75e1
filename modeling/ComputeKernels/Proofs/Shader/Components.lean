import ComputeKernels.Proofs.Dispatch.Partitions
import ComputeKernels.Proofs.Shader.Sampling

/-!
# Components that code selects

Axes are named by the components of a vector, of which there are four.  An axis beyond them would have
no name; the code of an accepted kernel never asks for one, whatever its operands are called.

Main results:

- Theorem `complete_helpers`: all helpers of an accepted kernel select components and members that have
  names.
- Theorem `ofAxes_of_acceptable`: the strides of every grid dimension of an accepted layout exist.
-/

namespace ComputeKernels.Shader

/-! ## Selections -/

mutual

/-- Whether everything that an expression selects has a name. -/
@[simp]
def Expr.complete : Expr → Bool
  | .member base name => base.complete && name != ""
  | .index base position => base.complete && position.complete
  | .binary _ left right => left.complete && right.complete
  | .neg operand => operand.complete
  | .call _ args => Expr.completeAll args
  | .construct _ args => Expr.completeAll args
  | .ident _ | .int _ | .float _ | .bool _ | .builtin _ => true

/-- Whether everything that some expressions select has a name. -/
def Expr.completeAll : List Expr → Bool
  | [] => true
  | e :: es => e.complete && Expr.completeAll es

end

mutual

/-- Whether everything that a statement selects has a name. -/
def Stmt.complete : Stmt → Bool
  | .constant _ _ value => value.complete
  | .variable _ _ value => value.complete
  | .assign place value => place.complete && value.complete
  | .ifThen condition body => condition.complete && Stmt.completeAll body
  | .ret none => true
  | .ret (some value) => value.complete
  | .expr value => value.complete

/-- Whether everything that some statements select has a name. -/
def Stmt.completeAll : List Stmt → Bool
  | [] => true
  | statement :: rest => statement.complete && Stmt.completeAll rest

end

/-- Whether everything that a function selects has a name. -/
def Function.complete (f : Function) : Bool := Stmt.completeAll f.body

variable {k : Kernel} {o : Operand}

@[simp]
theorem Expr.completeAll_iff {es : List Expr} :
    Expr.completeAll es = true ↔ ∀ e ∈ es, e.complete = true := by
  induction es with
  | nil => simp [Expr.completeAll]
  | cons e es ih => simp [Expr.completeAll, ih]

@[simp]
theorem Stmt.completeAll_iff {body : List Stmt} :
    Stmt.completeAll body = true ↔ ∀ statement ∈ body, statement.complete = true := by
  induction body with
  | nil => simp [Stmt.completeAll]
  | cons statement rest ih => simp [Stmt.completeAll, ih]

/-- The components of the first four axes have names. -/
theorem complete_axisOf {base : Expr} {axis : Nat} (hbase : base.complete = true)
    (haxis : axis < Shape.maxRank) : (axisOf base axis).complete = true := by
  have hname : (componentName axis != "") = true := by
    have hcases : axis = 0 ∨ axis = 1 ∨ axis = 2 ∨ axis = 3 := by
      have hfour : axis < 4 := haxis
      omega
    rcases hcases with rfl | rfl | rfl | rfl <;> decide
  rw [axisOf, Expr.complete, hbase, hname, Bool.and_self]

private theorem complete_chain {op : Operator} {terms : List Expr} {empty : Expr}
    (hterms : ∀ t ∈ terms, t.complete = true) (hempty : empty.complete = true) :
    (Expr.chain op terms empty).complete = true := by
  have hfold : ∀ (rest : List Expr) (first : Expr), first.complete = true →
      (∀ t ∈ rest, t.complete = true) → (rest.foldl (.binary op) first).complete = true := by
    intro rest
    induction rest with
    | nil => exact fun _ hfirst _ => hfirst
    | cons t rest ih =>
      intro first hfirst hrest
      refine ih _ ?_ fun u hu => hrest u (List.mem_cons_of_mem _ hu)
      rw [Expr.complete, hfirst, hrest t List.mem_cons_self, Bool.and_self]
  cases terms with
  | nil => exact hempty
  | cons t rest =>
    exact hfold rest t (hterms t List.mem_cons_self) fun u hu => hterms u (List.mem_cons_of_mem _ hu)

/-! ## Fixed helpers -/

private theorem complete_rankHelpers : ∀ rank ∈ helperRanks,
    (inBoundsFunction rank).complete = true ∧ (indexFromCoordsFunction rank).complete = true := by
  decide +kernel

private theorem complete_outputHelpers : ∀ rank < Shape.maxRank + 1,
    (outputIndexFunction rank).complete = true ∧ (coordsFromIndexFunction rank).complete = true ∧
      (gatherCoords rank).complete = true := by
  decide +kernel

private theorem complete_globalIndexFunction (workgroup : Grid) :
    (globalIndexFunction workgroup).complete = true :=
  rfl

private theorem complete_strideExpr {axes : List Nat} (h : ∀ axis ∈ axes, axis < Shape.maxRank) :
    (strideExpr ⟨axes⟩).complete = true := by
  apply complete_chain _ rfl
  intro extent hextent
  obtain ⟨axis, haxis, rfl⟩ := List.mem_map.mp hextent
  exact complete_axisOf rfl (h axis haxis)

private theorem complete_splitAxes (running : String) {axes : List Nat}
    (h : ∀ axis ∈ axes, axis < Shape.maxRank) :
    ∀ statement ∈ splitAxes running axes, statement.complete = true := by
  fun_induction splitAxes running axes with
  | case1 => simp
  | case2 last => simp [Stmt.complete, Expr.complete]
  | case3 axis next rest ih =>
    have hstride : (strideExpr ⟨next :: rest⟩).complete = true :=
      complete_strideExpr fun a ha => h a (List.mem_cons_of_mem _ ha)
    intro statement hstatement
    rcases List.mem_append.mp hstatement with hfirst | hrest
    · rcases List.mem_pair.mp hfirst with rfl | rfl
      · simp [Stmt.complete, Expr.complete, hstride]
      · simp [Stmt.complete, Expr.complete, hstride]
    · exact ih (fun a ha => h a (List.mem_cons_of_mem _ ha)) statement hrest

private theorem complete_dimensionCoords {dimension : Nat} (l : AxisLayout)
    (hdimension : dimension < 3)
    {axes : List Nat} (h : ∀ axis ∈ axes, axis < Shape.maxRank) :
    ∀ statement ∈ dimensionCoords dimension (dimensionSource l dimension) axes,
      statement.complete = true := by
  have hsource : (dimensionSource l dimension).complete = true := by
    unfold dimensionSource
    split
    · rfl
    · have hcomponent : (axisOf (.builtin .globalId) dimension).complete = true :=
        complete_axisOf rfl (Nat.lt_trans hdimension (by decide))
      simpa [position, Expr.complete, axisOf] using hcomponent
  unfold dimensionCoords
  split
  · simp
  · simpa [Stmt.complete] using hsource
  · simpa [Stmt.complete, hsource] using complete_splitAxes _ h

private theorem complete_outputCoordsFunction (hk : k.Acceptable) :
    (outputCoordsFunction k).complete = true := by
  obtain ⟨hfour, hperm⟩ := AxisLayout.validate_eq_ok_iff.mp hk.layout
  have haxes : ∀ axis ∈ k.program.layout.axes, axis < Shape.maxRank := fun axis haxis =>
    Nat.lt_of_lt_of_le (List.mem_range.mp (hperm.mem_iff.mp haxis)) hfour
  rw [Function.complete, Stmt.completeAll_iff]
  unfold outputCoordsFunction
  split
  · next hflat =>
    simp only [List.mem_singleton, forall_eq, Stmt.complete, Expr.complete, Expr.completeAll_iff]
    split <;> rfl
  · next hflat =>
    intro statement hstatement
    simp only [List.mem_append, List.mem_singleton, or_assoc] at hstatement
    rcases hstatement with hx | hy | hz | rfl
    · exact complete_dimensionCoords _ (by decide)
        (fun axis haxis => haxes axis (by simp [AxisLayout.axes, haxis])) _ hx
    · exact complete_dimensionCoords _ (by decide)
        (fun axis haxis => haxes axis (by simp [AxisLayout.axes, haxis])) _ hy
    · exact complete_dimensionCoords _ (by decide)
        (fun axis haxis => haxes axis (by simp [AxisLayout.axes, haxis])) _ hz
    · exact (complete_outputHelpers _ (Nat.lt_succ_of_le hfour)).2.2

/-! ## Operands and output -/

private theorem shapeUniform_ne_empty (name : String) : shapeUniform name ≠ "" := by
  intro h
  have hlength := congrArg String.length h
  unfold shapeUniform at hlength
  split at hlength
  · exact absurd hlength (by decide)
  · simp [String.length_append] at hlength

private theorem complete_loadElement {name : String} {element : Expr}
    (h : element.complete = true) :
    (loadElement k name element).complete = true := by
  unfold loadElement loadUnit
  split
  · simp [Expr.complete, h]
  · simp [Expr.complete, h]

private theorem complete_operandIndex (o : Operand) : (operandIndex o).complete = true := by
  unfold operandIndex
  split
  · rfl
  · rfl
  · simp [Expr.complete, Expr.uniform, coordLocals, shapeUniform_ne_empty]

private theorem complete_trailingCoords {coords : Expr} {outRank rank : Nat}
    (hcoords : coords.complete = true)
    (hle : rank ≤ outRank) (hfour : outRank ≤ Shape.maxRank) :
    ∀ e ∈ trailingCoords outRank rank coords, e.complete = true := by
  unfold trailingCoords
  split
  · simpa using hcoords
  · intro e he
    obtain ⟨axis, haxis, rfl⟩ := List.mem_map.mp he
    rw [List.mem_range'] at haxis
    exact complete_axisOf hcoords (by omega)

private theorem complete_readThroughBroadcast (hfour : k.outRank ≤ Shape.maxRank)
    (hle : o.rank ≤ k.outRank) :
    ∀ statement ∈ readThroughBroadcast k o, statement.complete = true := by
  have hread : ∀ name : String, (Stmt.ret (some (.call ("get" ++ capitalized o.name)
      (trailingCoords k.outRank o.rank (.ident name))))).complete = true := by
    intro name
    rw [Stmt.complete, Expr.complete, Expr.completeAll_iff]
    exact complete_trailingCoords rfl hle hfour
  unfold readThroughBroadcast
  split
  · intro statement hstatement
    obtain rfl := List.mem_singleton.mp hstatement
    exact hread "coordsIn"
  · intro statement hstatement
    simp only [List.cons_append, List.mem_cons, List.mem_append, List.not_mem_nil,
      or_false] at hstatement
    rcases hstatement with rfl | hpin | rfl
    · rfl
    · obtain ⟨axis, haxis, rfl⟩ := List.mem_map.mp hpin
      have hlt : axis < k.outRank := Shape.lt_of_mem_stretchedAxes haxis
      have hplace : (axisOf (.ident "coords") axis).complete = true :=
        complete_axisOf rfl (by omega)
      rw [Stmt.complete]
      split
      · rfl
      · rw [hplace]
        rfl
    · exact hread "coords"

private theorem complete_samplers (hfour : k.outRank ≤ Shape.maxRank) :
    ∀ f ∈ samplers k o, f.complete = true := by
  have hown : (readAtCoords k o).complete = true := by
    rw [Function.complete, Stmt.completeAll_iff]
    simp only [readAtCoords, List.mem_singleton, forall_eq, Stmt.complete]
    split
    · rfl
    · exact complete_loadElement (complete_operandIndex o)
  have hcoords : o.rank ≤ k.outRank → (readAtOutCoords k o).complete = true := by
    intro hle
    rw [Function.complete, Stmt.completeAll_iff]
    unfold readAtOutCoords
    split
    · have hload : (loadElement k o.name
          (.call "getOutputIndexFromCoords" [.ident "coordsIn"])).complete = true :=
        complete_loadElement rfl
      simpa [Stmt.complete] using hload
    · split
      · simp [Stmt.complete, Expr.complete]
      · exact complete_readThroughBroadcast hfour hle
  have hindex : (readAtOutputIndex k o).complete = true := by
    rw [Function.complete, Stmt.completeAll_iff]
    unfold readAtOutputIndex
    split
    · simp [Stmt.complete, loadUnit, Expr.complete]
    · simp only [List.mem_singleton, forall_eq, Stmt.complete, Expr.complete, Expr.completeAll_iff]
      split <;> rfl
  intro f hf
  unfold samplers at hf
  split at hf
  · next hle =>
    simp only [List.cons_append, List.nil_append, List.mem_cons, List.not_mem_nil, or_false] at hf
    rcases hf with rfl | rfl | rfl | rfl
    · exact hown
    · rfl
    · exact hcoords hle
    · exact hindex
  · simp only [List.append_nil, List.mem_cons, List.not_mem_nil, or_false] at hf
    rcases hf with rfl | rfl
    · exact hown
    · rfl

private theorem complete_writers (hfour : k.outRank ≤ Shape.maxRank) :
    ∀ f ∈ writers k, f.complete = true := by
  have hcoords : ∀ suffix s, (writeAtCoords k suffix s).complete = true := by
    intro suffix s
    have hgather := (complete_outputHelpers k.outRank (Nat.lt_succ_of_le hfour)).2.2
    have hbody : (writeAtCoords k suffix s).body =
        [.constant "flatIndex" (.scalar .i32)
            (.call "getOutputIndexFromCoords" [gatherCoords k.outRank]),
          .expr (.call ("setOutputAtIndex" ++ suffix)
            [if k.isVec4 then .binary .div (.ident "flatIndex") (.int 4) else .ident "flatIndex",
              .ident "value"])] := rfl
    rw [Function.complete, hbody]
    simp only [Stmt.completeAll, Stmt.complete, Expr.complete, Expr.completeAll, hgather,
      Bool.and_true, Bool.true_and]
    split <;> rfl
  have hwriters : writers k = [writeAtIndex k "" .f32, writeAtIndex k "I32" .i32,
    writeAtCoords k "" .f32, writeAtCoords k "I32" .i32] := rfl
  rw [hwriters]
  simp only [List.mem_cons, List.not_mem_nil, or_false, forall_eq_or_imp, forall_eq]
  exact ⟨rfl, rfl, hcoords _ _, hcoords _ _⟩

/-! ## Modules -/

/-- All helpers of an accepted kernel select components and members that have names. -/
theorem complete_helpers (hk : k.Acceptable) : ∀ f ∈ helpers k, f.complete = true := by
  have hfour := hk.outRank_le
  have houtput := complete_outputHelpers k.outRank (Nat.lt_succ_of_le hfour)
  intro f hf
  simp only [helpers_eq_append, fixedHelpers, List.mem_append, List.mem_cons, List.not_mem_nil,
    or_false, List.mem_map, List.mem_flatMap] at hf
  rcases hf with (((((rfl | rfl | rfl) | ⟨rank, hrank, rfl⟩) | ⟨rank, hrank, rfl⟩) |
    (rfl | rfl | rfl | rfl)) | ⟨o, -, hf⟩) | hf
  · rfl
  · rfl
  · rfl
  · exact (complete_rankHelpers rank hrank).1
  · exact (complete_rankHelpers rank hrank).2
  · exact houtput.1
  · exact houtput.2.1
  · exact complete_globalIndexFunction _
  · exact complete_outputCoordsFunction hk
  · exact complete_samplers hfour f hf
  · exact complete_writers hfour f hf

/-- All components that an entry point looks up exist. -/
theorem complete_entryBody (k : Kernel) : Stmt.completeAll (entryBody k) = true := by
  have hsamples : ∀ e ∈ operandSamples k, e.complete = true := by
    intro e he
    obtain ⟨o, -, rfl⟩ := List.mem_map.mp he
    simp [Expr.complete]
  unfold entryBody
  split
  · simpa [Stmt.complete, Stmt.completeAll, Expr.complete, Expr.uniform, globalIndex] using hsamples
  · simp only [Stmt.completeAll, Stmt.complete, Expr.complete, Bool.and_true, Expr.completeAll_iff]
    split
    · simp [globalIndex, Expr.complete]
    · simp

/-- The strides of every grid dimension of an accepted layout exist. -/
theorem ofAxes_of_acceptable (hk : k.Acceptable) :
    ∀ axes ∈ k.program.layout.dims,
      SymbolicStride.ofAxes axes = .ok (SymbolicStride.ofTails axes) := by
  obtain ⟨hfour, hperm⟩ := AxisLayout.validate_eq_ok_iff.mp hk.layout
  intro axes haxes
  have hmem : axes ⊆ k.program.layout.axes := by
    simp only [AxisLayout.dims, List.mem_cons, List.not_mem_nil, or_false] at haxes
    rcases haxes with rfl | rfl | rfl <;> intro axis haxis <;> simp [AxisLayout.axes, haxis]
  have hnone : axes.find? (Shape.maxRank ≤ ·) = none := by
    rw [List.find?_eq_none]
    intro axis haxis
    have hlt := List.mem_range.mp (hperm.mem_iff.mp (hmem haxis))
    simp
    omega
  rw [SymbolicStride.ofAxes, hnone]

end ComputeKernels.Shader
