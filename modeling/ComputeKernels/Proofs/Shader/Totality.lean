import ComputeKernels.Proofs.Shader.Helpers

/-!
# Samplers that always return

Indices that belong to no unit of the output reach the samplers too, and where integers are cut to 32
bits so do numbers below zero.  The samplers return a value for every index all the same.  Sums,
differences and products have one under either arithmetic, and the only divisors are the four elements
of a unit and the strides of the output.

Main results:

- Theorem `exists_apply_coordsFromIndexFunction`: every index has coordinates if no stride is zero.
- Theorem `exists_call_readAtOutputIndex`: an operand is read at every index of the output.
-/

namespace ComputeKernels.Shader

open ComputeKernels.Uniform

variable {s : Setting} {calls : Calls} {locals : Locals}

/-! ## Numbers -/

/-- An expression has some number as its value. -/
def IsNumber (s : Setting) (calls : Calls) (locals : Locals) (e : Expr) : Prop :=
  ∃ n : Int, e.eval s calls locals = some (.int n)

/-- An operator has a result for any two numbers. -/
def Operator.Total (op : Operator) : Prop := ∀ m n, ∃ r, op.calculate? m n = some r

private theorem total_add : Operator.add.Total := fun m n => ⟨m + n, rfl⟩

private theorem total_sub : Operator.sub.Total := fun m n => ⟨m - n, rfl⟩

private theorem total_mul : Operator.mul.Total := fun m n => ⟨m * n, rfl⟩

private theorem isNumber_int (n : Int) : IsNumber s calls locals (.int n) :=
  ⟨s.arithmetic.settle n, by rw [Expr.eval]⟩

private theorem isNumber_binary {op : Operator} {left right : Expr} (hop : op.Total)
    (hleft : IsNumber s calls locals left) (hright : IsNumber s calls locals right) :
    IsNumber s calls locals (.binary op left right) := by
  rcases hleft with ⟨m, hm⟩
  rcases hright with ⟨n, hn⟩
  rcases hop m n with ⟨r, hr⟩
  exact ⟨_, eval_binary hm hn hr⟩

private theorem isNumber_div {left right : Expr} {d : Int} (hleft : IsNumber s calls locals left)
    (hright : right.eval s calls locals = some (.int d)) (hd : d ≠ 0) :
    IsNumber s calls locals (.binary .div left right) := by
  rcases hleft with ⟨n, hn⟩
  have hop : Operator.div.calculate? n d = some (n.tdiv d) := by simp [Operator.calculate?, hd]
  exact ⟨_, eval_binary hn hright hop⟩

/-- A chain of numbers is one. -/
theorem isNumber_chain {op : Operator} {terms : List Expr} {empty : Expr} (hop : op.Total)
    (hterms : ∀ t ∈ terms, IsNumber s calls locals t) (hempty : IsNumber s calls locals empty) :
    IsNumber s calls locals (.chain op terms empty) := by
  have hfold : ∀ (rest : List Expr) (first : Expr), IsNumber s calls locals first →
      (∀ t ∈ rest, IsNumber s calls locals t) →
      IsNumber s calls locals (rest.foldl (.binary op) first) := by
    intro rest
    induction rest with
    | nil => exact fun _ hfirst _ => hfirst
    | cons t rest ih =>
      intro first hfirst hrest
      rw [List.forall_mem_cons] at hrest
      exact ih _ (isNumber_binary hop hfirst hrest.1) hrest.2
  cases terms with
  | nil => exact hempty
  | cons t rest =>
    rw [List.forall_mem_cons] at hterms
    exact hfold rest t hterms.1 hterms.2

/-- Where each element is related to something, a list is related to a list. -/
theorem exists_forall₂ {α β : Type} {R : α → β → Prop} {l : List α} (h : ∀ a ∈ l, ∃ b, R a b) :
    ∃ bs, List.Forall₂ R l bs := by
  induction l with
  | nil => exact ⟨[], .nil⟩
  | cons a l ih =>
    rw [List.forall_mem_cons] at h
    rcases h.1 with ⟨b, hb⟩
    rcases ih h.2 with ⟨bs, hbs⟩
    exact ⟨b :: bs, .cons hb hbs⟩

private theorem exists_evalIntegers {es : List Expr} (h : ∀ e ∈ es, IsNumber s calls locals e) :
    ∃ ns, EvalIntegers s calls locals es ns :=
  exists_forall₂ h

/-! ## Coordinates -/

/-- Numbers in the place of the coordinates of a rank.  There is one also where there are no axes. -/
def Value.IsCoords (rank : Nat) (v : Value) : Prop :=
  ∃ ns : List Int, ns.length = max rank 1 ∧ v = signedCoords ns

namespace Value.IsCoords

variable {rank : Nat} {v : Value}

private theorem exists_int (h : v.IsCoords rank) (hrank : rank ≤ 1) : ∃ n : Int, v = .int n := by
  rcases h with ⟨ns, hlength, rfl⟩
  obtain ⟨n, rfl⟩ := List.length_eq_one_iff.mp (hlength.trans (max_eq_right hrank))
  exact ⟨n, rfl⟩

private theorem exists_integers (h : v.IsCoords rank) (hrank : 2 ≤ rank) :
    ∃ ns : List Int, ns.length = rank ∧ v = .integers ns := by
  rcases h with ⟨ns, hlength, rfl⟩
  have hrank' : ns.length = rank := by omega
  exact ⟨ns, hrank', signedCoords_of_two_le (hrank' ▸ hrank)⟩

private theorem of_int (n : Int) (hrank : rank ≤ 1) : (Value.int n).IsCoords rank :=
  ⟨[n], (max_eq_right hrank).symm, rfl⟩

private theorem of_integers {ns : List Int} (hlength : ns.length = rank) (hrank : 2 ≤ rank) :
    (integers ns).IsCoords rank :=
  ⟨ns, by omega, (signedCoords_of_two_le (hlength ▸ hrank)).symm⟩

private theorem of_counts (a : Arithmetic) (counts : List Nat) :
    (ofCounts a counts).IsCoords counts.length := by
  match counts with
  | [] => exact of_int 1 (by simp)
  | [n] => exact of_int (a.settle n) (by simp)
  | m :: n :: counts =>
    rw [ofCounts_eq_integers (by simp)]
    exact of_integers (by simp) (by simp)

/-- The components of coordinates are numbers. -/
theorem isNumber_axisOf (h : v.IsCoords rank) (htwo : 2 ≤ rank) (hfour : rank ≤ 4) {base : Expr}
    (hblock : base.isBlock = false) (hbase : base.eval s calls locals = some v) {axis : Nat}
    (haxis : axis < rank) : IsNumber s calls locals (axisOf base axis) := by
  rcases h.exists_integers htwo with ⟨ns, hlength, rfl⟩
  exact ⟨_, eval_signedAxisOf hblock hbase (hlength ▸ hfour) (hlength ▸ haxis)⟩

end Value.IsCoords

variable {shape : Shape}

private theorem isNumber_outStride {a : Arithmetic}
    (hstrides : s.uniforms "outShapeStrides" = some (.ofCounts a (Shape.outerStrides shape)))
    (hfour : shape.length ≤ 4) {axis : Nat} (haxis : axis < shape.length - 1) :
    IsNumber s calls locals (outStride shape.length axis) := by
  have hlt : axis < (Shape.outerStrides shape).length := by
    rw [Shape.length_outerStrides]
    omega
  exact ⟨_, eval_outStride_settle hstrides hfour hlt⟩

/-- Coordinates have a flat index. -/
theorem exists_apply_outputIndexFunction {a : Arithmetic} {v : Value}
    (hstrides : s.uniforms "outShapeStrides" = some (.ofCounts a (Shape.outerStrides shape)))
    (hv : v.IsCoords shape.length) (hfour : shape.length ≤ 4) :
    ∃ n : Int, (outputIndexFunction shape.length).apply s calls [v] =
      some ⟨some (.int n), []⟩ := by
  have hcoords : (Expr.ident "coords").eval s calls [("coords", v)] = some v := by
    simp [eval_ident]
  have hvalue : IsNumber s calls [("coords", v)] (if shape.length ≤ 1 then .ident "coords" else
      .chain .add ((List.range (shape.length - 1)).map (fun axis =>
        .binary .mul (axisOf (.ident "coords") axis) (outStride shape.length axis)) ++
          [axisOf (.ident "coords") (shape.length - 1)]) (.int 0)) := by
    split
    · next hone =>
      rcases hv.exists_int hone with ⟨n, rfl⟩
      exact ⟨n, hcoords⟩
    · next hone =>
      have haxis : ∀ axis < shape.length,
          IsNumber s calls [("coords", v)] (axisOf (.ident "coords") axis) := fun axis haxis =>
        hv.isNumber_axisOf (by omega) hfour rfl hcoords haxis
      refine isNumber_chain total_add (fun t ht => ?_) (isNumber_int 0)
      rcases List.mem_append.mp ht with hterm | hlast
      · rcases List.mem_map.mp hterm with ⟨axis, hmem, rfl⟩
        have hlt := List.mem_range.mp hmem
        exact isNumber_binary total_mul (haxis axis (by omega))
          (isNumber_outStride hstrides hfour hlt)
      · rw [List.mem_singleton.mp hlast]
        exact haxis _ (by omega)
  rcases hvalue with ⟨n, hn⟩
  exact ⟨n, apply_of_ret rfl rfl hn⟩

/-- Coordinates have a flat index within any extents. -/
theorem exists_apply_indexFromCoordsFunction {rank : Nat} {v extents : Value} (hv : v.IsCoords rank)
    (hextents : extents.IsCoords rank) (hpos : 1 ≤ rank) (hfour : rank ≤ 4) :
    ∃ n : Int, (indexFromCoordsFunction rank).apply s calls [v, extents] =
      some ⟨some (.int n), []⟩ := by
  have hcoords : (Expr.ident "coords").eval s calls [("coords", v), ("shape", extents)] =
      some v := by simp [eval_ident]
  have hshape : (Expr.ident "shape").eval s calls [("coords", v), ("shape", extents)] =
      some extents := by simp [eval_ident, List.lookup_cons]
  have hvalue : IsNumber s calls [("coords", v), ("shape", extents)] (if rank = 1 then
      .ident "coords" else .chain .add ((List.range rank).map (weightedCoord rank)) (.int 0)) := by
    split
    · next hone =>
      rcases hv.exists_int (Nat.le_of_eq hone) with ⟨n, rfl⟩
      exact ⟨n, hcoords⟩
    · next hone =>
      refine isNumber_chain total_add (List.forall_mem_map.mpr fun axis hmem => ?_) (isNumber_int 0)
      have hcoord : IsNumber s calls [("coords", v), ("shape", extents)]
          (axisOf (.ident "coords") axis) :=
        hv.isNumber_axisOf (by omega) hfour rfl hcoords (List.mem_range.mp hmem)
      rw [weightedCoord]
      split
      · exact hcoord
      · refine isNumber_binary total_mul hcoord (isNumber_chain total_mul ?_ (isNumber_int 1))
        refine List.forall_mem_map.mpr fun inner hinner => ?_
        rw [List.mem_range'_1] at hinner
        exact hextents.isNumber_axisOf (by omega) hfour rfl hshape (by omega)
  rcases hvalue with ⟨n, hn⟩
  exact ⟨n, apply_of_ret rfl rfl hn⟩

/-! ## Splitting an index -/

variable {f : Frame}

/-- A local holds some number. -/
def Frame.HasNumber (f : Frame) (name : String) : Prop :=
  ∃ n : Int, f.locals.lookup name = some (.int n)

private theorem Frame.HasNumber.isNumber {name : String} (h : f.HasNumber name) :
    IsNumber s calls f.locals (.ident name) := by
  rcases h with ⟨n, hn⟩
  exact ⟨n, (eval_ident name).trans hn⟩

/-- Splitting off an axis gives a number and loses none. -/
theorem exists_runAll_splitAxis_of_number {running : String} {axis : Nat} {stride : Expr} {d : Int}
    (hf : f.returned = none) (hrunning : f.HasNumber running)
    (hstride : ∀ locals, stride.eval s calls locals = some (.int d)) (hd : d ≠ 0) :
    ∃ g : Frame, (∀ rest, Stmt.runAll s calls f (splitAxis running axis stride ++ rest) =
        Stmt.runAll s calls g rest) ∧
      g.returned = none ∧ g.writes = f.writes ∧ g.HasNumber (coordName axis) ∧
      ∀ name, f.HasNumber name → g.HasNumber name := by
  rcases isNumber_div hrunning.isNumber (hstride f.locals) hd with ⟨q, hquotient⟩
  let h := f.declare (coordName axis) (.int q)
  have hcoord : h.HasNumber (coordName axis) := ⟨q, by rw [Frame.lookup_declare, if_pos rfl]⟩
  have hkept : ∀ name, f.HasNumber name → h.HasNumber name := by
    rintro name ⟨n, hn⟩
    by_cases hname : name = coordName axis
    · exact hname ▸ hcoord
    · exact ⟨n, by rw [Frame.lookup_declare, if_neg hname, hn]⟩
  have hproduct : IsNumber s calls h.locals (.binary .mul (.ident (coordName axis)) stride) :=
    isNumber_binary total_mul hcoord.isNumber ⟨d, hstride h.locals⟩
  rcases isNumber_binary total_sub (hkept running hrunning).isNumber hproduct with ⟨r, hrest⟩
  have hassign : (Expr.ident running).assign? s calls h (.int r) = h.replace? running (.int r) := by
    rw [Expr.assign?]
  have hreturned : h.returned = none := hf
  rcases hkept running hrunning with ⟨n, hlookup⟩
  rcases exists_runAll_assign hreturned hlookup hrest hassign with
    ⟨g, hrun, hreturned, hwrites, hafter⟩
  -- Only the running local changes, and it gets a number for a number.
  have hnumbers : ∀ name, h.HasNumber name → g.HasNumber name := by
    rintro name ⟨m, hm⟩
    by_cases hname : name = running
    · exact ⟨r, by rw [hafter, if_pos hname]⟩
    · exact ⟨m, by rw [hafter, if_neg hname, hm]⟩
  refine ⟨g, fun rest => ?_, hreturned, hwrites, hnumbers _ hcoord,
    fun name hname => hnumbers name (hkept name hname)⟩
  exact (runAll_constant hf hquotient).trans (hrun rest)

/-- Splitting off several axes gives a number for each of them and loses none. -/
theorem exists_runAll_splitAxes_of_number {running : String} {axes : List Nat}
    {stride : Nat → Expr} (hf : f.returned = none) (hrunning : f.HasNumber running)
    (hstride : ∀ axis ∈ axes, ∃ d : Int, d ≠ 0 ∧
      ∀ locals, (stride axis).eval s calls locals = some (.int d)) :
    ∃ g : Frame, (∀ rest, Stmt.runAll s calls f
        (axes.flatMap (fun axis => splitAxis running axis (stride axis)) ++ rest) =
        Stmt.runAll s calls g rest) ∧
      g.returned = none ∧ g.writes = f.writes ∧ (∀ axis ∈ axes, g.HasNumber (coordName axis)) ∧
      ∀ name, f.HasNumber name → g.HasNumber name := by
  induction axes generalizing f with
  | nil => exact ⟨f, fun _ => rfl, hf, rfl, by simp, fun _ h => h⟩
  | cons axis axes ih =>
    rw [List.forall_mem_cons] at hstride
    rcases hstride.1 with ⟨d, hd, hfirst⟩
    rcases exists_runAll_splitAxis_of_number hf hrunning hfirst hd with
      ⟨g, hrun, hreturned, hwrites, hcoord, hkept⟩
    rcases ih hreturned (hkept running hrunning) hstride.2 with
      ⟨final, hfinal, hreturnedFinal, hwritesFinal, hcoords, hkeptFinal⟩
    refine ⟨final, fun rest => ?_, hreturnedFinal, hwritesFinal.trans hwrites,
      List.forall_mem_cons.mpr ⟨hkeptFinal _ hcoord, hcoords⟩,
      fun name hname => hkeptFinal name (hkept name hname)⟩
    rw [List.flatMap_cons, List.append_assoc, hrun, hfinal]

/-- Every index has coordinates if no stride is zero. -/
theorem exists_apply_coordsFromIndexFunction {a : Arithmetic} (n : Int)
    (hstrides : s.uniforms "outShapeStrides" = some (.ofCounts a (Shape.outerStrides shape)))
    (hnonzero : ∀ stride ∈ Shape.outerStrides shape, a.settle (stride : Nat) ≠ 0)
    (hfour : shape.length ≤ 4) :
    ∃ v : Value, v.IsCoords shape.length ∧
      (coordsFromIndexFunction shape.length).apply s calls [.int n] = some ⟨some v, []⟩ := by
  have hindex : (Expr.ident "index").eval s calls [("index", .int n)] = some (.int n) := by
    simp [eval_ident]
  by_cases hone : shape.length ≤ 1
  · refine ⟨.int n, .of_int n hone, apply_of_ret (e := .ident "index") ?_ rfl hindex⟩
    simp [coordsFromIndexFunction, hone]
  · let f : Frame := Frame.declare { locals := [("index", .int n)] } "remainder" (.int n)
    have hremainder : f.HasNumber "remainder" := ⟨n, by rw [Frame.lookup_declare, if_pos rfl]⟩
    have hstride : ∀ axis ∈ List.range (shape.length - 1), ∃ d : Int, d ≠ 0 ∧
        ∀ locals, (outStride shape.length axis).eval s calls locals = some (.int d) := by
      intro axis hmem
      have hlt : axis < (Shape.outerStrides shape).length := by
        rw [Shape.length_outerStrides]
        exact List.mem_range.mp hmem
      exact ⟨_, hnonzero _ (List.getElem_mem hlt), fun _ => eval_outStride_settle hstrides hfour hlt⟩
    rcases exists_runAll_splitAxes_of_number rfl hremainder hstride with
      ⟨g, hrun, -, hwrites, hcoords, hkept⟩
    have hparts : ∀ e ∈ coordLocals (shape.length - 1) ++ [.ident "remainder"],
        IsNumber s calls g.locals e := by
      intro e he
      rcases List.mem_append.mp he with hcoord | hlast
      · rcases List.mem_map.mp hcoord with ⟨axis, hmem, rfl⟩
        exact (hcoords axis hmem).isNumber
      · rw [List.mem_singleton.mp hlast]
        exact (hkept _ hremainder).isNumber
    rcases exists_evalIntegers hparts with ⟨ns, hns⟩
    have hlength : ns.length = shape.length := by
      rw [← hns.length_eq]
      simp [coordLocals]
      omega
    have hconstruct := eval_construct_integers hns (by omega)
      (hlength.trans (width_coords (by omega) hfour).symm)
    have hbody : Stmt.runAll s calls { locals := [("index", .int n)] }
        (coordsFromIndexFunction shape.length).body =
          some { g with returned := some (some (.integers ns)) } := by
      simp only [coordsFromIndexFunction, hone, ↓reduceIte, List.cons_append]
      rw [runAll_variable rfl hindex, hrun]
      exact runAll_ret hconstruct
    exact ⟨_, .of_integers hlength (by omega), apply_of_runAll rfl hbody rfl hwrites⟩

/-! ## Samplers -/

variable {k : Kernel} {o : Operand}

/-- Locals that hold integers in the place of coordinates. -/
abbrev signedBindings (ns : List Int) : Locals :=
  ((List.range ns.length).map coordName).zip (ns.map .int)

private theorem isNumber_signedBindings {ns : List Int} (h : ns.length ≤ Shape.maxRank) {axis : Nat}
    (haxis : axis < ns.length) :
    IsNumber s calls (signedBindings ns) (.ident (coordName axis)) := by
  refine ⟨ns[axis], (eval_ident _).trans (lookup_zip_of_nodup (nodup_coordNames h) ?_)⟩
  rw [List.mem_iff_getElem]
  exact ⟨axis, by simpa using haxis, by simp⟩

/-- Any integers have a flat index within an operand. -/
theorem isNumber_operandIndex (hn : WellNamed k) (hs : Supplies k s) (ho : o ∈ k.inputs)
    (hrank : o.rank ≤ Shape.maxRank) {earlier : Calls}
    (hcalls : ∀ f ∈ fixedHelpers k, earlier f.name = helperCalls k s f.name) {ns : List Int}
    (hlength : ns.length = o.rank) :
    IsNumber s earlier (signedBindings ns) (operandIndex o) := by
  have hcoord : ∀ axis < o.rank, IsNumber s earlier (signedBindings ns) (.ident (coordName axis)) :=
    fun axis haxis => isNumber_signedBindings (hlength ▸ hrank) (hlength ▸ haxis)
  unfold operandIndex
  split
  · exact isNumber_int 0
  · next hone => exact hcoord 0 (by omega)
  · next rank hzero hone =>
    have htwo : 2 ≤ o.rank := by
      have hne : o.rank ≠ 0 := hzero
      have hne' : o.rank ≠ 1 := hone
      omega
    have hmem : indexFromCoordsFunction o.rank ∈ fixedHelpers k :=
      indexFromCoordsFunction_mem (by omega) hrank
    rcases hn.exists_earlier (s := s) (List.mem_append_left _ (List.mem_append_left _ hmem)) with
      ⟨inner, hinner⟩
    have hnumbers : ∀ e ∈ coordLocals o.rank, IsNumber s earlier (signedBindings ns) e :=
      List.forall_mem_map.mpr fun axis haxis => hcoord axis (List.mem_range.mp haxis)
    rcases exists_evalIntegers hnumbers with ⟨ms, hms⟩
    have hwidth : ms.length = o.rank := by
      rw [← hms.length_eq]
      simp [coordLocals]
    have hcoords := eval_construct_integers hms (hwidth ▸ htwo)
      (hwidth.trans (width_coords htwo hrank).symm)
    have hshape : (Expr.uniform (shapeUniform o.name)).eval s earlier (signedBindings ns) =
        some (.ofCounts s.arithmetic o.shape) := (eval_uniform _).trans (hs.shapes o ho)
    rcases exists_apply_indexFromCoordsFunction (s := s) (.of_integers hwidth htwo)
      (.of_counts s.arithmetic o.shape) (by omega) hrank with ⟨n, happly⟩
    refine ⟨n, eval_call (evalAll_of_forall₂ (.cons hcoords (.cons hshape .nil))) ?_⟩
    exact (congrFun (hcalls _ hmem) _).trans ((hinner _).trans happly)

/-- An operand is read at any integers. -/
theorem exists_call_readAtCoords (hk : k.Acceptable) (hn : WellNamed k) (hs : Supplies k s)
    (ho : o ∈ k.inputs) {ns : List Int} (hlength : ns.length = o.rank) :
    ∃ v, helperCalls k s ("get" ++ capitalized o.name) (ns.map .int) = some ⟨some v, []⟩ := by
  have hrank := (hk.inputs o ho).rank_le
  rcases exists_earlier_readAtCoords hn hs ho hrank
    (by simpa using hlength : (ns.map Value.int).length = o.rank) with ⟨earlier, hearlier, hcall⟩
  rcases isNumber_operandIndex hn hs ho hrank hearlier hlength with ⟨n, hindex⟩
  rw [signedBindings, hlength] at hindex
  exact ⟨_, hcall n hindex⟩

/-- Setting one coordinate leaves coordinates. -/
theorem exists_assign?_axis {rank axis : Nat} {v : Value} (n : Int) (hfour : rank ≤ 4)
    (haxis : axis < rank) (hlookup : f.locals.lookup "coords" = some v) (hv : v.IsCoords rank) :
    ∃ w : Value, w.IsCoords rank ∧
      (if rank ≤ 1 then Expr.ident "coords" else axisOf (.ident "coords") axis).assign? s calls f
        (.int n) = f.replace? "coords" w := by
  by_cases hone : rank ≤ 1
  · refine ⟨.int n, .of_int n hone, ?_⟩
    rw [if_pos hone, Expr.assign?]
  · rcases hv.exists_integers (by omega) with ⟨ns, hlength, rfl⟩
    refine ⟨.integers (ns.set axis n), .of_integers (by simpa using hlength) (by omega), ?_⟩
    have hname := idxOf?_componentName axis (by omega)
    have hset : (Value.integers ns).setComponent? (componentName axis) (.int n) =
        some (.integers (ns.set axis n)) := by
      simp [Value.setComponent?, Value.integers, hname, hlength, haxis]
    rw [if_neg hone]
    simp [axisOf, Expr.assign?, hlookup, Value.atom?, hset]

/-- Pinning axes leaves coordinates. -/
theorem exists_runAll_pinAxes_of_coords {rank : Nat} {axes : List Nat} {v : Value} (hfour : rank ≤ 4)
    (haxes : ∀ axis ∈ axes, axis < rank) (hf : f.returned = none)
    (hlookup : f.locals.lookup "coords" = some v) (hv : v.IsCoords rank) :
    ∃ (g : Frame) (w : Value), (∀ rest, Stmt.runAll s calls f (pinAxes rank axes ++ rest) =
        Stmt.runAll s calls g rest) ∧
      g.writes = f.writes ∧ g.locals.lookup "coords" = some w ∧ w.IsCoords rank := by
  induction axes generalizing f v with
  | nil => exact ⟨f, v, fun _ => rfl, rfl, hlookup, hv⟩
  | cons axis axes ih =>
    rw [List.forall_mem_cons] at haxes
    rcases isNumber_int (s := s) 0 with ⟨n, hzero⟩
    rcases exists_assign?_axis n hfour haxes.1 hlookup hv with ⟨w, hw, hassign⟩
    rcases exists_runAll_assign hf hlookup hzero hassign with
      ⟨g, hrun, hreturned, hwrites, hafter⟩
    have hg : g.locals.lookup "coords" = some w := by rw [hafter, if_pos rfl]
    rcases ih haxes.2 hreturned hg hw with ⟨final, u, hfinal, hwritesFinal, hlookupFinal, hu⟩
    exact ⟨final, u, fun rest => (hrun _).trans (hfinal rest), hwritesFinal.trans hwrites,
      hlookupFinal, hu⟩

/-- The innermost coordinates of an output are numbers. -/
theorem isNumber_trailingCoords {outRank rank : Nat} {name : String} {v : Value}
    (hblock : (Expr.ident name).isBlock = false) (hlookup : locals.lookup name = some v)
    (hv : v.IsCoords outRank) (hle : rank ≤ outRank) (hfour : outRank ≤ 4) :
    ∀ e ∈ trailingCoords outRank rank (.ident name), IsNumber s calls locals e := by
  have hvalue : (Expr.ident name).eval s calls locals = some v := (eval_ident name).trans hlookup
  intro e he
  unfold trailingCoords at he
  split at he
  · next hone =>
    rw [List.mem_singleton.mp he]
    rcases hv.exists_int hone with ⟨n, rfl⟩
    exact ⟨n, hvalue⟩
  · next hone =>
    rcases List.mem_map.mp he with ⟨axis, hmem, rfl⟩
    rw [List.mem_range'_1] at hmem
    exact hv.isNumber_axisOf (by omega) hfour hblock hvalue (by omega)

private theorem length_trailingCoords {outRank rank : Nat} {e : Expr} (hpos : 1 ≤ rank)
    (hle : rank ≤ outRank) : (trailingCoords outRank rank e).length = rank := by
  unfold trailingCoords
  split
  · rw [List.length_singleton]
    omega
  · simp

/-- An operand that is read through its own coordinates is read at all coordinates of the output. -/
theorem exists_runAll_readThroughBroadcast (hk : k.Acceptable) (hn : WellNamed k)
    (hs : Supplies k s) (ho : o ∈ k.inputs) {earlier : Calls}
    (hcalls : ∀ args, earlier ("get" ++ capitalized o.name) args =
      helperCalls k s ("get" ++ capitalized o.name) args)
    (hpos : 1 ≤ o.rank) (hle : o.rank ≤ k.outRank) {v : Value} (hv : v.IsCoords k.outRank) :
    ∃ (final : Frame) (w : Value), Stmt.runAll s earlier { locals := [("coordsIn", v)] }
        (readThroughBroadcast k o) = some final ∧ final.writes = [] ∧
      final.returned = some (some w) := by
  let f : Frame := { locals := [("coordsIn", v)] }
  have hin : f.locals.lookup "coordsIn" = some v := by simp [f]
  -- The operand's own sampler returns wherever some local holds coordinates.
  have hread : ∀ (locals : Locals) (name : String) (u : Value),
      (Expr.ident name).isBlock = false → locals.lookup name = some u → u.IsCoords k.outRank →
      ∃ w, (Expr.call ("get" ++ capitalized o.name)
        (trailingCoords k.outRank o.rank (.ident name))).eval s earlier locals = some w := by
    intro locals name u hblock hlookup hu
    rcases exists_evalIntegers (isNumber_trailingCoords hblock hlookup hu hle hk.outRank_le) with
      ⟨ns, hns⟩
    have hlength : ns.length = o.rank := by
      rw [← hns.length_eq]
      exact length_trailingCoords hpos hle
    rcases exists_call_readAtCoords hk hn hs ho hlength with ⟨w, hw⟩
    exact ⟨w, eval_call hns.evalAll ((hcalls _).trans hw)⟩
  unfold readThroughBroadcast
  split
  · rcases hread f.locals "coordsIn" v rfl hin hv with ⟨w, hw⟩
    exact ⟨_, w, runAll_ret hw, rfl, rfl⟩
  · have haxes : ∀ axis ∈ Shape.stretchedAxes o.shape k.output.shape, axis < k.outRank :=
      fun axis haxis => Shape.lt_of_mem_stretchedAxes haxis
    let g := f.declare "coords" v
    have hg : g.locals.lookup "coords" = some v := by rw [Frame.lookup_declare, if_pos rfl]
    rcases exists_runAll_pinAxes_of_coords (s := s) hk.outRank_le haxes rfl hg hv with
      ⟨final, u, hrun, hwrites, hlookup, hu⟩
    rcases hread final.locals "coords" u rfl hlookup hu with ⟨w, hw⟩
    refine ⟨{ final with returned := some (some w) }, w, ?_, hwrites, rfl⟩
    rw [List.cons_append, runAll_variable rfl ((eval_ident _).trans hin)]
    exact (hrun _).trans (runAll_ret hw)

/-- An operand is read at all coordinates of the output, also outside of it. -/
theorem exists_call_readAtOutCoords (hk : k.Acceptable) (hn : WellNamed k) (hs : Supplies k s)
    (ho : o ∈ k.inputs) (hle : o.rank ≤ k.outRank) {v : Value} (hv : v.IsCoords k.outRank) :
    ∃ w, helperCalls k s ("get" ++ capitalized o.name ++ "AtOutCoords") [v] =
      some ⟨some w, []⟩ := by
  cases hshares : sharesIndices k o with
  | true =>
    rcases hn.exists_earlier (s := s)
      (mem_helpers_of_mem_fixedHelpers outputIndexFunction_mem) with ⟨inner, hinner⟩
    rcases exists_apply_outputIndexFunction hs.strides hv hk.outRank_le with ⟨n, happly⟩
    exact ⟨_, call_readAtOutCoords_of_shares hn hs ho hle hshares ((hinner _).trans happly)⟩
  | false =>
    by_cases hzero : o.rank = 0
    · have hlengthNil : ([] : List Int).length = o.rank := hzero.symm
      rcases exists_call_readAtCoords hk hn hs ho hlengthNil with ⟨w, hw⟩
      exact ⟨w, call_readAtOutCoords_of_rank_zero hn ho hle hshares hzero hw⟩
    · rcases exists_earlier_readAtOutCoords (s := s) hn ho hle hshares hzero with
        ⟨earlier, hown, hcall⟩
      rcases exists_runAll_readThroughBroadcast hk hn hs ho hown (by omega) hle hv with
        ⟨final, w, hrun, hwrites, hreturned⟩
      exact ⟨w, hcall v w final hrun hreturned hwrites⟩

/-- An operand is read at every index of the output, also outside of it. -/
theorem exists_call_readAtOutputIndex (hk : k.Acceptable) (hn : WellNamed k) (hs : Supplies k s)
    (hnonzero : ∀ stride ∈ Shape.outerStrides k.output.shape,
      s.arithmetic.settle (stride : Nat) ≠ 0)
    (ho : o ∈ k.inputs) (hle : o.rank ≤ k.outRank) (unit : Int) :
    ∃ w, helperCalls k s ("get" ++ capitalized o.name ++ "ByOutputIndex") [.int unit] =
      some ⟨some w, []⟩ := by
  cases hshares : sharesIndices k o with
  | true => exact ⟨_, call_readAtOutputIndex_of_shares hn hs ho hle hshares unit⟩
  | false =>
    rcases hn.exists_earlier (s := s)
      (mem_helpers_of_mem_fixedHelpers coordsFromIndexFunction_mem) with ⟨inner, hinner⟩
    rcases exists_apply_coordsFromIndexFunction (firstOf k s.arithmetic unit) hs.strides hnonzero
      hk.outRank_le with ⟨v, hv, happly⟩
    rcases exists_call_readAtOutCoords hk hn hs ho hle hv with ⟨w, hw⟩
    exact ⟨w, call_readAtOutputIndex_of_coords hn ho hle hshares ((hinner _).trans happly) hw⟩

end ComputeKernels.Shader
