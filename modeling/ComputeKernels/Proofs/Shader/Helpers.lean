import ComputeKernels.Program.ReadyMade
import ComputeKernels.Proofs.Shader.Indexing
import ComputeKernels.Proofs.Uniform.Block

/-!
# Helpers of a module

A module has a meaning only if it declares no name twice and hides no operand behind a local.  Its
helpers then find the extents and strides in the uniform block of a dispatch and the operands in their
storage arrays.  The samplers of an operand lead to each other, and finally to the load of one slot.

Main results:

- Theorem `supplies_of_contents`: the block of a dispatch holds what the helpers look for.
- Theorem `exists_earlier_readAtCoords`: at own coordinates the element of their flat index is read.
- Theorem `exists_earlier_readAtOutCoords`: at output coordinates an operand is read through its own.
- Theorem `call_readAtOutputIndex_of_coords`: at a flat index it is read at the coordinates of the index.
-/

namespace ComputeKernels.Shader

open ComputeKernels.Uniform

/-! ## Modules that have a meaning -/

/-- Names of parameters and locals that would hide a storage array. -/
def localNames : List String :=
  ["d0", "d1", "d2", "d3", "index", "globalIndex", "coordsIn", "uniforms", Kernel.outputName]

/-- No name is declared twice in the module of a kernel, and no operand is hidden. -/
structure WellNamed (k : Kernel) : Prop where
  members : ((uniformMembers k).map (·.name)).Nodup
  functions : ((helpers k).map (·.name)).Nodup
  operands : ∀ o ∈ k.inputs, o.name ∉ localNames

instance (k : Kernel) : Decidable (WellNamed k) :=
  decidable_of_iff (((uniformMembers k).map (·.name)).Nodup ∧ ((helpers k).map (·.name)).Nodup ∧
      ∀ o ∈ k.inputs, o.name ∉ localNames)
    ⟨fun ⟨hmembers, hfunctions, hoperands⟩ => ⟨hmembers, hfunctions, hoperands⟩,
      fun h => ⟨h.members, h.functions, h.operands⟩⟩

/-- What the helpers of a kernel mean. -/
abbrev helperCalls (k : Kernel) (s : Setting) : Calls := callsOf s (helpers k)

/-- Helpers that do not depend on the operands. -/
def fixedHelpers (k : Kernel) : List Function :=
  [isNanFunction, isNanVec4Function, floorDivFunction] ++
    helperRanks.map inBoundsFunction ++ helperRanks.map indexFromCoordsFunction ++
    [outputIndexFunction k.outRank, coordsFromIndexFunction k.outRank,
      globalIndexFunction k.program.workgroup, outputCoordsFunction k]

/-- Fixed helpers before the one that finds the coordinates of the invocation. -/
def indexHelpers (k : Kernel) : List Function :=
  [isNanFunction, isNanVec4Function, floorDivFunction] ++
    helperRanks.map inBoundsFunction ++ helperRanks.map indexFromCoordsFunction ++
    [outputIndexFunction k.outRank, coordsFromIndexFunction k.outRank,
      globalIndexFunction k.program.workgroup]

/-- The function for the coordinates of the invocation is the last of the fixed helpers. -/
theorem fixedHelpers_eq_concat (k : Kernel) :
    fixedHelpers k = indexHelpers k ++ [outputCoordsFunction k] :=
  rfl

/-- The helpers of a kernel are the fixed ones, those of its operands and those of its output. -/
theorem helpers_eq_append (k : Kernel) :
    helpers k = fixedHelpers k ++ k.inputs.flatMap (samplers k) ++ writers k :=
  rfl

variable {k : Kernel} {s : Setting} {o : Operand}

/-- A helper runs its body. -/
theorem WellNamed.exists_earlier (hn : WellNamed k) {f : Function} (hf : f ∈ helpers k) :
    ∃ earlier : Calls, ∀ args, helperCalls k s f.name args = f.apply s earlier args :=
  exists_apply_of_mem hn.functions hf

/-- A sampler runs its body, in which the index functions and the samplers before it have their
meaning. -/
theorem WellNamed.exists_earlier_sampler (hn : WellNamed k) (ho : o ∈ k.inputs) {f : Function}
    {before after : List Function} (hsplit : samplers k o = before ++ f :: after) :
    ∃ earlier : Calls, (∀ args, helperCalls k s f.name args = f.apply s earlier args) ∧
      ∀ h ∈ fixedHelpers k ++ before, earlier h.name = helperCalls k s h.name := by
  obtain ⟨first, last, hinputs⟩ := List.append_of_mem ho
  have hhelpers : helpers k = (fixedHelpers k ++ first.flatMap (samplers k) ++ before) ++
      f :: (after ++ last.flatMap (samplers k) ++ writers k) := by
    rw [helpers_eq_append, hinputs, List.flatMap_append, List.flatMap_cons, hsplit]
    simp [List.append_assoc]
  have hnames := hn.functions
  rw [hhelpers] at hnames
  rcases exists_calls_of_split (s := s) hnames with ⟨earlier, hcall, hearlier⟩
  rw [← hhelpers] at hcall hearlier
  refine ⟨earlier, hcall, fun h hh => hearlier h ?_⟩
  rcases List.mem_append.mp hh with hfixed | hbefore
  · exact List.mem_append_left _ (List.mem_append_left _ hfixed)
  · exact List.mem_append_right _ hbefore

/-! ## The uniform block -/

/-- What the samplers and writers of a kernel find outside their code: the extents and strides as its
arithmetic reads them, and the storage array of every operand and of the output. -/
structure Supplies (k : Kernel) (s : Setting) : Prop where
  strides : s.uniforms "outShapeStrides" =
    some (.ofCounts s.arithmetic (Shape.outerStrides k.output.shape))
  shapes : ∀ o ∈ k.inputs, s.uniforms (shapeUniform o.name) = some (.ofCounts s.arithmetic o.shape)
  arrays : ∀ o ∈ k.inputs, o.name ∈ s.arrays
  output : Kernel.outputName ∈ s.arrays

/-- What the samplers and writers of a kernel find outside their code: exact extents and strides, and
the storage array of every operand and of the output. -/
structure Serves (k : Kernel) (s : Setting) : Prop where
  exact : s.arithmetic = .exact
  strides : HoldsStrides s k.output.shape
  shapes : ∀ o ∈ k.inputs, s.uniforms (shapeUniform o.name) = some (.ofCounts .exact o.shape)
  arrays : ∀ o ∈ k.inputs, o.name ∈ s.arrays
  output : Kernel.outputName ∈ s.arrays

private theorem Supplies.serves (h : Supplies k s) (hs : s.arithmetic = .exact) : Serves k s where
  exact := hs
  strides := by
    rw [HoldsStrides, ← hs]
    exact h.strides
  shapes := fun o ho => hs ▸ h.shapes o ho
  arrays := h.arrays
  output := h.output

/-- A setting that serves a kernel supplies it. -/
theorem Serves.supplies (h : Serves k s) : Supplies k s where
  strides := by
    rw [h.exact]
    exact h.strides
  shapes := fun o ho => h.exact ▸ h.shapes o ho
  arrays := h.arrays
  output := h.output

/-- The members of the block of a dispatch have the values of their contents. -/
theorem uniforms_eq_of_mem {code : String} {a : Arithmetic} {grid : Grid} {extra : List Field}
    {contents : List Content} {i : Invocation} (hn : WellNamed k)
    (hcontents : k.program.uniformContents k.inputs k.output.shape grid extra = .ok contents)
    {m : UniformMember} {c : Content} (hmem : (m, c) ∈ memberContents k grid extra) :
    ((moduleWith k code).setting a contents i).uniforms m.name = some (contentValue a c) := by
  rcases uniformContents_eq_ok hcontents with ⟨rfl, hextra⟩
  apply blockValues_of_mem hn.members
  rw [uniformMembers_eq grid hextra.length_eq, List.zip_map']
  simpa using hmem

/-- The block of a dispatch holds the extents and strides. -/
theorem supplies_of_contents (code : String) (a : Arithmetic) {grid : Grid} {extra : List Field}
    {contents : List Content} (i : Invocation) (hn : WellNamed k)
    (hcontents : k.program.uniformContents k.inputs k.output.shape grid extra = .ok contents) :
    Supplies k ((moduleWith k code).setting a contents i) := by
  refine ⟨?_, fun o ho => ?_, fun o ho => ?_, List.mem_cons_self⟩
  · exact uniforms_eq_of_mem (m := ⟨"outShapeStrides", .coords (k.outRank - 1)⟩)
      (c := .counts (Shape.outerStrides k.output.shape)) hn hcontents (by simp [memberContents])
  · have hmem : (⟨shapeUniform o.name, .coords o.rank⟩, .counts o.shape) ∈
        memberContents k grid extra := by
      simp only [memberContents, List.mem_append, List.mem_map]
      exact .inl (.inl (.inl (.inl (.inr ⟨o, ho, rfl⟩))))
    exact uniforms_eq_of_mem hn hcontents hmem
  · change o.name ∈ (storageBindings k).map (·.name)
    simp only [storageBindings, List.map_cons, List.mem_cons, List.mem_map]
    obtain ⟨position, hposition, rfl⟩ := List.mem_iff_getElem.mp ho
    exact .inr ⟨_, List.mem_mapIdx.mpr ⟨position, hposition, rfl⟩, rfl⟩

/-- The setting of a module from the contents of its block serves its kernel. -/
theorem serves_of_contents (code : String) {grid : Grid} {extra : List Field}
    {contents : List Content} (i : Invocation) (hn : WellNamed k)
    (hcontents : k.program.uniformContents k.inputs k.output.shape grid extra = .ok contents) :
    Serves k ((moduleWith k code).setting .exact contents i) :=
  (supplies_of_contents code .exact i hn hcontents).serves rfl

/-! ## Loads -/

private theorem not_hidden (hn : WellNamed k) (ho : o ∈ k.inputs) {locals : Locals}
    (h : ∀ p ∈ locals, p.1 ∈ localNames) : locals.lookup o.name = none := by
  rw [List.lookup_eq_none_iff]
  intro p hp
  rw [bne_iff_ne]
  intro heq
  exact hn.operands o ho (heq ▸ h p hp)

variable {calls : Calls} {locals : Locals}

/-- The slot in which the code looks for an element. -/
def slotOf (k : Kernel) (a : Arithmetic) (element : Int) : Int :=
  if k.isVec4 then a.settle (element.tdiv 4) else element

/-- On exact numbers a unit is the quotient of its element by the lanes. -/
theorem slotOf_exact (k : Kernel) (element : Nat) :
    slotOf k .exact element = (element / k.program.lanes.width : Nat) := by
  unfold slotOf Kernel.isVec4
  cases k.program.lanes with
  | scalar => simp [Lanes.width]
  | vec4 => rfl

/-- The element with which a unit starts, as the code finds it. -/
def firstOf (k : Kernel) (a : Arithmetic) (unit : Int) : Int :=
  if k.isVec4 then a.settle (unit * 4) else unit

/-- On exact numbers the first element of a unit is its product with the lanes. -/
theorem firstOf_exact (k : Kernel) (unit : Nat) :
    firstOf k .exact unit = (unit * k.program.lanes.width : Nat) := by
  unfold firstOf Kernel.isVec4
  cases k.program.lanes with
  | scalar => simp [Lanes.width]
  | vec4 => rfl

private theorem eval_four : (Expr.int 4).eval s calls locals = some (.int 4) := by
  have hfour : s.arithmetic.settle (4 : Nat) = 4 := settle_of_lt s.arithmetic (by decide)
  rw [Expr.eval]
  exact congrArg (fun n => some (Value.int n)) hfour

/-- A load of an element takes the slot that holds it. -/
theorem eval_loadElement (hs : Supplies k s) (ho : o ∈ k.inputs)
    (hvisible : locals.lookup o.name = none) {element : Expr} {n : Int}
    (helement : element.eval s calls locals = some (.int n)) :
    (loadElement k o.name element).eval s calls locals =
      some (.converted (unitOf k .f32) (.slot o.name (slotOf k s.arithmetic n))) := by
  have hposition : (if k.isVec4 then Expr.binary .div element (.int 4) else element).eval s calls
      locals = some (.int (slotOf k s.arithmetic n)) := by
    unfold slotOf
    split
    · exact eval_binary helement eval_four rfl
    · exact helement
  exact eval_load hvisible (hs.arrays o ho) hposition

/-- What a sampler returns that reads a slot. -/
abbrev unitAt (k : Kernel) (o : Operand) (position : Int) : Outcome :=
  ⟨some (.converted (unitOf k .f32) (.slot o.name position)), []⟩

/-- What a sampler returns that reads the unit of an element. -/
abbrev unitWith (k : Kernel) (o : Operand) (element : Nat) : Outcome :=
  ⟨some (.converted (unitOf k .f32) (.slot o.name (element / k.program.lanes.width : Nat))), []⟩

/-! ## From one helper to the next -/

/-- The fixed helpers have an index function for every rank. -/
theorem indexFromCoordsFunction_mem {rank : Nat} (hpos : 1 ≤ rank) (hrank : rank ≤ Shape.maxRank) :
    indexFromCoordsFunction rank ∈ fixedHelpers k := by
  have hmem : rank ∈ helperRanks := by
    rw [helperRanks, List.mem_range']
    exact ⟨rank - 1, by omega, by omega⟩
  simp only [fixedHelpers, List.mem_append]
  exact .inl (.inr (List.mem_map_of_mem hmem))

/-- The fixed helpers have the index function of the output. -/
theorem outputIndexFunction_mem : outputIndexFunction k.outRank ∈ fixedHelpers k := by
  simp [fixedHelpers]

/-- The fixed helpers have the coordinates of an output index. -/
theorem coordsFromIndexFunction_mem : coordsFromIndexFunction k.outRank ∈ fixedHelpers k := by
  simp [fixedHelpers]

/-- The fixed helpers have the number of the invocation. -/
theorem globalIndexFunction_mem : globalIndexFunction k.program.workgroup ∈ fixedHelpers k := by
  simp [fixedHelpers]

/-- Fixed helpers are helpers of the kernel. -/
theorem mem_helpers_of_mem_fixedHelpers {f : Function} (h : f ∈ fixedHelpers k) : f ∈ helpers k :=
  List.mem_append_left _ (List.mem_append_left _ h)

/-- The names of coordinates are names of locals. -/
theorem coordName_mem_localNames : ∀ axis < Shape.maxRank, coordName axis ∈ localNames := by
  decide

/-- Coordinates of different axes have different names. -/
theorem nodup_coordNames {rank : Nat} (h : rank ≤ Shape.maxRank) :
    ((List.range rank).map coordName).Nodup := by
  apply List.Nodup.map_on _ List.nodup_range
  intro i hi j hj heq
  rw [List.mem_range] at hi hj
  by_contra hne
  exact coordName_ne_coordName i (by omega) j (by omega) hne heq

/-- Locals that are named for axes hide no operand. -/
theorem fst_mem_localNames {rank : Nat} {vs : List Value} (h : rank ≤ Shape.maxRank) :
    ∀ p ∈ ((List.range rank).map coordName).zip vs, p.1 ∈ localNames := by
  intro p hp
  rcases List.mem_map.mp (List.of_mem_zip hp).1 with ⟨axis, haxis, hname⟩
  rw [← hname]
  exact coordName_mem_localNames axis (Nat.lt_of_lt_of_le (List.mem_range.mp haxis) h)

/-- The sampler at own coordinates reads the element of their flat index. -/
theorem exists_earlier_readAtCoords (hn : WellNamed k) (hs : Supplies k s) (ho : o ∈ k.inputs)
    (hrank : o.rank ≤ Shape.maxRank) {vs : List Value} (hlength : vs.length = o.rank) :
    ∃ earlier : Calls, (∀ f ∈ fixedHelpers k, earlier f.name = helperCalls k s f.name) ∧
      ∀ n, (operandIndex o).eval s earlier (((List.range o.rank).map coordName).zip vs) =
          some (.int n) →
        helperCalls k s ("get" ++ capitalized o.name) vs =
          some (unitAt k o (slotOf k s.arithmetic n)) := by
  have hsplit : samplers k o = [] ++ readAtCoords k o :: (samplers k o).tail := rfl
  rcases hn.exists_earlier_sampler (s := s) ho hsplit with ⟨earlier, hcall, hearlier⟩
  refine ⟨earlier, fun f hf => hearlier f (List.mem_append_left _ hf), fun n hindex => ?_⟩
  have hbindings : ((readAtCoords k o).params.map (·.name)).zip vs =
      ((List.range o.rank).map coordName).zip vs := by
    simp [readAtCoords, coordParams, Function.comp_def]
  have hvisible : List.lookup o.name (((List.range o.rank).map coordName).zip vs) = none :=
    not_hidden hn ho (fst_mem_localNames hrank)
  refine (hcall _).trans (apply_of_ret rfl (by simp [readAtCoords, coordParams, hlength]) ?_)
  rw [hbindings]
  by_cases hzero : o.rank = 0
  · rw [if_pos hzero]
    have hint : operandIndex o = .int 0 := by simp [operandIndex, hzero]
    have hkept : s.arithmetic.settle 0 = 0 := settle_of_lt s.arithmetic (n := 0) (by decide)
    have hn : n = 0 := by
      rw [hint, Expr.eval, hkept] at hindex
      simpa using hindex.symm
    have hslot : slotOf k s.arithmetic n = n := by simp [slotOf, hn, hkept]
    rw [hslot]
    exact eval_load hvisible (hs.arrays o ho) (hint ▸ hindex)
  · rw [if_neg hzero]
    exact eval_loadElement hs ho hvisible hindex

/-- An operand that shares the indices of the output is read at the index of the coordinates. -/
theorem call_readAtOutCoords_of_shares (hn : WellNamed k) (hs : Supplies k s) (ho : o ∈ k.inputs)
    (hle : o.rank ≤ k.outRank) (hshares : sharesIndices k o = true) {v : Value} {n : Int}
    (hindex : helperCalls k s "getOutputIndexFromCoords" [v] = some ⟨some (.int n), []⟩) :
    helperCalls k s ("get" ++ capitalized o.name ++ "AtOutCoords") [v] =
      some (unitAt k o (slotOf k s.arithmetic n)) := by
  have hsplit : samplers k o = [readAtCoords k o, readAtIndex k o] ++
      readAtOutCoords k o :: [readAtOutputIndex k o] := by
    simp [samplers, hle]
  rcases hn.exists_earlier_sampler (s := s) ho hsplit with ⟨earlier, hcall, hearlier⟩
  have hbody : (readAtOutCoords k o).body = [.ret (some (loadElement k o.name
      (.call "getOutputIndexFromCoords" [.ident "coordsIn"])))] := by
    simp [readAtOutCoords, hshares]
  have hin : (Expr.ident "coordsIn").eval s earlier [("coordsIn", v)] = some v := by
    simp [eval_ident]
  have hname := hearlier _ (List.mem_append_left _ outputIndexFunction_mem)
  have hvalue : (Expr.call "getOutputIndexFromCoords" [.ident "coordsIn"]).eval s earlier
      [("coordsIn", v)] = some (.int n) :=
    eval_call (evalAll_of_forall₂ (.cons hin .nil)) ((congrFun hname _).trans hindex)
  have hvisible : List.lookup o.name [("coordsIn", v)] = none :=
    not_hidden hn ho (by simp [localNames])
  exact (hcall _).trans (apply_of_ret hbody rfl (eval_loadElement hs ho hvisible hvalue))

/-- An operand without axes is read alike at all coordinates of the output. -/
theorem call_readAtOutCoords_of_rank_zero (hn : WellNamed k) (ho : o ∈ k.inputs)
    (hle : o.rank ≤ k.outRank) (hshares : sharesIndices k o = false) (hzero : o.rank = 0)
    {v w : Value}
    (hown : helperCalls k s ("get" ++ capitalized o.name) [] = some ⟨some w, []⟩) :
    helperCalls k s ("get" ++ capitalized o.name ++ "AtOutCoords") [v] = some ⟨some w, []⟩ := by
  have hsplit : samplers k o = [readAtCoords k o, readAtIndex k o] ++
      readAtOutCoords k o :: [readAtOutputIndex k o] := by
    simp [samplers, hle]
  rcases hn.exists_earlier_sampler (s := s) ho hsplit with ⟨earlier, hcall, hearlier⟩
  have hbody : (readAtOutCoords k o).body =
      [.ret (some (.call ("get" ++ capitalized o.name) []))] := by
    simp [readAtOutCoords, hshares, hzero]
  have hname := hearlier (readAtCoords k o) (by simp)
  exact (hcall _).trans (apply_of_ret hbody rfl
    (eval_call (evalAll_of_forall₂ .nil) ((congrFun hname _).trans hown)))

/-- Any other operand is read through its own coordinates. -/
theorem exists_earlier_readAtOutCoords (hn : WellNamed k) (ho : o ∈ k.inputs)
    (hle : o.rank ≤ k.outRank) (hshares : sharesIndices k o = false) (hpos : o.rank ≠ 0) :
    ∃ earlier : Calls, (∀ args, earlier ("get" ++ capitalized o.name) args =
        helperCalls k s ("get" ++ capitalized o.name) args) ∧
      ∀ (v w : Value) (final : Frame), Stmt.runAll s earlier { locals := [("coordsIn", v)] }
          (readThroughBroadcast k o) = some final →
        final.returned = some (some w) → final.writes = [] →
        helperCalls k s ("get" ++ capitalized o.name ++ "AtOutCoords") [v] =
          some ⟨some w, []⟩ := by
  have hsplit : samplers k o = [readAtCoords k o, readAtIndex k o] ++
      readAtOutCoords k o :: [readAtOutputIndex k o] := by
    simp [samplers, hle]
  rcases hn.exists_earlier_sampler (s := s) ho hsplit with ⟨earlier, hcall, hearlier⟩
  refine ⟨earlier, fun args => congrFun (hearlier (readAtCoords k o) (by simp)) args,
    fun v w final hrun hreturned hwrites => ?_⟩
  have hbody : (readAtOutCoords k o).body = readThroughBroadcast k o := by
    simp [readAtOutCoords, hshares, hpos]
  rw [← hbody] at hrun
  exact (hcall _).trans (apply_of_runAll rfl hrun hreturned hwrites)

/-- An operand that shares the indices of the output is read at the slot of the index. -/
theorem call_readAtOutputIndex_of_shares (hn : WellNamed k) (hs : Supplies k s) (ho : o ∈ k.inputs)
    (hle : o.rank ≤ k.outRank) (hshares : sharesIndices k o = true) (unit : Int) :
    helperCalls k s ("get" ++ capitalized o.name ++ "ByOutputIndex") [.int unit] =
      some (unitAt k o unit) := by
  have hsplit : samplers k o = [readAtCoords k o, readAtIndex k o, readAtOutCoords k o] ++
      readAtOutputIndex k o :: [] := by
    simp [samplers, hle]
  rcases hn.exists_earlier_sampler (s := s) ho hsplit with ⟨earlier, hcall, -⟩
  have hbody : (readAtOutputIndex k o).body =
      [.ret (some (loadUnit k o.name (.ident "globalIndex")))] := by
    simp [readAtOutputIndex, hshares]
  have hglobal : (Expr.ident "globalIndex").eval s earlier [("globalIndex", .int unit)] =
      some (.int unit) := by simp [eval_ident]
  have hvisible : List.lookup o.name [("globalIndex", Value.int unit)] = none :=
    not_hidden hn ho (by simp [localNames])
  exact (hcall _).trans (apply_of_ret hbody rfl (eval_load hvisible (hs.arrays o ho) hglobal))

/-- Any other operand is read at the coordinates of the first element of a unit. -/
theorem call_readAtOutputIndex_of_coords (hn : WellNamed k) (ho : o ∈ k.inputs)
    (hle : o.rank ≤ k.outRank) (hshares : sharesIndices k o = false) {unit : Int} {v w : Value}
    (hcoords : helperCalls k s "getCoordsFromIndex" [.int (firstOf k s.arithmetic unit)] =
      some ⟨some v, []⟩)
    (hread : helperCalls k s ("get" ++ capitalized o.name ++ "AtOutCoords") [v] =
      some ⟨some w, []⟩) :
    helperCalls k s ("get" ++ capitalized o.name ++ "ByOutputIndex") [.int unit] =
      some ⟨some w, []⟩ := by
  have hsplit : samplers k o = [readAtCoords k o, readAtIndex k o, readAtOutCoords k o] ++
      readAtOutputIndex k o :: [] := by
    simp [samplers, hle]
  rcases hn.exists_earlier_sampler (s := s) ho hsplit with ⟨earlier, hcall, hearlier⟩
  have hbody : (readAtOutputIndex k o).body =
      [.ret (some (.call ("get" ++ capitalized o.name ++ "AtOutCoords")
        [.call "getCoordsFromIndex" [if k.isVec4 then .binary .mul (.ident "globalIndex") (.int 4)
          else .ident "globalIndex"]]))] := by
    simp [readAtOutputIndex, hshares]
  have hglobal : (Expr.ident "globalIndex").eval s earlier [("globalIndex", .int unit)] =
      some (.int unit) := by simp [eval_ident]
  have helement : (if k.isVec4 then Expr.binary .mul (.ident "globalIndex") (.int 4)
      else .ident "globalIndex").eval s earlier [("globalIndex", .int unit)] =
        some (.int (firstOf k s.arithmetic unit)) := by
    unfold firstOf
    split
    · exact eval_binary hglobal eval_four rfl
    · exact hglobal
  have hname := hearlier _ (List.mem_append_left _ coordsFromIndexFunction_mem)
  have hvalue := eval_call (evalAll_of_forall₂ (.cons helement .nil))
    ((congrFun hname _).trans hcoords)
  refine (hcall _).trans (apply_of_ret hbody rfl ?_)
  exact eval_call (evalAll_of_forall₂ (.cons hvalue .nil))
    ((congrFun (hearlier (readAtOutCoords k o) (by simp)) _).trans hread)

end ComputeKernels.Shader
