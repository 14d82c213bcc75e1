import ComputeKernels.Buffer.Size
import ComputeKernels.Program.Uniforms
import ComputeKernels.Proofs.Program.Acceptance
import ComputeKernels.Proofs.Uniform.Placement
import ComputeKernels.Shader.Assembly

/-!
# The declared uniform block

Generated code declares its uniforms as one block, whose members both shading languages place by the
same rules: a member starts at the next multiple of its alignment, and the block ends at a multiple
of its greatest alignment.  The packed fields of a dispatch are the contents of that block, member
by member.

Main results:

- Theorem `blockEnd_eq`: padded fields reach exactly as far as the members they fit.
- Theorem `offsets_of_split`: where the rules put a member behind others.
- Theorem `packed_fields_fill_the_block`: the packed fields of an accepted kernel lie where the members
  of its block are declared.
-/

namespace ComputeKernels.Shader

open ComputeKernels.Uniform

/-! ## Rules for blocks -/

/-- Least multiple of a positive number that is not below another. -/
def roundUp (multiple n : Nat) : Nat := (n + multiple - 1) / multiple * multiple

/-- Bytes to whose multiples a type of one to four components is aligned. -/
def ShaderType.blockAlignment (t : ShaderType) : Nat :=
  match t.width with
  | 1 => 4
  | 2 => 8
  | _ => 16

/-- Bytes of a type of one to four components. -/
def ShaderType.blockSize (t : ShaderType) : Nat := 4 * t.width

/-- Byte offsets of members when the bytes before an offset are taken. -/
def offsetsFrom (free : Nat) : List UniformMember → List Nat
  | [] => []
  | m :: ms =>
    let start := roundUp m.ty.blockAlignment free
    start :: offsetsFrom (start + m.ty.blockSize) ms

/-- Byte offsets of the members of a block. -/
def offsets (members : List UniformMember) : List Nat := offsetsFrom 0 members

/-- First byte after members that are placed from an offset on. -/
def blockEnd (free : Nat) (members : List UniformMember) : Nat :=
  members.foldl (fun free m => roundUp m.ty.blockAlignment free + m.ty.blockSize) free

/-- Alignment of a block: the greatest among its members. -/
def blockAlignment (members : List UniformMember) : Nat :=
  members.foldr (fun m most => max m.ty.blockAlignment most) 1

/-- Bytes of a block. -/
def blockSize (members : List UniformMember) : Nat :=
  roundUp (blockAlignment members) (blockEnd 0 members)

/-! ## Rounding up -/

private theorem roundUp_eq_alignUp {multiple : Nat} (h : 0 < multiple) (n : Nat) :
    roundUp multiple n = alignUp multiple n := by
  obtain ⟨gap, hgap⟩ : ∃ gap, alignUp multiple n = multiple * gap := dvd_alignUp h n
  have hlt := gapTo_lt h n
  unfold roundUp
  rw [hgap]
  have hquotient : (n + multiple - 1) / multiple = gap := by
    have hsum : multiple * gap = n + gapTo multiple n := hgap.symm
    apply Nat.div_eq_of_lt_le
    · rw [Nat.mul_comm]
      omega
    · rw [Nat.succ_mul, Nat.mul_comm]
      omega
  rw [hquotient, Nat.mul_comm]

private theorem le_roundUp {multiple : Nat} (h : 0 < multiple) (n : Nat) :
    n ≤ roundUp multiple n := by
  rw [roundUp_eq_alignUp h]
  exact Nat.le_add_right _ _

private theorem roundUp_lt {multiple : Nat} (h : 0 < multiple) (n : Nat) :
    roundUp multiple n < n + multiple := by
  rw [roundUp_eq_alignUp h]
  exact Nat.add_lt_add_left (gapTo_lt h n) n

private theorem dvd_roundUp {multiple : Nat} (h : 0 < multiple) (n : Nat) :
    multiple ∣ roundUp multiple n := by
  rw [roundUp_eq_alignUp h]
  exact dvd_alignUp h n

/-- Multiples are rounded to themselves and no further. -/
theorem roundUp_le {multiple n bound : Nat} (h : 0 < multiple) (hle : n ≤ bound)
    (hbound : multiple ∣ bound) : roundUp multiple n ≤ bound := by
  rcases dvd_roundUp h n with ⟨a, ha⟩
  rcases hbound with ⟨b, rfl⟩
  have hlt := roundUp_lt h n
  rw [ha] at hlt ⊢
  apply Nat.mul_le_mul_left
  by_contra hba
  have : multiple * (b + 1) ≤ multiple * a := Nat.mul_le_mul_left _ (by omega)
  rw [Nat.mul_add, Nat.mul_one] at this
  omega

/-- Rounding to a divisor first does not change the result. -/
theorem roundUp_roundUp {small large : Nat} (hsmall : 0 < small) (hlarge : 0 < large)
    (hdvd : small ∣ large) (n : Nat) : roundUp large (roundUp small n) = roundUp large n := by
  have hn : roundUp small n ≤ roundUp large n :=
    roundUp_le hsmall (le_roundUp hlarge n) (Nat.dvd_trans hdvd (dvd_roundUp hlarge n))
  apply Nat.le_antisymm
  · exact roundUp_le hlarge hn (dvd_roundUp hlarge n)
  · exact roundUp_le hlarge (Nat.le_trans (le_roundUp hsmall n) (le_roundUp hlarge _))
      (dvd_roundUp hlarge _)

private theorem uniformSize_eq {n : Nat} (h : 0 < n) : Buffer.uniformSize n = roundUp 16 n := by
  rw [Buffer.uniformSize, ← roundUp_eq_alignUp (by decide)]
  unfold roundUp
  omega

/-! ## Fields that fit members -/

/-- A field has the scalar kind and the number of components that a member declares; an empty field
counts as one component and stays of its kind when it is stored. -/
structure Fits (f : Field) (m : UniformMember) : Prop where
  kind : kindScalar f.kind = m.ty.component
  storedKind : f.stored.kind = f.kind
  width : max f.width 1 = m.ty.width
  width_le : m.ty.width ≤ 4

private theorem Fits.stored_width {f : Field} {m : UniformMember} (h : Fits f m) :
    f.stored.width = m.ty.width := by
  rw [Uniform.stored_width, h.width]

/-- The rules for blocks align a member to as many words as packing aligns its field. -/
theorem Fits.blockAlignment_eq {f : Field} {m : UniformMember} {aligned : Nat} (h : Fits f m)
    (haligned : alignment f.stored.width = .ok aligned) : m.ty.blockAlignment = 4 * aligned := by
  rw [h.stored_width] at haligned
  unfold ShaderType.blockAlignment
  generalize m.ty.width = width at haligned
  unfold alignment at haligned
  split at haligned <;> simp only [Except.ok.injEq, reduceCtorEq] at haligned <;> subst haligned <;>
    rfl

/-- A member starts where packing puts its field. -/
theorem Fits.roundUp_eq {f : Field} {m : UniformMember} {aligned : Nat} (h : Fits f m)
    (haligned : alignment f.stored.width = .ok aligned) (offset : Nat) :
    roundUp m.ty.blockAlignment (4 * offset) = 4 * (offset + gapTo aligned offset) := by
  have hpos := alignment_pos haligned
  rw [h.blockAlignment_eq haligned, roundUp_eq_alignUp (by omega), alignUp, gapTo_mul,
    Nat.mul_add]

/-- Padded fields reach exactly as far as the members they fit. -/
theorem blockEnd_eq {fields padded : List Field} {members : List UniformMember} {offset : Nat}
    (hfits : List.Forall₂ Fits fields members) (h : padFrom offset fields = .ok padded) :
    blockEnd (4 * offset) members = 4 * (offset + totalWidth padded) := by
  induction hfits generalizing offset padded with
  | nil =>
    obtain rfl : [] = padded := by simpa [padFrom] using h
    rfl
  | @cons f m fields members hfit hrest ih =>
    rcases padFrom_cons_eq_ok_iff.mp h with ⟨aligned, tail, haligned, htail, rfl⟩
    have hstart := hfit.roundUp_eq haligned offset
    have hfield : roundUp m.ty.blockAlignment (4 * offset) + m.ty.blockSize =
        4 * (offset + gapTo aligned offset + f.stored.width) := by
      rw [hstart, ShaderType.blockSize, hfit.stored_width]
      omega
    change blockEnd (roundUp m.ty.blockAlignment (4 * offset) + m.ty.blockSize) members = _
    rw [hfield, ih htail]
    simp only [totalWidth_append, totalWidth_fillers, totalWidth_cons]
    omega

/-! ## Places of members -/

/-- A member behind others starts at its alignment after their end. -/
theorem offsets_of_split (free : Nat) (before after : List UniformMember) (m : UniformMember) :
    (offsetsFrom free (before ++ m :: after))[before.length]? =
      some (roundUp m.ty.blockAlignment (blockEnd free before)) := by
  induction before generalizing free with
  | nil => simp [offsetsFrom, blockEnd]
  | cons b before ih => simpa [offsetsFrom, blockEnd] using ih _

/-- The alignment of a block divides sixteen. -/
theorem blockAlignment_dvd (members : List UniformMember) : blockAlignment members ∣ 16 := by
  have hcases : blockAlignment members = 1 ∨ blockAlignment members = 4 ∨
      blockAlignment members = 8 ∨ blockAlignment members = 16 := by
    induction members with
    | nil => exact .inl rfl
    | cons m ms ih =>
      have hm : m.ty.blockAlignment = 4 ∨ m.ty.blockAlignment = 8 ∨ m.ty.blockAlignment = 16 := by
        unfold ShaderType.blockAlignment
        split <;> simp
      have hmax : blockAlignment (m :: ms) = max m.ty.blockAlignment (blockAlignment ms) := rfl
      omega
  rcases hcases with h | h | h | h <;> rw [h] <;> decide

/-- Rounding a block up to sixteen bytes rounds its end. -/
theorem roundUp_blockSize (members : List UniformMember) :
    roundUp 16 (blockSize members) = roundUp 16 (blockEnd 0 members) := by
  have hdvd := blockAlignment_dvd members
  exact roundUp_roundUp (Nat.pos_of_dvd_of_pos hdvd (by decide)) (by decide) hdvd _

/-! ## The block of a kernel -/

/-- Members of the block of a kernel, each with what it is to hold in a dispatch. -/
def memberContents (k : Kernel) (grid : Grid) (extra : List Field) :
    List (UniformMember × Content) :=
  [(UniformMember.mk "NAN" (.scalar .f32), Content.notANumber)] ++
    k.inputs.map (fun o => (UniformMember.mk (shapeUniform o.name) (.coords o.rank),
      Content.counts o.shape)) ++
    [(UniformMember.mk "outShape" (.coords k.outRank), Content.counts k.output.shape),
      (UniformMember.mk "outShapeStrides" (.coords (k.outRank - 1)),
        Content.counts (Shape.outerStrides k.output.shape))] ++
    (if k.program.hasSize then
      [(UniformMember.mk "size" (.scalar .i32),
        Content.counts [k.program.unitCount k.output.shape])] else []) ++
    [(UniformMember.mk "dispatchSize" (.vector 3 .i32), Content.counts grid.toList)] ++
    (k.program.uniforms.zip extra).map (fun (d, f) =>
      (UniformMember.mk d.name (.ofWidth d.width (kindScalar d.kind)), Content.given f))

private theorem extraContents_eq_ok {decls : List UniformDecl} {fields : List Field}
    {contents : List Content} (hlength : decls.length = fields.length)
    (h : Program.extraContents decls fields = .ok contents) :
    contents = fields.map .given ∧
      List.Forall₂ (fun d f => d.kind = f.kind ∧ d.width = f.width) decls fields := by
  induction decls generalizing fields contents with
  | nil =>
    obtain rfl : fields = [] := List.length_eq_zero_iff.mp hlength.symm
    obtain rfl : [] = contents := by simpa [Program.extraContents] using h
    exact ⟨rfl, .nil⟩
  | cons d decls ih =>
    cases fields with
    | nil => simp at hlength
    | cons f fields =>
      unfold Program.extraContents at h
      split at h
      · next hmatch =>
        rcases Except.bind_eq_ok_iff.mp h with ⟨rest, hrest, hpure⟩
        obtain rfl : Content.given f :: rest = contents := by
          simpa [pure, Except.pure] using hpure
        rcases ih (by simpa using hlength) hrest with ⟨rfl, hmatches⟩
        exact ⟨rfl, .cons hmatch hmatches⟩
      · simp at h

/-- The contents of a dispatch are those listed with the members, and the fields that a caller adds
agree with their declarations one by one. -/
theorem uniformContents_eq_ok {k : Kernel} {grid : Grid} {extra : List Field}
    {contents : List Content}
    (h : k.program.uniformContents k.inputs k.output.shape grid extra = .ok contents) :
    contents = (memberContents k grid extra).map Prod.snd ∧
      List.Forall₂ (fun d f => d.kind = f.kind ∧ d.width = f.width) k.program.uniforms extra := by
  unfold Program.uniformContents at h
  split at h
  · next hlength =>
    rcases Except.bind_eq_ok_iff.mp h with ⟨added, hadded, hpure⟩
    obtain rfl : k.program.standardContents k.inputs k.output.shape grid ++ added = contents := by
      simpa [pure, Except.pure] using hpure
    rcases extraContents_eq_ok hlength hadded with ⟨rfl, hdeclared⟩
    refine ⟨?_, hdeclared⟩
    have hzip : (k.program.uniforms.zip extra).map (fun c => Content.given c.2) =
        extra.map Content.given := by
      conv_rhs => rw [← List.map_snd_zip (Nat.le_of_eq hlength.symm), List.map_map]
      rfl
    unfold memberContents Program.standardContents
    simp only [List.map_append, List.map_map, ← hzip, Function.comp_def, List.map_cons,
      List.map_nil]
    cases k.program.hasSize <;> simp
  · simp at h

private theorem uniformFields_eq_ok {k : Kernel} {grid : Grid} {extra fields : List Field}
    (h : k.program.uniformFields k.inputs k.output.shape grid extra = .ok fields) :
    fields = (memberContents k grid extra).map (fun c => c.2.field) ∧
      List.Forall₂ (fun d f => d.kind = f.kind ∧ d.width = f.width) k.program.uniforms extra := by
  rcases Except.bind_eq_ok_iff.mp h with ⟨contents, hcontents, hpure⟩
  obtain rfl : contents.map Content.field = fields := by simpa [pure, Except.pure] using hpure
  rcases uniformContents_eq_ok hcontents with ⟨rfl, hdeclared⟩
  exact ⟨List.map_map, hdeclared⟩

/-- The declared members are those whose contents are listed. -/
theorem uniformMembers_eq {k : Kernel} (grid : Grid) {extra : List Field}
    (hlength : k.program.uniforms.length = extra.length) :
    uniformMembers k = (memberContents k grid extra).map Prod.fst := by
  have hzip : (k.program.uniforms.zip extra).map
        (fun c => UniformMember.mk c.1.name (.ofWidth c.1.width (kindScalar c.1.kind))) =
      k.program.uniforms.map fun d => ⟨d.name, .ofWidth d.width (kindScalar d.kind)⟩ := by
    conv_rhs => rw [← List.map_fst_zip (Nat.le_of_eq hlength), List.map_map]
    rfl
  unfold memberContents uniformMembers
  simp only [List.map_append, List.map_map, ← hzip, Function.comp_def, List.map_cons, List.map_nil]
  cases k.program.hasSize <;> simp

/-! ### Fits of the members -/

/-- Extents of an addressable rank fit the coordinates of that rank. -/
theorem fits_counts {counts : List Nat} {rank : Nat} (name : String)
    (hlength : counts.length = rank) (hrank : rank ≤ Shape.maxRank) :
    Fits (Content.field (.counts counts)) ⟨name, .coords rank⟩ := by
  have hmax : rank ≤ 4 := hrank
  have hwidth : (ShaderType.coords rank).width = max rank 1 := by
    unfold ShaderType.coords
    split
    · change 1 = max rank 1
      omega
    · change rank % 256 = max rank 1
      omega
  have hcomponent : (ShaderType.coords rank).component = .i32 := by
    unfold ShaderType.coords
    split <;> rfl
  constructor
  · rw [hcomponent]
    rfl
  · cases counts <;> rfl
  · simp [Content.field, Field.width, hwidth, hlength]
  · rw [hwidth]
    omega

/-- A field of a declared kind and width fits its member. -/
theorem fits_given {d : UniformDecl} {f : Field} (hkind : d.kind = f.kind)
    (hwidth : d.width = f.width) (hpos : 1 ≤ d.width) (hle : d.width ≤ 4) :
    Fits f ⟨d.name, .ofWidth d.width (kindScalar d.kind)⟩ := by
  have hmember : (ShaderType.ofWidth d.width (kindScalar d.kind)).width = d.width := by
    unfold ShaderType.ofWidth
    split
    · change 1 = d.width
      omega
    · change d.width % 256 = d.width
      omega
  have hcomponent : (ShaderType.ofWidth d.width (kindScalar d.kind)).component =
      kindScalar d.kind := by
    unfold ShaderType.ofWidth
    split <;> rfl
  constructor
  · rw [hcomponent, hkind]
  · have hnonempty : f.words.isEmpty = false := by
      cases hwords : f.words with
      | nil => simp [Field.width, hwords] at hwidth; omega
      | cons w ws => rfl
    simp [Field.stored, hnonempty]
  · rw [hmember]
    omega
  · rw [hmember]
    exact hle

/-- Every member of the block of an accepted kernel is fitted by its field. -/
theorem fits_of_mem_memberContents {k : Kernel} {grid : Grid} {extra : List Field}
    (hk : k.Acceptable)
    (hextra : List.Forall₂ (fun d f => d.kind = f.kind ∧ d.width = f.width) k.program.uniforms
      extra)
    {c : UniformMember × Content} (hc : c ∈ memberContents k grid extra) :
    Fits c.2.field c.1 := by
  simp only [memberContents, List.mem_append, List.mem_cons, List.not_mem_nil, or_false,
    List.mem_map] at hc
  rcases hc with ((((rfl | ⟨o, ho, rfl⟩) | hout) | hsize) | rfl) | ⟨⟨d, f⟩, hd, rfl⟩
  · exact ⟨rfl, rfl, rfl, by decide⟩
  · exact fits_counts _ rfl (hk.inputs o ho).rank_le
  · rcases hout with rfl | rfl
    · exact fits_counts _ rfl hk.outRank_le
    · apply fits_counts _ (Shape.length_outerStrides _)
      exact Nat.le_trans (Nat.sub_le _ _) hk.outRank_le
  · split at hsize
    · obtain rfl := List.mem_singleton.mp hsize
      have hrank : 1 ≤ Shape.maxRank := by decide
      exact fits_counts _ rfl hrank
    · simp at hsize
  · have hrank : 3 ≤ Shape.maxRank := by decide
    exact fits_counts _ rfl hrank
  · rcases List.forall₂_zip hextra hd with ⟨hkind, hwidth⟩
    rcases hk.widths d (List.of_mem_zip hd).1 with ⟨hpos, hle⟩
    exact fits_given hkind hwidth hpos hle

/-! ### Places of the fields -/

/-- The packed bytes around a field: those of the fields before it, fillers up to the offset of its
member, the field, and more. -/
theorem pack_split {fields : List Field} {members : List UniformMember} {bytes : List UInt8}
    (hfits : List.Forall₂ Fits fields members) (h : pack fields = .ok bytes) {i : Nat}
    (hi : i < fields.length) :
    ∃ head gap tail, pack (fields.take i) = .ok head ∧
      bytes = head ++ List.replicate gap 0 ++ fields[i].stored.bytes ++ tail ∧
      (offsets members)[i]? = some (head.length + gap) := by
  rcases pack_eq_ok_iff.mp h with ⟨padded, hpadded, rfl⟩
  have hlength := hfits.length_eq
  have hfields : fields.take i ++ fields[i] :: fields.drop (i + 1) = fields := by
    rw [← List.drop_eq_getElem_cons hi, List.take_append_drop]
  have hmembers : members.take i ++ members[i] :: members.drop (i + 1) = members := by
    rw [← List.drop_eq_getElem_cons (by omega), List.take_append_drop]
  have hfit : Fits fields[i] members[i] := hfits.get hi (by omega)
  rw [← hfields] at hpadded
  rcases padFrom_split hpadded with ⟨before, aligned, after, hbefore, haligned, rfl⟩
  refine ⟨before.flatMap Field.bytes, 4 * gapTo aligned (0 + totalWidth before),
    after.flatMap Field.bytes, pack_eq_ok_iff.mpr ⟨before, hbefore, rfl⟩, ?_, ?_⟩
  · simp only [List.flatMap_append, List.flatMap_cons, flatMap_bytes_fillers, List.append_assoc]
  · have hend : blockEnd 0 (members.take i) = 4 * (0 + totalWidth before) :=
      blockEnd_eq (List.forall₂_take i hfits) hbefore
    have hplace := offsets_of_split 0 (members.take i) (members.drop (i + 1)) members[i]
    rw [hmembers, List.length_take, Nat.min_eq_left (by omega), hend, hfit.roundUp_eq haligned]
      at hplace
    rw [offsets, hplace, length_flatMap_bytes]
    simp only [Nat.zero_add, Nat.mul_add]

/-- The packed bytes end where the members do. -/
theorem length_pack {fields : List Field} {members : List UniformMember} {bytes : List UInt8}
    (hfits : List.Forall₂ Fits fields members) (h : pack fields = .ok bytes) :
    bytes.length = blockEnd 0 members := by
  rcases pack_eq_ok_iff.mp h with ⟨padded, hpadded, rfl⟩
  have hend : blockEnd 0 members = 4 * (0 + totalWidth padded) := blockEnd_eq hfits hpadded
  rw [length_flatMap_bytes, ← Nat.zero_add (totalWidth padded), ← hend]

/-- The packed fields of an accepted kernel are the contents of the block that its code declares: one
field per member in the order of the declarations, of the member's kind and width, at the member's
offset, and the buffer holds the whole block. -/
theorem packed_fields_fill_the_block (k : Kernel) (grid : Grid) (extra fields : List Field)
    (hvalid : k.validate = .ok ()) (hshape : k.output.shape = k.program.outputShape)
    (hfields : k.program.uniformFields k.inputs k.program.outputShape grid extra = .ok fields) :
    ∃ bytes, pack fields = .ok bytes ∧
      uniformMembers k = (memberContents k grid extra).map Prod.fst ∧
      fields = (memberContents k grid extra).map (fun c => c.2.field) ∧
      List.Forall₂ Fits fields (uniformMembers k) ∧
      (∀ (i : Nat) (hi : i < fields.length), ∃ head gap tail,
        pack (fields.take i) = .ok head ∧
        bytes = head ++ List.replicate gap 0 ++ fields[i].stored.bytes ++ tail ∧
        (offsets (uniformMembers k))[i]? = some (head.length + gap)) ∧
      Buffer.uniformSize bytes.length = roundUp 16 (blockSize (uniformMembers k)) := by
  have hk := Kernel.validate_eq_ok_iff.mp hvalid
  rw [← hshape] at hfields
  rcases uniformFields_eq_ok hfields with ⟨hcontents, hextra⟩
  have hmembers := uniformMembers_eq grid hextra.length_eq
  have hfits : List.Forall₂ Fits fields (uniformMembers k) := by
    rw [hmembers, hcontents, List.forall₂_map_left_iff, List.forall₂_map_right_iff,
      List.forall₂_same]
    intro c hc
    exact fits_of_mem_memberContents hk hextra hc
  have hwidths : ∀ f ∈ fields, f.width ≤ 4 := by
    intro f hf
    rw [hcontents] at hf
    rcases List.mem_map.mp hf with ⟨c, hc, rfl⟩
    have hfit := fits_of_mem_memberContents hk hextra hc
    have hwidth := hfit.width
    have hle := hfit.width_le
    omega
  rcases exists_padFrom hwidths 0 with ⟨padded, hpadded⟩
  have hpack : pack fields = .ok (padded.flatMap Field.bytes) :=
    pack_eq_ok_iff.mpr ⟨padded, hpadded, rfl⟩
  refine ⟨_, hpack, hmembers, hcontents, hfits, fun i hi => pack_split hfits hpack hi, ?_⟩
  have hlength := length_pack hfits hpack
  have hpos : 0 < (padded.flatMap Field.bytes).length := by
    cases fields with
    | nil => simp [memberContents] at hcontents
    | cons f rest =>
      rcases padFrom_cons_eq_ok_iff.mp hpadded with ⟨aligned, tail, -, -, rfl⟩
      rw [length_flatMap_bytes, totalWidth_append, totalWidth_cons, stored_width]
      omega
  rw [uniformSize_eq hpos, hlength, roundUp_blockSize]

/-- A kernel over a matrix and a number, with three more words per dispatch. -/
def windowKernel : Kernel where
  program := {
    label := "window"
    outputShape := [2, 3]
    operandNames := ["A", "b"]
    uniforms := [⟨"window", .int32, 3⟩]
    hasSize := true }
  inputs := [⟨"A", .float32, [2, 3]⟩, ⟨"b", .int32, []⟩]
  output := ⟨"result", .float32, [2, 3]⟩

/-- The fields of the window program fill its block. -/
theorem windowKernel_fills_its_block :
    ∃ bytes, pack [⟨.float32, [notANumberBits]⟩, ⟨.int32, [2, 3]⟩, ⟨.int32, []⟩, ⟨.int32, [2, 3]⟩,
        ⟨.int32, [3]⟩, ⟨.int32, [6]⟩, ⟨.int32, [1, 1, 1]⟩, ⟨.int32, [3, 3, 1]⟩] = .ok bytes ∧
      Buffer.uniformSize bytes.length = roundUp 16 (blockSize (uniformMembers windowKernel)) := by
  have hvalid : windowKernel.validate = .ok () := by rfl
  have hfields : windowKernel.program.uniformFields windowKernel.inputs [2, 3] ⟨1, 1, 1⟩
      [⟨.int32, [3, 3, 1]⟩] = .ok [⟨.float32, [notANumberBits]⟩, ⟨.int32, [2, 3]⟩, ⟨.int32, []⟩,
        ⟨.int32, [2, 3]⟩, ⟨.int32, [3]⟩, ⟨.int32, [6]⟩, ⟨.int32, [1, 1, 1]⟩,
        ⟨.int32, [3, 3, 1]⟩] := by cbv
  obtain ⟨bytes, hpack, -, -, -, -, hsize⟩ :=
    packed_fields_fill_the_block windowKernel ⟨1, 1, 1⟩ [⟨.int32, [3, 3, 1]⟩] _ hvalid rfl hfields
  exact ⟨bytes, hpack, hsize⟩

end ComputeKernels.Shader
