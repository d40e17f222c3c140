/-
  Every declaration is written prefix-free.

  One section for each kind of declaration, from the leaves up: value types, function types,
  limits, imports and exports, instructions and expressions, runs of locals, and the entries of
  the code section.  A proof peels the fields off the front in the order in which they are
  written.  Where a tag decides what follows, equal tags first make the two declarations of one
  kind, and each kind then has its own fields.

  An entry of the code section does not carry its function's type, and carries the locals only as
  runs.  So it is a code for the runs and the body (`entry`), not for the function.  Where no count
  of a run wraps, the runs give the locals back, and it is a code for the locals and the body
  (`encodeEntry_prefixFree`).

  A vector has nothing between its items, so it can be taken apart only because its items can:
  `Vec.items_told_apart` puts the items of every vector in a module beside the vectors.
-/
import WasmBinary.Module.Encode
import WasmBinary.Proofs.Locals
import WasmBinary.Proofs.PrefixFree

namespace WasmBinary

/-! ## Value types and function types -/

/-- The codes of value types can be read back, so that different types have different codes. -/
theorem ValType.code_injective : Function.Injective ValType.code := by
  intro a b h
  have hread := congrArg ValType.ofCode h
  simpa using hread

/-- A list of types is known by its codes. -/
theorem ValType.eq_of_map_code {ts us : List ValType} (h : ts.map code = us.map code) : ts = us :=
  (List.map_inj_right fun _ _ hab => code_injective hab).mp h

/-- The type of a function is a mark and two byte vectors, and each of these tells where it ends. -/
theorem FuncType.encode_prefixFree : PrefixFree FuncType.encode := by
  rintro ⟨params, results⟩ ⟨params', results'⟩ s t h
  simp only [encode, List.cons_append, List.append_assoc] at h
  obtain ⟨hparams, h'⟩ := Vec.ofBytes_prefixFree (List.cons.inj h).2
  obtain ⟨hresults, hst⟩ := Vec.ofBytes_prefixFree h'
  rw [ValType.eq_of_map_code hparams, ValType.eq_of_map_code hresults]
  exact ⟨rfl, hst⟩

/-! ## Limits -/

/-- Limits are one number or two, and the flag in front tells which. -/
theorem Limits.encode_prefixFree : PrefixFree Limits.encode := by
  rintro ⟨min, max⟩ ⟨min', max'⟩ s t h
  -- the flag byte is different where only one side has a maximum
  cases max with
  | none =>
    cases max' with
    | none =>
      obtain ⟨hmin, hst⟩ := Leb128.encodeUnsigned_prefixFree (List.cons.inj h).2
      obtain rfl : min = min' := UInt32.toNat_inj.mp hmin
      exact ⟨rfl, hst⟩
    | some m' => exact absurd (List.cons.inj h).1 (by decide)
  | some m =>
    cases max' with
    | none => exact absurd (List.cons.inj h).1 (by decide)
    | some m' =>
      simp only [encode, List.cons_append, List.append_assoc] at h
      obtain ⟨hmin, h'⟩ := Leb128.encodeUnsigned_prefixFree (List.cons.inj h).2
      obtain ⟨hmax, hst⟩ := Leb128.encodeUnsigned_prefixFree h'
      rw [UInt32.toNat_inj.mp hmin, UInt32.toNat_inj.mp hmax]
      exact ⟨rfl, hst⟩

/-! ## Imports and exports -/

/-- An import is two names and a kind with what it imports; names tell where they end, and the kind
    tells how to read what is left. -/
theorem Import.encode_prefixFree : PrefixFree Import.encode := by
  rintro ⟨source, field, desc⟩ ⟨source', field', desc'⟩ s t h
  simp only [encode, List.cons_append, List.append_assoc] at h
  obtain ⟨rfl, h'⟩ := Vec.ofName_prefixFree h
  obtain ⟨rfl, h''⟩ := Vec.ofName_prefixFree h'
  -- the byte of the kind tells functions and memories apart
  obtain ⟨hkind, hdesc⟩ := List.cons.inj h''
  cases desc with
  | func typ =>
    cases desc' with
    | func typ' =>
      obtain ⟨htyp, hst⟩ := Leb128.encodeUnsigned_prefixFree hdesc
      rw [UInt32.toNat_inj.mp htyp]
      exact ⟨rfl, hst⟩
    | mem limits' => simp [kind, ExternKind.code] at hkind
  | mem limits =>
    cases desc' with
    | func typ' => simp [kind, ExternKind.code] at hkind
    | mem limits' =>
      obtain ⟨rfl, hst⟩ := Limits.encode_prefixFree hdesc
      exact ⟨rfl, hst⟩

/-- An export is a name, a kind and an index. -/
theorem Export.encode_prefixFree : PrefixFree Export.encode := by
  rintro ⟨name, desc⟩ ⟨name', desc'⟩ s t h
  simp only [encode, List.cons_append, List.append_assoc] at h
  obtain ⟨rfl, h'⟩ := Vec.ofName_prefixFree h
  -- the kinds have to be the same, and with them the indices
  obtain ⟨hkind, hidx⟩ := List.cons.inj h'
  obtain ⟨hidx, hst⟩ := Leb128.encodeUnsigned_prefixFree hidx
  have hidx := UInt32.toNat_inj.mp hidx
  refine ⟨?_, hst⟩
  cases desc with
  | func i =>
    cases desc' with
    | func i' => exact congrArg (fun j => (⟨name, .func j⟩ : Export)) hidx
    | mem i' => simp [kind, ExternKind.code] at hkind
  | mem i =>
    cases desc' with
    | func i' => simp [kind, ExternKind.code] at hkind
    | mem i' => exact congrArg (fun j => (⟨name, .mem j⟩ : Export)) hidx

/-! ## Instructions and expressions -/

/-- An instruction is an opcode and what belongs to it.  No two instructions share an opcode, so
    that the opcode tells which number follows, if any. -/
theorem Instr.encode_prefixFree : PrefixFree Instr.encode := by
  intro x y s t h
  simp only [encode, List.cons_append] at h
  obtain ⟨hop, himm⟩ := List.cons.inj h
  -- each kind of instruction meets only its own opcode
  cases x with
  | call f =>
    cases y with
    | call f' =>
      obtain ⟨hf, hst⟩ := Leb128.encodeUnsigned_prefixFree himm
      exact ⟨congrArg call (UInt32.toNat_inj.mp hf), hst⟩
    | _ => simp [opcode] at hop
  | localGet i =>
    cases y with
    | localGet i' =>
      obtain ⟨hi, hst⟩ := Leb128.encodeUnsigned_prefixFree himm
      exact ⟨congrArg localGet (UInt32.toNat_inj.mp hi), hst⟩
    | _ => simp [opcode] at hop
  | i32Const n =>
    cases y with
    | i32Const n' =>
      obtain ⟨hn, hst⟩ := Leb128.encodeSigned_prefixFree himm
      exact ⟨congrArg i32Const (Int32.toInt_inj.mp hn), hst⟩
    | _ => simp [opcode] at hop
  | i64Const n =>
    cases y with
    | i64Const n' =>
      obtain ⟨hn, hst⟩ := Leb128.encodeSigned_prefixFree himm
      exact ⟨congrArg i64Const (Int64.toInt_inj.mp hn), hst⟩
    | _ => simp [opcode] at hop
  | unreachable | nop | ret | drop =>
    -- no immediate: the opcode decides alone
    cases y <;> first
      | exact ⟨rfl, himm⟩
      | simp [opcode] at hop

/-- An expression ends at its first `end` in the place of an opcode, wherever else the byte may
    occur.  The induction is on one of the two expressions: an instruction on the one side has to be
    met by one on the other, since no opcode is that of `end`. -/
theorem Expr.encode_prefixFree : PrefixFree Expr.encode := by
  intro x
  induction x with
  | nil =>
    intro y s t h
    cases y with
    | nil => exact ⟨rfl, (List.cons.inj h).2⟩
    | cons i y => exact absurd (List.cons.inj h).1.symm (opcode_ne_endOpcode i)
  | cons i x ih =>
    intro y s t h
    cases y with
    | nil => exact absurd (List.cons.inj h).1 (opcode_ne_endOpcode i)
    | cons j y =>
      simp only [encode, List.flatMap_cons, List.append_assoc] at h
      obtain ⟨rfl, hrest⟩ := Instr.encode_prefixFree h
      obtain ⟨rfl, hst⟩ := ih (y := y) (by simpa only [encode, List.append_assoc] using hrest)
      exact ⟨rfl, hst⟩

/-! ## Functions -/

/-- A run of locals is a count and a type. -/
theorem LocalRun.encode_prefixFree : PrefixFree LocalRun.encode := by
  rintro ⟨count, type⟩ ⟨count', type'⟩ s t h
  simp only [encode, List.append_assoc] at h
  obtain ⟨hcount, h'⟩ := Leb128.encodeUnsigned_prefixFree h
  obtain ⟨htype, hst⟩ := List.cons.inj h'
  rw [UInt32.toNat_inj.mp hcount, ValType.code_injective htype]
  exact ⟨rfl, hst⟩

namespace Func

/-- What the code section tells of a function. -/
def entry (f : Func) : List LocalRun × Expr :=
  (LocalRun.group f.locals, f.body)

/-- The bytes of a body, from its runs and its instructions. -/
def writeBody (e : List LocalRun × Expr) : Bytes :=
  Vec.ofItems (e.1.map LocalRun.encode) ++ Expr.encode e.2

/-- A body is a vector of runs and an expression, both of which tell where they end. -/
theorem writeBody_prefixFree : PrefixFree writeBody := by
  rintro ⟨runs, body⟩ ⟨runs', body'⟩ s t h
  simp only [writeBody, List.append_assoc] at h
  obtain ⟨rfl, h'⟩ := Vec.ofItems_prefixFree LocalRun.encode_prefixFree h
  obtain ⟨rfl, hst⟩ := Expr.encode_prefixFree h'
  exact ⟨rfl, hst⟩

/-- A code entry is a byte vector, so it is prefix-free twice over: by its length, and by what
    is in it. -/
theorem writeEntry_prefixFree : PrefixFree (Vec.ofBytes ∘ writeBody) :=
  Vec.ofBytes_prefixFree.comp writeBody_prefixFree.injective

/-- Function entries are indices. -/
theorem writeType_prefixFree : PrefixFree fun typ : TypeIdx => Leb128.encodeUnsigned typ.toNat :=
  Leb128.encodeUnsigned_prefixFree.comp fun _ _ h => UInt32.toNat_inj.mp h

/-- Lists of locals that are short enough for every count to fit into its word. -/
abbrev ShortLocals : Type :=
  { locals : List ValType // locals.length < 2 ^ 32 }

/-- Short lists of locals are known by their runs. -/
theorem group_injective : Function.Injective fun locals : ShortLocals => LocalRun.group locals := by
  intro a b h
  have hexpand : LocalRun.expand (LocalRun.group a) = LocalRun.expand (LocalRun.group b) :=
    congrArg LocalRun.expand h
  rw [LocalRun.expand_group a.1 a.2, LocalRun.expand_group b.1 b.2] at hexpand
  exact Subtype.ext hexpand

/-- Of functions with one type, the entries tell the locals and the instructions. -/
theorem encodeEntry_prefixFree (typ : TypeIdx) :
    PrefixFree fun e : ShortLocals × Expr => (Func.mk typ e.1 e.2).encodeEntry := by
  refine writeEntry_prefixFree.comp
    (f := fun e : ShortLocals × Expr => (LocalRun.group e.1, e.2)) ?_
  intro a b h
  obtain ⟨hlocals, hbody⟩ := Prod.mk.inj h
  exact Prod.ext (group_injective hlocals) hbody

end Func

/-! ## Vectors -/

namespace Vec

/-- **Vectors can be taken apart because their items can.**  For any prefix-free items, a vector of
    them is prefix-free, and so is a vector of such vectors.  All items that a module has vectors of
    are prefix-free: types, imports, indices, memories, exports, runs of locals, and the entries of
    the code section, which tell the locals and the instructions of a function but not its type.
    Names and byte vectors are themselves. -/
theorem items_told_apart :
    (∀ (α : Type) (enc : α → Bytes), PrefixFree enc →
      (∀ (xs ys : List α) (s t : Bytes),
        ofItems (xs.map enc) ++ s = ofItems (ys.map enc) ++ t → xs = ys ∧ s = t) ∧
      (∀ (xss yss : List (List α)) (s t : Bytes),
        ofItems (xss.map fun xs => ofItems (xs.map enc)) ++ s
          = ofItems (yss.map fun ys => ofItems (ys.map enc)) ++ t → xss = yss ∧ s = t)) ∧
    PrefixFree FuncType.encode ∧
    PrefixFree Import.encode ∧
    PrefixFree (fun idx : UInt32 => Leb128.encodeUnsigned idx.toNat) ∧
    PrefixFree Limits.encode ∧
    PrefixFree Export.encode ∧
    (∀ typ, PrefixFree fun e : Func.ShortLocals × Expr => (Func.mk typ e.1 e.2).encodeEntry) ∧
    (∀ (f : Func) typ, ({ f with typ } : Func).encodeEntry = f.encodeEntry) ∧
    PrefixFree LocalRun.encode ∧
    PrefixFree ofName ∧
    PrefixFree ofBytes := by
  refine ⟨fun α enc henc => ⟨fun xs ys s t h => ?_, fun xss yss s t h => ?_⟩,
    FuncType.encode_prefixFree, Import.encode_prefixFree, Func.writeType_prefixFree,
    Limits.encode_prefixFree, Export.encode_prefixFree, Func.encodeEntry_prefixFree,
    fun f typ => rfl, LocalRun.encode_prefixFree, ofName_prefixFree, ofBytes_prefixFree⟩
  · exact ofItems_prefixFree henc h
  · -- vectors are items of vectors again
    have hinner : PrefixFree fun xs : List α => ofItems (xs.map enc) := ofItems_prefixFree henc
    exact ofItems_prefixFree hinner h

/-- The runs of three locals, as they are grouped and as they are written down. -/
theorem items_told_apart_runs :
    PrefixFree LocalRun.encode ∧
    ofItems ((LocalRun.group [.i32, .i32, .f64]).map LocalRun.encode) ++ [0x0B]
      = ofItems ([⟨2, .i32⟩, ⟨1, .f64⟩].map LocalRun.encode) ++ [0x0B] ∧
    LocalRun.group [.i32, .i32, .f64] = [⟨2, .i32⟩, ⟨1, .f64⟩] := by
  have hbytes : ofItems ((LocalRun.group [.i32, .i32, .f64]).map LocalRun.encode) ++ [0x0B]
      = ofItems ([⟨2, .i32⟩, ⟨1, .f64⟩].map LocalRun.encode) ++ [0x0B] := by
    decide +kernel
  obtain ⟨hvectors, -, -, -, -, -, -, -, hruns, -⟩ := items_told_apart
  exact ⟨hruns, hbytes, ((hvectors _ _ hruns).1 _ _ _ _ hbytes).1⟩

end Vec

end WasmBinary
