/-
  The locals in front of a function body.

  A body starts with a vector of runs, each a count and the code of a type.

  1. **Reading a run** — a number and then one byte that stands for a type (`Reader.stretch`).
     What is read is a stretch: a count of any size, and not a word.  A written run is read back as
     the stretch that it stands for (`ReadsBack.stretch`).

  2. **Reading the front** — so the front of a written body is read as the number of runs and the
     runs one behind the other, and the instructions stand where the last run ends
     (`read_front`).  This holds for every function.

  3. **Grouping** — the runs of fewer than 2^32 locals are the stretches of the locals
     (`LocalRun.map_toStretch_group`), and all that is said of those is said of what was read:
     `locals_grouped`.
-/
import WasmBinary.Proofs.Locals
import WasmBinary.Proofs.Module.Entries

namespace WasmBinary

/-! ## Reading a run -/

namespace Reader

/-- One byte that stands for a value type. -/
def valType : Reader ValType := fun data pos => do
  let code ← data[pos]?
  let type ← (ValType.ofCode code).toOption
  return ⟨type, 1⟩

/-- A count, then the type of so many locals. -/
def stretch : Reader Stretch :=
  number.andThen fun count => valType.andThen fun type => done ⟨count, type⟩

namespace ReadsBack

/-- A type is read back from its code. -/
theorem valType (t : ValType) : ReadsBack valType [t.code] t := by
  intro before after
  have hcode : (before ++ ([t.code] ++ after))[before.length]? = some t.code := by
    rw [List.getElem?_append_right (Nat.le_refl _), Nat.sub_self]
    rfl
  simp only [Reader.valType, hcode, ValType.ofCode_code, Option.bind_eq_bind, Option.bind_some]
  rfl

/-- A run is read back as the stretch that it stands for. -/
theorem stretch (run : LocalRun) : ReadsBack stretch run.encode run.toStretch := by
  have hcount : Leb128.Spells (Leb128.encodeUnsigned run.count.toNat) run.count.toNat :=
    Leb128.spells_encodeUnsigned (Nat.lt_trans run.count.toNat_lt (by decide))
  have htype : ReadsBack (Reader.valType.andThen fun type =>
      Reader.done (Stretch.mk run.count.toNat type)) ([run.type.code] ++ []) run.toStretch :=
    (valType run.type).andThen (done _)
  exact (number hcount).andThen htype

end ReadsBack

end Reader

namespace Func

/-! ## Reading the front -/

/-- The front of a body is read as its runs, up to the instructions. -/
theorem read_front (f : Func) (h : (LocalRun.group f.locals).length < 2 ^ 64) :
    ∃ front length,
      Leb128.readUnsigned f.encodeBody 0 = .ok ⟨(LocalRun.group f.locals).length, front⟩ ∧
      Reader.run Reader.stretch (LocalRun.group f.locals).length f.encodeBody front
        = some ⟨(LocalRun.group f.locals).map LocalRun.toStretch, length⟩ ∧
      f.encodeBody.drop (front + length) = Expr.encode f.body := by
  generalize hruns : LocalRun.group f.locals = runs at h ⊢
  generalize hdigits : Leb128.encodeUnsigned runs.length = digits
  have hspells : Leb128.Spells digits runs.length := hdigits ▸ Leb128.spells_encodeUnsigned h
  have hbody : f.encodeBody
      = digits ++ ((runs.map LocalRun.encode).flatten ++ Expr.encode f.body) := by
    rw [encodeBody, hruns, Vec.ofItems, List.length_map, hdigits, List.append_assoc]
  refine ⟨digits.length, (runs.map LocalRun.encode).flatten.length, ?_, ?_, ?_⟩
  · rw [Leb128.readUnsigned, Leb128.mapError_eq_ok, List.drop_zero, hbody]
    exact Leb128.decodeUnsigned_append _ hspells
  · rw [hbody]
    exact Reader.ReadsBack.run (fun run _ => Reader.ReadsBack.stretch run) digits
      (Expr.encode f.body)
  · rw [hbody, ← List.drop_drop, List.drop_left, List.drop_left]

/-! ## Grouping -/

/-- **Locals are grouped without loss, into as few groups as can be.**  A body of fewer than 2^32
    locals starts with the number of its groups and the groups, each a count and the code of a type,
    and goes on with the instructions.  No group is empty, neighbours differ in type, and together
    the groups stand for the locals, one by one; no other list of groups that does is shorter. -/
theorem locals_grouped (f : Func) (hfew : f.locals.length < 2 ^ 32) :
    ∃ (groups : List Stretch) (front length : Nat),
      Leb128.readUnsigned f.encodeBody 0 = .ok ⟨groups.length, front⟩ ∧
      Reader.run Reader.stretch groups.length f.encodeBody front = some ⟨groups, length⟩ ∧
      f.encodeBody.drop (front + length) = Expr.encode f.body ∧
      (∀ group ∈ groups, 1 ≤ group.length) ∧
      groups.IsChain (fun group next => group.type ≠ next.type) ∧
      Stretch.expand groups = f.locals ∧
      sumOf (groups.map Stretch.length) = f.locals.length ∧
      ∀ others : List Stretch, Stretch.expand others = f.locals →
        groups.length ≤ others.length := by
  have hshort : ∀ s ∈ Stretch.ofLocals f.locals, s.length < 2 ^ 32 := fun s hs =>
    Nat.lt_of_le_of_lt (Stretch.length_le_of_mem hs) hfew
  have hgroups : (LocalRun.group f.locals).map LocalRun.toStretch = Stretch.ofLocals f.locals :=
    LocalRun.map_toStretch_group hshort
  have hcount : (LocalRun.group f.locals).length = (Stretch.ofLocals f.locals).length := by
    rw [← hgroups, List.length_map]
  have hexpand : Stretch.expand (Stretch.ofLocals f.locals) = f.locals :=
    Stretch.expand_ofLocals f.locals
  have hfewest : ∀ others : List Stretch, Stretch.expand others = f.locals →
      (Stretch.ofLocals f.locals).length ≤ others.length := by
    intro others hothers
    rw [← hothers]
    exact Stretch.length_ofLocals_expand_le others
  have hsmall : (LocalRun.group f.locals).length < 2 ^ 64 := by
    have hle := Stretch.length_ofLocals_le f.locals
    omega
  obtain ⟨front, length, hnumber, hruns, hrest⟩ := f.read_front hsmall
  rw [hcount] at hnumber
  rw [hcount, hgroups] at hruns
  obtain ⟨hpositive, hapart⟩ := Stretch.maximal_ofLocals f.locals
  refine ⟨Stretch.ofLocals f.locals, front, length, hnumber, hruns, hrest, hpositive, hapart,
    hexpand, ?_, hfewest⟩
  rw [Stretch.sum_length, hexpand]

/-- Equal types that do not stand side by side stay apart. -/
theorem locals_grouped_apart :
    (Func.mk 0 [.i32, .i32, .i64, .i32] [.nop]).locals.length < 2 ^ 32 ∧
    ∃ groups : List Stretch, groups.length = 3 ∧
      Stretch.expand groups = [.i32, .i32, .i64, .i32] ∧
      ∀ others : List Stretch, Stretch.expand others = [.i32, .i32, .i64, .i32] →
        3 ≤ others.length := by
  have hfew : (Func.mk 0 [.i32, .i32, .i64, .i32] [.nop]).locals.length < 2 ^ 32 := by decide
  obtain ⟨groups, front, length, hnumber, -, -, -, -, hexpand, -, hfewest⟩ :=
    locals_grouped (Func.mk 0 [.i32, .i32, .i64, .i32] [.nop]) hfew
  have hbody : Leb128.readUnsigned (Func.mk 0 [.i32, .i32, .i64, .i32] [.nop]).encodeBody 0
      = .ok ⟨3, 1⟩ := by
    cbv
  have hlength : groups.length = 3 :=
    congrArg Leb128.Reading.value (Except.ok.inj (hnumber.symm.trans hbody))
  exact ⟨hfew, groups, hlength, hexpand, fun others hothers => hlength ▸ hfewest others hothers⟩

end Func

end WasmBinary
