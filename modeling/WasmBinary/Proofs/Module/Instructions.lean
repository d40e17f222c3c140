/-
  The instructions of an expression, read one by one.

  Nothing in an expression tells how many instructions there are, or how many bytes they take.  A
  reader has to know of every opcode what follows it, and goes on until it meets `end` where an
  opcode should be.  The byte of `end` and those of opcodes also occur inside immediates, where they
  mean nothing.

  1. **Immediates** — an index is an unsigned number and a constant a signed one, in any spelling,
     as long as it is the number of a value of the type (`Reader.exactly_eq_some_iff`).

  2. **Instructions** — the opcode decides alone what is read behind it (`Reader.operand`), so the
     immediate of a written instruction is read back in any surroundings (`ReadsBack.operand`).

  3. **Expressions** — `Reader.expr` walks from opcode to opcode.  It is a reader of one byte that
     either stops or reads an immediate and goes on (`Reader.expr_eq`), so that what was written is
     read back by induction on the instructions (`ReadsBack.expr`).
-/
import WasmBinary.Proofs.Declarations
import WasmBinary.Proofs.Leb128.RoundTrip
import WasmBinary.Proofs.Module.Entries

namespace WasmBinary

namespace Reader

variable {α β : Type}

/-! ## Immediates -/

/-- A signed number. -/
def signedNumber : Reader Int := fun data pos =>
  (Leb128.readSigned data pos).toOption

/-- Nothing that stands here is taken. -/
def refuse : Reader α := fun _ _ => none

/-- A number that is the number of some value, as that value. -/
def exactly [DecidableEq β] (number : Reader β) (toNumber : α → β) (ofNumber : β → α) :
    Reader α :=
  number.andThen fun n => if toNumber (ofNumber n) = n then done (ofNumber n) else refuse

/-- A position in one of the index spaces. -/
def index : Reader UInt32 :=
  exactly number UInt32.toNat UInt32.ofNat

/-- A constant of 32 bits. -/
def constant32 : Reader Int32 :=
  exactly signedNumber Int32.toInt Int32.ofInt

/-- A constant of 64 bits. -/
def constant64 : Reader Int64 :=
  exactly signedNumber Int64.toInt Int64.ofInt

/-- A value is read exactly where its number is, and takes the same bytes. -/
theorem exactly_eq_some_iff [DecidableEq β] {number : Reader β} {toNumber : α → β}
    {ofNumber : β → α} (hinverse : ∀ x, ofNumber (toNumber x) = x) {data : Bytes} {pos n : Nat}
    {x : α} :
    exactly number toNumber ofNumber data pos = some ⟨x, n⟩ ↔
      number data pos = some ⟨toNumber x, n⟩ := by
  rw [exactly, andThen]
  cases number data pos with
  | none => simp
  | some found =>
    obtain ⟨v, k⟩ := found
    -- a number that no value has is refused, and one that a value has is read as that value
    by_cases hv : toNumber (ofNumber v) = v
    · have hvalue : ofNumber v = x ↔ v = toNumber x := by
        constructor
        · rintro rfl
          exact hv.symm
        · rintro rfl
          exact hinverse x
      simp [hv, done, hvalue]
    · have hvalue : v ≠ toNumber x := by
        rintro rfl
        exact hv (congrArg toNumber (hinverse x))
      simp [hv, refuse, hvalue]

/-- An index is read where an unsigned number is that fits in its word. -/
theorem index_eq_some_iff {data : Bytes} {pos n : Nat} {x : UInt32} :
    index data pos = some ⟨x, n⟩ ↔ Leb128.readUnsigned data pos = .ok ⟨x.toNat, n⟩ := by
  rw [index, exactly_eq_some_iff fun _ => UInt32.ofNat_toNat, number, Leb128.toOption_eq_some]

/-- A constant of 32 bits is read where a signed number is that fits in its word. -/
theorem constant32_eq_some_iff {data : Bytes} {pos n : Nat} {v : Int32} :
    constant32 data pos = some ⟨v, n⟩ ↔ Leb128.readSigned data pos = .ok ⟨v.toInt, n⟩ := by
  rw [constant32, exactly_eq_some_iff Int32.ofInt_toInt, signedNumber, Leb128.toOption_eq_some]

/-- So is one of 64 bits, and all that can be read as a signed number fits. -/
theorem constant64_eq_some_iff {data : Bytes} {pos n : Nat} {v : Int64} :
    constant64 data pos = some ⟨v, n⟩ ↔ Leb128.readSigned data pos = .ok ⟨v.toInt, n⟩ := by
  rw [constant64, exactly_eq_some_iff Int64.ofInt_toInt, signedNumber, Leb128.toOption_eq_some]

/-! ## Instructions -/

/-- What follows an opcode, and the instruction that it makes with it. -/
def operand : UInt8 → Reader Instr
  | 0x00 => done .unreachable
  | 0x01 => done .nop
  | 0x0F => done .ret
  | 0x10 => index.andThen fun func => done (.call func)
  | 0x1A => done .drop
  | 0x20 => index.andThen fun idx => done (.localGet idx)
  | 0x41 => constant32.andThen fun value => done (.i32Const value)
  | 0x42 => constant64.andThen fun value => done (.i64Const value)
  | _ => refuse

/-! ## Expressions -/

/-- One byte. -/
def byte : Reader UInt8 := fun data pos =>
  data[pos]?.map fun b => ⟨b, 1⟩

/-- Instructions up to the first `end` in the place of an opcode, with that `end`. -/
def expr (data : Bytes) (pos : Nat) : Option (Leb128.Reading Expr) :=
  match hopcode : data[pos]? with
  | none => none
  | some opcode =>
      if opcode = Expr.endOpcode then some ⟨[], 1⟩
      else do
        let first ← operand opcode data (pos + 1)
        let rest ← expr data (pos + 1 + first.length)
        return ⟨first.value :: rest.value, 1 + (first.length + rest.length)⟩
termination_by data.length - pos
decreasing_by
  have hpos : pos < data.length := (List.getElem?_eq_some_iff.mp hopcode).1
  omega

/-- One byte tells whether the expression is over; if not, an immediate and the rest follow. -/
theorem expr_eq : expr = byte.andThen fun opcode =>
    if opcode = Expr.endOpcode then done []
    else (operand opcode).andThen fun first => andThen expr fun rest => done (first :: rest) := by
  funext data pos
  rw [expr]
  cases hopcode : data[pos]? with
  | none => simp [andThen, byte, hopcode]
  | some opcode =>
    by_cases hend : opcode = Expr.endOpcode
    · simp [andThen, byte, hopcode, hend, done]
    · cases hfirst : operand opcode data (pos + 1) with
      | none => simp [andThen, byte, hopcode, hend, hfirst]
      | some first =>
        cases hrest : expr data (pos + 1 + first.length) with
        | none => simp [andThen, byte, hopcode, hend, hfirst, hrest]
        | some rest => simp [andThen, byte, hopcode, hend, hfirst, hrest, done]

end Reader

/-! ## Read back -/

/-- The first instruction in front of the others, its opcode first. -/
theorem Expr.encode_cons (i : Instr) (e : Expr) :
    encode (i :: e) = [i.opcode] ++ (i.immediate ++ encode e) := by
  simp [encode, Instr.encode]

namespace Reader.ReadsBack

variable {α β : Type}

/-- A byte is read back. -/
theorem byte (b : UInt8) : ReadsBack byte [b] b := by
  intro before after
  have hbyte : (before ++ ([b] ++ after))[before.length]? = some b := by
    rw [List.getElem?_append_right (Nat.le_refl _), Nat.sub_self]
    rfl
  rw [Reader.byte, hbyte]
  rfl

/-- A written index is read back. -/
theorem index (x : UInt32) : ReadsBack index (Leb128.encodeUnsigned x.toNat) x := by
  intro before after
  have hspells : Leb128.Spells (Leb128.encodeUnsigned x.toNat) x.toNat :=
    Leb128.spells_encodeUnsigned (Nat.lt_trans x.toNat_lt (by decide))
  exact index_eq_some_iff.mpr (Leb128.toOption_eq_some.mp (number hspells before after))

/-- A written number of 64 bits is read wherever it stands. -/
theorem readSigned_encodeSigned {v : Int} (hlow : -2 ^ 63 ≤ v) (hhigh : v < 2 ^ 63)
    (before after : Bytes) :
    Leb128.readSigned (before ++ (Leb128.encodeSigned v ++ after)) before.length
      = .ok ⟨v, (Leb128.encodeSigned v).length⟩ := by
  rw [Leb128.readSigned, Leb128.mapError_eq_ok, List.drop_left]
  exact Leb128.decodeSignedWithin_append after
    (Leb128.decodeSignedWithin_encodeSigned 9 v hlow hhigh)

/-- A written constant of 32 bits is read back: its value has the range of a 64-bit number, and much
    less. -/
theorem constant32 (v : Int32) : ReadsBack constant32 (Leb128.encodeSigned v.toInt) v := by
  intro before after
  have hlow : -2 ^ 31 ≤ v.toInt := v.le_toInt
  have hhigh : v.toInt < 2 ^ 31 := v.toInt_lt
  exact constant32_eq_some_iff.mpr
    (readSigned_encodeSigned (by omega) (by omega) before after)

/-- And so is one of 64 bits. -/
theorem constant64 (v : Int64) : ReadsBack constant64 (Leb128.encodeSigned v.toInt) v :=
  fun before after => constant64_eq_some_iff.mpr
    (readSigned_encodeSigned v.le_toInt v.toInt_lt before after)

/-- A reading that is made into something else takes the same bytes. -/
theorem andThen_done {first : Reader α} {written : Bytes} {x : α} (h : ReadsBack first written x)
    (f : α → β) : ReadsBack (first.andThen fun x => Reader.done (f x)) written (f x) := by
  have hboth : ReadsBack (first.andThen fun x => Reader.done (f x)) (written ++ []) (f x) :=
    h.andThen (done (f x))
  rwa [List.append_nil] at hboth

/-- Behind its opcode, an instruction is read back from its immediate. -/
theorem operand (i : Instr) : ReadsBack (operand i.opcode) i.immediate i := by
  cases i with
  | unreachable => exact done Instr.unreachable
  | nop => exact done Instr.nop
  | ret => exact done Instr.ret
  | drop => exact done Instr.drop
  | call func => exact (index func).andThen_done Instr.call
  | localGet idx => exact (index idx).andThen_done Instr.localGet
  | i32Const value => exact (constant32 value).andThen_done Instr.i32Const
  | i64Const value => exact (constant64 value).andThen_done Instr.i64Const

/-- Behind the last instruction stands an `end`, and no instruction starts with one. -/
theorem expr (e : Expr) : ReadsBack expr (Expr.encode e) e := by
  rw [expr_eq]
  induction e with
  | nil =>
    rw [← List.append_nil (Expr.encode [])]
    refine (byte Expr.endOpcode).andThen ?_
    rw [if_pos rfl]
    exact done []
  | cons i e ih =>
    rw [Expr.encode_cons]
    refine (byte i.opcode).andThen ?_
    rw [if_neg (Expr.opcode_ne_endOpcode i)]
    refine (operand i).andThen ?_
    rw [← expr_eq] at ih
    exact ih.andThen_done (List.cons i)

end Reader.ReadsBack

namespace Expr

/-- **Expressions are told apart by their own bytes.**  Two expressions with any bytes behind them
    give the same byte string only if they are the same and so are the bytes behind them.  Wherever
    an expression stands, the reader that goes from opcode to opcode and stops at the first `end` in
    the place of one gives back its instructions and ends where the expression does.  The
    immediates that it takes are the numbers that are read there and are in the range of their
    types. -/
theorem self_delimiting :
    (∀ e₁ e₂ t₁ t₂, encode e₁ ++ t₁ = encode e₂ ++ t₂ → e₁ = e₂ ∧ t₁ = t₂) ∧
    (∀ e before t,
      Reader.expr (before ++ (encode e ++ t)) before.length = some ⟨e, (encode e).length⟩ ∧
      (before ++ (encode e ++ t)).drop (before.length + (encode e).length) = t) ∧
    (∀ data pos n,
      (∀ x : UInt32, Reader.index data pos = some ⟨x, n⟩ ↔
        Leb128.readUnsigned data pos = .ok ⟨x.toNat, n⟩) ∧
      (∀ v : Int32, Reader.constant32 data pos = some ⟨v, n⟩ ↔
        Leb128.readSigned data pos = .ok ⟨v.toInt, n⟩) ∧
      (∀ v : Int64, Reader.constant64 data pos = some ⟨v, n⟩ ↔
        Leb128.readSigned data pos = .ok ⟨v.toInt, n⟩)) := by
  refine ⟨fun e₁ e₂ t₁ t₂ h => encode_prefixFree h, fun e before t => ⟨?_, ?_⟩,
    fun data pos n => ⟨fun x => ?_, fun v => ?_, fun v => ?_⟩⟩
  · exact Reader.ReadsBack.expr e before t
  · rw [← List.drop_drop, List.drop_left, List.drop_left]
  · exact Reader.index_eq_some_iff
  · exact Reader.constant32_eq_some_iff
  · exact Reader.constant64_eq_some_iff

/-- The byte of `end` and that of `call` as indices, and a constant of which a byte is the opcode of
    `drop`. -/
example : Reader.expr (0xFF :: (encode [.localGet 0x0B, .call 0x10, .i32Const 0xD1A, .drop]
      ++ [0x0B])) 1 = some ⟨[.localGet 0x0B, .call 0x10, .i32Const 0xD1A, .drop], 9⟩ := by
  cbv

end Expr

end WasmBinary
