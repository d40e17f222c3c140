/-
  What is logged about making, writing, reading and auditing modules.

  The operations themselves are functions without effects.  For each of them there is a function
  here that gives its records, computed from the same arguments.  An operation that fails leaves
  the records it made before it failed.
-/
import WasmBinary.Audit.Report
import WasmBinary.Journal.Record
import WasmBinary.Module.Builder

namespace WasmBinary.Journal

/-! ## Making -/

/-- How a value type is shown. -/
def valTypeText : ValType → String
  | .i32 => "I32"
  | .i64 => "I64"
  | .f32 => "F32"
  | .f64 => "F64"

/-- Value types in brackets. -/
def valTypesText (types : List ValType) : String :=
  "[" ++ ", ".intercalate (types.map valTypeText) ++ "]"

/-- The record of one step of a builder.  A type that is known already, a memory and an export are
    passed over in silence, and so is a step that fails. -/
def ofDeclaration (b : Builder) (step : Declaration) : Journal :=
  match b.declare step with
  | .error _ => []
  | .ok (idx, _) =>
      let idx := toString ((idx.getD 0).toNat)
      match step with
      | .funcType typ =>
          if b.draft.types.contains typ then []
          else [⟨.debug, .builder, "type " ++ idx ++ ": " ++ valTypesText typ.params ++ " -> "
            ++ valTypesText typ.results⟩]
      | .importFunc source field _ =>
          [⟨.debug, .builder, "import func " ++ idx ++ ": " ++ source ++ "." ++ field⟩]
      | .importMemory source field _ =>
          [⟨.debug, .builder, "import memory " ++ idx ++ ": " ++ source ++ "." ++ field⟩]
      | .func f => [⟨.debug, .builder, "func " ++ idx ++ ": type " ++ toString f.typ.toNat⟩]
      | .memory _ | .exportFunc _ _ | .exportMemory _ _ => []

/-- The records of several steps, up to the first one that fails. -/
def ofDeclarations (b : Builder) : List Declaration → Journal
  | [] => []
  | step :: steps =>
      ofDeclaration b step ++
        match b.declare step with
        | .error _ => []
        | .ok (_, b) => ofDeclarations b steps

/-! ## Writing -/

/-- Checking the rules is announced. -/
def ofValidate : Journal :=
  [⟨.info, .rules, "validating..."⟩]

/-- One record for each section. -/
def ofWrite (m : Module) : Journal :=
  m.sections.map fun s =>
    ⟨.debug, .writer, s.kind.name ++ " section: " ++ toString s.encode.length ++ " bytes"⟩

/-- Writing is announced only where the rules are kept. -/
def ofEncode (m : Module) : Journal :=
  ofValidate ++
    match m.violation? with
    | some _ => []
    | none => ⟨.info, .rules, "encoding..."⟩ :: ofWrite m

/-! ## Reading -/

/-- One record for each section that the walk stepped over. -/
def ofParse (data : Bytes) : Journal :=
  ⟨.info, .sections, "parsing sections..."⟩ ::
    (Walk.ofModule data).spans.map fun span =>
      ⟨.trace, .sections, span.name.text ++ " @" ++ Hex.tagged span.offset ++ ": "
        ++ toString span.length ++ " bytes"⟩

/-! ## Auditing -/

/-- A warning for each finding that fails. -/
def ofFindings (findings : List Finding) : Journal :=
  (findings.filter fun f => !f.passed).map fun f => ⟨.warn, .audit, f.text⟩

/-- The walk over the bytes, then the findings. -/
def ofInspect (encoded : Encoded) (expectedBody : Bytes) : Journal :=
  ⟨.info, .audit, "cross-validating..."⟩ :: (ofParse encoded.bytes ++
    match Audit.inspect encoded expectedBody with
    | .error _ => []
    | .ok findings => ofFindings findings)

/-- An oracle that agrees is passed over in silence. -/
def ofVerdict : Verdict → Journal
  | .unavailable reason => [⟨.info, .oracle, "oracle unavailable: " ++ reason⟩]
  | .identical _ => []
  | .different ours reference _ =>
      [⟨.warn, .oracle, "oracle disagrees: ours=" ++ toString ours ++ " bytes, reference="
        ++ toString reference ++ " bytes"⟩]

/-- The inspection, then the verdict on an oracle's answer. -/
def ofAudit (encoded : Encoded) (expectedBody : Bytes) (answer : Option OracleAnswer) : Journal :=
  ofInspect encoded expectedBody ++
    match Audit.audit encoded expectedBody answer with
    | .error _ => []
    | .ok report => (report.oracle.map ofVerdict).getD []

end WasmBinary.Journal
