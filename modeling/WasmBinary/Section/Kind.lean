/-
  Section kinds and section names.

  A binary module is a header and a sequence of sections.  Each section starts with an id byte.
  Six ids are known here; a section with any other id keeps its number and is called
  `unknown_<id>`.  Distinct names render as distinct texts, so a section can be looked up by the
  text of its name (`SectionName.designatedBy_iff`).
-/

namespace WasmBinary

/-- The kinds of sections that modules are written with. -/
inductive SectionKind
  | types
  | imports
  | functions
  | memories
  | exports
  | code
deriving DecidableEq, Repr

namespace SectionKind

/-- All kinds, in the order in which a module holds them. -/
def all : List SectionKind :=
  [types, imports, functions, memories, exports, code]

/-- The id byte of a kind. -/
def id : SectionKind → UInt8
  | types => 1
  | imports => 2
  | functions => 3
  | memories => 5
  | exports => 7
  | code => 10

/-- The kind that an id byte stands for. -/
def ofId? (b : UInt8) : Option SectionKind :=
  all.find? (·.id == b)

/-- What a section of this kind is called. -/
def name : SectionKind → String
  | types => "type"
  | imports => "import"
  | functions => "function"
  | memories => "memory"
  | exports => "export"
  | code => "code"

end SectionKind

/-- The parts of a binary module. -/
inductive SectionName
  /-- The magic number and the version. -/
  | header
  | known (kind : SectionKind)
  | unknown (id : UInt8)
deriving DecidableEq, Repr

namespace SectionName

/-- The name of a section that starts with an id byte. -/
def ofId (b : UInt8) : SectionName :=
  match SectionKind.ofId? b with
  | some kind => known kind
  | none => unknown b

/-- How a name is written. -/
def text : SectionName → String
  | header => "header"
  | known kind => kind.name
  | unknown id => "unknown_" ++ toString id.toNat

/-- Whether a text designates a part.  The names that are known are compared as they stand, and only
    one with a number has to be written out for that. -/
def designatedBy (n : SectionName) (name : String) : Bool :=
  match n with
  | header => name == "header"
  | known kind => name == kind.name
  | unknown _ => name == n.text

/-- A text designates a part when it is exactly what the name of the part is written as. -/
theorem designatedBy_iff {n : SectionName} {name : String} :
    n.designatedBy name = true ↔ n.text = name := by
  cases n <;> exact beq_iff_eq.trans eq_comm

end SectionName

end WasmBinary
