/-
  The sections of a module, kind by kind.

  `Module.items` gives every kind its encoded declarations, so that the six sections of a module
  are one expression over `SectionKind.all` (`sections_eq`) and facts about them need no case for
  each kind.  A section stands in the module exactly when it is the section of its kind
  (`mem_sections`); the list of sections and the items of every kind determine each other.
-/
import WasmBinary.Module.Encode

namespace WasmBinary

namespace SectionKind

theorem mem_all (kind : SectionKind) : kind ∈ all := by
  cases kind <;> decide

/-- The order of the kinds is the order of their ids. -/
theorem all_increasing : all.Pairwise fun a b => a.id < b.id := by
  decide

end SectionKind

namespace Section

/-- There is a section exactly where there are items, and it is the vector of them. -/
theorem ofItems?_eq_some {kind : SectionKind} {items : List Bytes} {s : Section} :
    ofItems? kind items = some s ↔ items ≠ [] ∧ s = ⟨kind, Vec.ofItems items⟩ := by
  cases items with
  | nil => simp [ofItems?]
  | cons item items => simp [ofItems?, eq_comm]

/-- An absent section stands for no items, so nothing is lost by leaving it out. -/
theorem ofItems_eq_of_ofItems? {kind : SectionKind} {xs ys : List Bytes}
    (h : ofItems? kind xs = ofItems? kind ys) : Vec.ofItems xs = Vec.ofItems ys := by
  cases xs with
  | nil =>
    cases ys with
    | nil => rfl
    | cons y ys => simp [ofItems?] at h
  | cons x xs =>
    have hx : ofItems? kind (x :: xs) = some ⟨kind, Vec.ofItems (x :: xs)⟩ := rfl
    obtain ⟨-, hs⟩ := ofItems?_eq_some.mp (h ▸ hx)
    exact congrArg payload hs

end Section

/-- Where no item is empty, there are no more items than bytes. -/
theorem Vec.length_le_flatten {items : List Bytes} (h : [] ∉ items) :
    items.length ≤ items.flatten.length := by
  induction items with
  | nil => exact Nat.le_refl 0
  | cons item items ih =>
    obtain ⟨hitem, hitems⟩ := not_or.mp (mt List.mem_cons.mpr h)
    have hpos := List.length_pos_iff.mpr fun hnil => hitem hnil.symm
    have hrest := ih hitems
    rw [List.flatten_cons, List.length_append, List.length_cons]
    omega

namespace Func

/-- The entry of a function in the code section is longer than its body. -/
theorem length_encodeBody_le (f : Func) : f.encodeBody.length ≤ f.encodeEntry.length := by
  rw [encodeEntry, Vec.ofBytes, List.length_append]
  exact Nat.le_add_left _ _

/-- A body has its closing `end` at least, so no entry is empty. -/
theorem nil_notMem_entries (funcs : List Func) : [] ∉ funcs.map encodeEntry := by
  rw [List.mem_map]
  rintro ⟨f, -, hnil⟩
  have hle := f.length_encodeBody_le
  rw [hnil, List.length_nil, encodeBody, Expr.encode, List.length_append, List.length_append,
    List.length_singleton] at hle
  omega

end Func

namespace Module

/-- The encoded declarations that the section of a kind holds. -/
def items (m : Module) : SectionKind → List Bytes
  | .types => m.types.map FuncType.encode
  | .imports => m.imports.map Import.encode
  | .functions => m.funcs.map Func.encodeType
  | .memories => m.mems.map Limits.encode
  | .exports => m.exports.map Export.encode
  | .code => m.funcs.map Func.encodeEntry

/-- The sections of a module are made kind by kind, where there is something to be made. -/
theorem sections_eq (m : Module) :
    m.sections = SectionKind.all.filterMap fun kind => Section.ofItems? kind (m.items kind) := rfl

/-- A section is one of a module's just if it is what is made of the items of its kind. -/
theorem mem_sections {m : Module} {s : Section} :
    s ∈ m.sections ↔ Section.ofItems? s.kind (m.items s.kind) = some s := by
  rw [sections_eq, List.mem_filterMap]
  constructor
  · rintro ⟨kind, -, h⟩
    obtain ⟨-, hs⟩ := Section.ofItems?_eq_some.mp h
    obtain rfl : s.kind = kind := congrArg Section.kind hs
    exact h
  · intro h
    exact ⟨s.kind, SectionKind.mem_all s.kind, h⟩

/-- Modules with the same sections have the same section, or none, for every kind. -/
theorem ofItems?_eq_of_sections {m₁ m₂ : Module} (h : m₁.sections = m₂.sections)
    (kind : SectionKind) :
    Section.ofItems? kind (m₁.items kind) = Section.ofItems? kind (m₂.items kind) := by
  -- what is made of the items of a kind is a section of the module, or nothing is made
  have key : ∀ s : Section, s.kind = kind →
      (Section.ofItems? kind (m₁.items kind) = some s ↔
        Section.ofItems? kind (m₂.items kind) = some s) := by
    rintro s rfl
    rw [← mem_sections, ← mem_sections, h]
  ext s
  constructor
  · intro hs
    exact (key s (congrArg Section.kind (Section.ofItems?_eq_some.mp hs).2)).mp hs
  · intro hs
    exact (key s (congrArg Section.kind (Section.ofItems?_eq_some.mp hs).2)).mpr hs

/-- Whether a module declares something that belongs into the section of a kind. -/
def declares (m : Module) : SectionKind → Bool
  | .types => !m.types.isEmpty
  | .imports => !m.imports.isEmpty
  | .functions => !m.funcs.isEmpty
  | .memories => !m.mems.isEmpty
  | .exports => !m.exports.isEmpty
  | .code => !m.funcs.isEmpty

/-- A module declares something of a kind just if there are items of that kind. -/
theorem declares_eq (m : Module) (kind : SectionKind) :
    m.declares kind = !(m.items kind).isEmpty := by
  cases kind <;> simp only [declares, items, List.isEmpty_map]

/-- The kinds that a module has sections for, in the order of all kinds. -/
def kinds (m : Module) : List SectionKind :=
  SectionKind.all.filter m.declares

/-- The numbers of the sections increase. -/
theorem kinds_increasing (m : Module) : m.kinds.Pairwise fun a b => a.id < b.id :=
  SectionKind.all_increasing.filter _

/-- The sections have the kinds of which something is declared, in the order of all kinds. -/
theorem map_kind_sections (m : Module) : m.sections.map Section.kind = m.kinds := by
  rw [sections_eq, kinds]
  induction SectionKind.all with
  | nil => rfl
  | cons kind kinds ih =>
    have hdeclares := declares_eq m kind
    -- both sides leave out a kind that has no items
    cases hi : (m.items kind).isEmpty with
    | true =>
      have hnone : Section.ofItems? kind (m.items kind) = none := by simp [Section.ofItems?, hi]
      rw [List.filter_cons_of_neg (by simp [hdeclares, hi]), ← ih]
      simp only [List.filterMap_cons, hnone]
    | false =>
      have hsome : Section.ofItems? kind (m.items kind)
          = some ⟨kind, Vec.ofItems (m.items kind)⟩ := by simp [Section.ofItems?, hi]
      rw [List.filter_cons_of_pos (by simp [hdeclares, hi]), ← ih]
      simp only [List.filterMap_cons, hsome, List.map_cons]

end Module

end WasmBinary
