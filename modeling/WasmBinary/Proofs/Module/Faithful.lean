/-
  Writing a module loses nothing.

  The bytes of a module determine every declaration in it, in order, whether or not the module
  keeps the rules.  The way back is:

  1. sections are prefix-free and never empty, so the bytes determine the list of sections
     (`sections_eq_of_bytes`);
  2. the sections determine the vector of every kind, and a section that is left out stands for
     no items (`vector_eq_of_sections`);
  3. items are prefix-free, so the vectors determine the declarations;
  4. a function lies in two sections: one list gives its type, the other its runs and its body.
     `Func.ofParts` joins them again, and the runs give back the locals while counts do not wrap.
-/
import WasmBinary.Proofs.Declarations
import WasmBinary.Proofs.Locals
import WasmBinary.Proofs.Module.Sections

namespace WasmBinary

/-! ## From bytes to sections -/

/-- The six kinds of sections have six different numbers. -/
theorem SectionKind.id_injective : Function.Injective SectionKind.id := by
  intro a b h
  cases a <;> cases b <;> first
    | rfl
    | exact absurd h (by decide)

/-- A section is a number and a byte vector, and both tell where they end. -/
theorem Section.encode_prefixFree : PrefixFree Section.encode := by
  rintro ⟨kind, payload⟩ ⟨kind', payload'⟩ s t h
  obtain ⟨hid, h'⟩ := List.cons.inj h
  obtain ⟨rfl, hst⟩ := Vec.ofBytes_prefixFree h'
  obtain rfl : kind = kind' := SectionKind.id_injective hid
  exact ⟨rfl, hst⟩

/-- No section is without bytes, so that a row of them needs no count in front. -/
theorem Section.encode_ne_nil (s : Section) : s.encode ≠ [] :=
  List.cons_ne_nil _ _

namespace Module

/-- The bytes of a module tell its sections, as the header is always the same. -/
theorem sections_eq_of_bytes {m₁ m₂ : Module} (h : m₁.write.bytes = m₂.write.bytes) :
    m₁.sections = m₂.sections := by
  have hsections : m₁.sections.flatMap Section.encode = m₂.sections.flatMap Section.encode :=
    List.append_cancel_left h
  exact Section.encode_prefixFree.flatMap_injective Section.encode_ne_nil hsections

/-- The sections of a module tell the vector of each kind, also where there is no section because
    the vector is empty. -/
theorem vector_eq_of_sections {m₁ m₂ : Module} (h : m₁.sections = m₂.sections)
    (kind : SectionKind) : Vec.ofItems (m₁.items kind) = Vec.ofItems (m₂.items kind) :=
  Section.ofItems_eq_of_ofItems? (ofItems?_eq_of_sections h kind)

end Module

/-! ## Functions, joined from their two sections -/

namespace Func

/-- A function from its type index and its code entry. -/
def ofParts (typ : TypeIdx) (e : List LocalRun × Expr) : Func :=
  ⟨typ, LocalRun.expand e.1, e.2⟩

/-- A function whose locals can be counted is joined again from its type and its code entry. -/
theorem ofParts_entry {f : Func} (h : f.locals.length < 2 ^ 32) : ofParts f.typ f.entry = f := by
  obtain ⟨typ, locals, body⟩ := f
  exact congrArg (fun l => (⟨typ, l, body⟩ : Func)) (LocalRun.expand_group locals h)

/-- Lists of functions are equal when their types are and their entries are. -/
theorem eq_of_parts : ∀ {fs gs : List Func}, (∀ f ∈ fs, f.locals.length < 2 ^ 32) →
    (∀ g ∈ gs, g.locals.length < 2 ^ 32) → fs.map typ = gs.map typ →
    fs.map entry = gs.map entry → fs = gs
  | [], [], _, _, _, _ => rfl
  | f :: fs, g :: gs, hf, hg, htyp, hentry => by
    obtain ⟨htyp₀, htyps⟩ := List.cons.inj htyp
    obtain ⟨hentry₀, hentries⟩ := List.cons.inj hentry
    have hhead : f = g := by
      rw [← ofParts_entry (hf f List.mem_cons_self), ← ofParts_entry (hg g List.mem_cons_self),
        htyp₀, hentry₀]
    rw [hhead, eq_of_parts (fun x hx => hf x (List.mem_cons_of_mem f hx))
      (fun x hx => hg x (List.mem_cons_of_mem g hx)) htyps hentries]

end Func

/-! ## From sections to declarations -/

attribute [ext] Module

namespace Module

/-- **A module is known by its bytes.**  Counts of runs are 32-bit words, so a function with 2^32 or
    more equal locals in a row would not be; nothing else is asked of the modules. -/
theorem write_injective {m₁ m₂ : Module} (h₁ : ∀ f ∈ m₁.funcs, f.locals.length < 2 ^ 32)
    (h₂ : ∀ f ∈ m₂.funcs, f.locals.length < 2 ^ 32) (h : m₁.write.bytes = m₂.write.bytes) :
    m₁ = m₂ := by
  have hvec : ∀ kind, Vec.ofItems (m₁.items kind) = Vec.ofItems (m₂.items kind) :=
    vector_eq_of_sections (sections_eq_of_bytes h)
  have htypes : m₁.types = m₂.types :=
    (Vec.ofItems_prefixFree FuncType.encode_prefixFree).injective (hvec .types)
  have himports : m₁.imports = m₂.imports :=
    (Vec.ofItems_prefixFree Import.encode_prefixFree).injective (hvec .imports)
  have hmems : m₁.mems = m₂.mems :=
    (Vec.ofItems_prefixFree Limits.encode_prefixFree).injective (hvec .memories)
  have hexports : m₁.exports = m₂.exports :=
    (Vec.ofItems_prefixFree Export.encode_prefixFree).injective (hvec .exports)
  -- the two halves of the functions
  have htyps : m₁.funcs.map Func.typ = m₂.funcs.map Func.typ := by
    apply (Vec.ofItems_prefixFree Func.writeType_prefixFree).injective
    simp only [List.map_map]
    exact hvec .functions
  have hentries : m₁.funcs.map Func.entry = m₂.funcs.map Func.entry := by
    apply (Vec.ofItems_prefixFree Func.writeEntry_prefixFree).injective
    simp only [List.map_map]
    exact hvec .code
  have hfuncs : m₁.funcs = m₂.funcs := Func.eq_of_parts h₁ h₂ htyps hentries
  exact Module.ext htypes himports hfuncs hmems hexports

/-- Two ways to declare the same locals. -/
theorem write_injective_replicate :
    (∀ f ∈ (Module.mk [{}] [] [⟨0, List.replicate 2 .i32 ++ [.f64], [.nop]⟩] [] []).funcs,
      f.locals.length < 2 ^ 32) ∧
    (∀ f ∈ (Module.mk [{}] [] [⟨0, [.i32, .i32, .f64], [.nop]⟩] [] []).funcs,
      f.locals.length < 2 ^ 32) ∧
    (Module.mk [{}] [] [⟨0, List.replicate 2 .i32 ++ [.f64], [.nop]⟩] [] []).write.bytes
      = (Module.mk [{}] [] [⟨0, [.i32, .i32, .f64], [.nop]⟩] [] []).write.bytes ∧
    Module.mk [{}] [] [⟨0, List.replicate 2 .i32 ++ [.f64], [.nop]⟩] [] []
      = Module.mk [{}] [] [⟨0, [.i32, .i32, .f64], [.nop]⟩] [] [] :=
  ⟨by decide, by decide, rfl, write_injective (by decide) (by decide) rfl⟩

end Module

end WasmBinary
