/-
  A module passes exactly if it is valid, and one that does not is told the first rule it breaks.

  1. **Rules** — `Valid` is what a module has to keep, as conditions on its lists and nothing else.

  2. **Places** — every rule is kept or broken at a PLACE: at an entry of one of the lists, and
     there as one of the entry's rules, which are numbered.  `Breaks` says at which places a module
     breaks which rules.  It knows nothing of an order and of a first one; it names all of them, so
     that a module is valid exactly if there are none (`valid_iff`).  Places are ordered list by
     list, entry by entry and rule by rule (`Before`).

  3. **The first one** — a check is right if it finds the first place where a rule is broken, and
     finds nothing only if there is none (`First`).  Checks that are made one after the other are
     right for the places of both, as long as the places of the one lie before those of the other
     (`First.or`).  From this come the entry, the list and the whole module (`first_limits`,
     `First.along_findSome`, `first_violation`).  Only the names of exports need more: a set of
     names stands for the exports that were passed, and that is what the induction keeps
     (`first_exports`).
-/
import Std.Data.HashSet.Lemmas
import WasmBinary.Module.Validate

namespace WasmBinary

/-! ## Rules -/

/-- What a memory may ask for: no more than a 32-bit address reaches, and no less at most than at
    first. -/
def Limits.InRange (l : Limits) : Prop :=
  l.min.toNat ≤ 65536 ∧ ∀ max, l.max = some max → l.min.toNat ≤ max.toNat ∧ max.toNat ≤ 65536

/-- What a module has to keep. -/
structure Module.Valid (m : Module) : Prop where
  importTypes : ∀ i ∈ m.imports, ∀ typ, i.desc = .func typ → typ.toNat < m.types.length
  importLimits : ∀ i ∈ m.imports, ∀ limits, i.desc = .mem limits → limits.InRange
  funcTypes : ∀ f ∈ m.funcs, f.typ.toNat < m.types.length
  memLimits : ∀ limits ∈ m.mems, limits.InRange
  exportFuncs : ∀ e ∈ m.exports, ∀ idx, e.desc = .func idx →
    idx.toNat < m.importedFuncs.length + m.funcs.length
  exportMems : ∀ e ∈ m.exports, ∀ idx, e.desc = .mem idx →
    idx.toNat < m.importedMems.length + m.mems.length
  exportNames : (m.exports.map Export.name).Nodup
  memories : m.importedMems.length + m.mems.length ≤ 1

/-! ## Places -/

/-- The lists of a module in the order in which they are looked through, and its memories in all. -/
inductive Part
  | imports
  | funcs
  | mems
  | exports
  | memories
deriving DecidableEq, Repr

/-- The rank of a part in that order. -/
def Part.rank : Part → Nat
  | imports => 0
  | funcs => 1
  | mems => 2
  | exports => 3
  | memories => 4

/-- Where a rule is kept or broken: a part, the position of an entry, and the number of a rule among
    those for the entry. -/
structure Place where
  part : Part
  index : Nat
  rule : Nat
deriving DecidableEq, Repr

/-- Part by part, entry by entry, rule by rule. -/
def Place.Before (p q : Place) : Prop :=
  p.part.rank < q.part.rank ∨ p.part = q.part ∧
    (p.index < q.index ∨ p.index = q.index ∧ p.rule < q.rule)

/-- Of two places at most one is before the other. -/
theorem Place.Before.asymm {p q : Place} (h : p.Before q) : ¬ q.Before p := by
  rintro (hlt | ⟨hpart, hlt⟩) <;> obtain hlt' | ⟨hpart', hlt'⟩ := h
  · omega
  · rw [hpart'] at hlt
    omega
  · rw [hpart] at hlt'
    omega
  · omega

/-- The rules that limits break, by their numbers. -/
inductive Limits.Breaks (l : Limits) : Nat → Violation → Prop
  | minBeyondRange : 65536 < l.min.toNat → Breaks l 0 .minBeyondRange
  | maxBeyondRange {max : UInt32} : l.max = some max → 65536 < max.toNat →
      Breaks l 1 .maxBeyondRange
  | maxBelowMin {max : UInt32} : l.max = some max → max.toNat < l.min.toNat →
      Breaks l 2 .maxBelowMin

/-- The rules that an import breaks, where `types` types are declared. -/
inductive Import.Breaks (types : Nat) (i : Import) : Nat → Violation → Prop
  | type {typ : TypeIdx} : i.desc = .func typ → types ≤ typ.toNat → Breaks types i 0 .importType
  | limits {limits : Limits} {rule : Nat} {v : Violation} : i.desc = .mem limits →
      limits.Breaks rule v → Breaks types i rule v

/-- The rule that a function breaks, where `types` types are declared. -/
inductive Func.Breaks (types : Nat) (f : Func) : Nat → Violation → Prop
  | type : types ≤ f.typ.toNat → Breaks types f 0 .funcType

/-- The rules that an export breaks, behind the exports `earlier`. -/
inductive Export.Breaks (funcs mems : Nat) (earlier : List Export) (e : Export) :
    Nat → Violation → Prop
  | func {idx : FuncIdx} : e.desc = .func idx → funcs ≤ idx.toNat →
      Breaks funcs mems earlier e 0 .exportFunc
  | mem {idx : MemIdx} : e.desc = .mem idx → mems ≤ idx.toNat →
      Breaks funcs mems earlier e 0 .exportMem
  | name {other : Export} : other ∈ earlier → other.name = e.name →
      Breaks funcs mems earlier e 1 .exportName

/-- The rules that a module breaks, and where. -/
inductive Module.Breaks (m : Module) : Place → Violation → Prop
  | imported {k rule : Nat} {i : Import} {v : Violation} : m.imports[k]? = some i →
      i.Breaks m.types.length rule v → Breaks m ⟨.imports, k, rule⟩ v
  | func {k rule : Nat} {f : Func} {v : Violation} : m.funcs[k]? = some f →
      f.Breaks m.types.length rule v → Breaks m ⟨.funcs, k, rule⟩ v
  | mem {k rule : Nat} {limits : Limits} {v : Violation} : m.mems[k]? = some limits →
      limits.Breaks rule v → Breaks m ⟨.mems, k, rule⟩ v
  | exported {k rule : Nat} {e : Export} {v : Violation} : m.exports[k]? = some e →
      e.Breaks (m.importedFuncs.length + m.funcs.length) (m.importedMems.length + m.mems.length)
        (m.exports.take k) rule v → Breaks m ⟨.exports, k, rule⟩ v
  | memories : 1 < m.importedMems.length + m.mems.length →
      Breaks m ⟨.memories, 0, 0⟩ .memoryCount

/-- The three rules for limits have three different numbers. -/
theorem Limits.Breaks.unique {l : Limits} {rule : Nat} {v w : Violation} (hv : l.Breaks rule v)
    (hw : l.Breaks rule w) : v = w := by
  cases hv <;> cases hw <;> rfl

/-- An import is of one kind, and so it is only the rules for that kind that it can break. -/
theorem Import.Breaks.unique {types rule : Nat} {i : Import} {v w : Violation}
    (hv : i.Breaks types rule v) (hw : i.Breaks types rule w) : v = w := by
  cases hv with
  | type hdesc _ =>
    cases hw with
    | type _ _ => rfl
    | limits hother _ => nomatch hdesc.symm.trans hother
  | limits hdesc hv =>
    cases hw with
    | type hother _ => nomatch hdesc.symm.trans hother
    | limits hother hw =>
      obtain rfl := ImportDesc.mem.inj (hdesc.symm.trans hother)
      exact hv.unique hw

/-- An export refers to a function or to a memory, and its name has a number of its own. -/
theorem Export.Breaks.unique {funcs mems rule : Nat} {earlier : List Export} {e : Export}
    {v w : Violation} (hv : e.Breaks funcs mems earlier rule v)
    (hw : e.Breaks funcs mems earlier rule w) : v = w := by
  cases hv with
  | func hdesc _ =>
    cases hw with
    | func _ _ => rfl
    | mem hother _ => nomatch hdesc.symm.trans hother
  | mem hdesc _ =>
    cases hw with
    | func hother _ => nomatch hdesc.symm.trans hother
    | mem _ _ => rfl
  | name _ _ =>
    cases hw
    rfl

/-- At a place only one rule can be broken: the place tells the entry, and the number tells the rule
    among those for the entry. -/
theorem Module.Breaks.unique {m : Module} {p : Place} {v w : Violation} (hv : m.Breaks p v)
    (hw : m.Breaks p w) : v = w := by
  cases hv with
  | imported hi hv =>
    cases hw with
    | imported hj hw =>
      obtain rfl := Option.some.inj (hi.symm.trans hj)
      exact hv.unique hw
  | func _ hv =>
    cases hw with
    | func _ hw =>
      cases hv
      cases hw
      rfl
  | mem hi hv =>
    cases hw with
    | mem hj hw =>
      obtain rfl := Option.some.inj (hi.symm.trans hj)
      exact hv.unique hw
  | exported hi hv =>
    cases hw with
    | exported hj hw =>
      obtain rfl := Option.some.inj (hi.symm.trans hj)
      exact hv.unique hw
  | memories _ =>
    cases hw
    rfl

/-! ## The first one -/

/-- A check finds the first place where a rule is broken, and nothing only if there is none. -/
inductive First (breaks : Place → Violation → Prop) : Option Violation → Prop
  | nothing : (∀ p v, ¬ breaks p v) → First breaks none
  | found {p : Place} {v : Violation} : breaks p v →
      (∀ q w, breaks q w → q = p ∨ p.Before q) → First breaks (some v)

/-- The rules that are broken at one entry. -/
def AtEntry (part : Part) (index : Nat) (rules : Nat → Violation → Prop) (p : Place)
    (v : Violation) : Prop :=
  p.part = part ∧ p.index = index ∧ rules p.rule v

/-- The rules that are broken along a list, whose first entry has the position `start`.  The rules
    for an entry may depend on how far down the list it is. -/
def Along {α : Type} (part : Part) (start : Nat) (entries : List α)
    (rules : Nat → α → Nat → Violation → Prop) (p : Place) (v : Violation) : Prop :=
  p.part = part ∧ ∃ k e, p.index = start + k ∧ entries[k]? = some e ∧ rules k e p.rule v

namespace First

section Checks

variable {A B : Place → Violation → Prop} {x y : Option Violation}

/-- What is first depends on nothing but which rules are broken where. -/
theorem congr (h : First A x) (hAB : ∀ p v, A p v ↔ B p v) : First B x := by
  cases h with
  | nothing hnone => exact .nothing fun p v hp => hnone p v ((hAB p v).mpr hp)
  | found hp hfirst =>
    exact .found ((hAB _ _).mp hp) fun q w hq => hfirst q w ((hAB q w).mpr hq)

/-- One check after the other finds what is first in the places of both. -/
theorem or (hx : First A x) (hy : First B y) (hAB : ∀ p q v w, A p v → B q w → p.Before q) :
    First (fun p v => A p v ∨ B p v) (x.or y) := by
  cases hx with
  | found hp hfirst =>
    -- what the first check finds is in front of all that the second could find
    refine .found (.inl hp) fun q w hq => ?_
    obtain hq | hq := hq
    · exact hfirst q w hq
    · exact .inr (hAB _ _ _ _ hp hq)
  | nothing hnone =>
    -- the first check finds nothing, so that the rules of the second are all that can be broken
    refine hy.congr fun p v => ⟨.inr, fun hp => ?_⟩
    obtain hp | hp := hp
    · exact absurd hp (hnone p v)
    · exact hp

/-- Nothing is found just where nothing is broken. -/
theorem eq_none_iff (h : First A x) : x = none ↔ ∀ p v, ¬ A p v := by
  cases h with
  | nothing hnone => exact ⟨fun _ => hnone, fun _ => rfl⟩
  | found hp _ => exact ⟨nofun, fun hnone => absurd hp (hnone _ _)⟩

/-- What is first is told, if no two rules share a place. -/
theorem eq_some_iff (h : First A x) (hunique : ∀ p v w, A p v → A p w → v = w) {v : Violation} :
    x = some v ↔ ∃ p, A p v ∧ ∀ q w, A q w → q = p ∨ p.Before q := by
  cases h with
  | nothing hnone => exact ⟨nofun, fun ⟨p, hp, _⟩ => absurd hp (hnone p v)⟩
  | @found p w hp hfirst =>
    constructor
    · rintro ⟨⟩
      exact ⟨p, hp, hfirst⟩
    · rintro ⟨q, hq, hfirst'⟩
      obtain rfl | hbefore := hfirst q v hq
      · rw [hunique q w v hp hq]
      · -- both are first, so that neither is before the other
        obtain rfl | hafter := hfirst' p w hp
        · rw [hunique p w v hp hq]
        · exact absurd hafter hbefore.asymm

end Checks

section Entries

variable {part : Part} {index : Nat} {rules more : Nat → Violation → Prop}
  {x y : Option Violation}

/-- The same for the rules of one entry. -/
theorem congr_at (h : First (AtEntry part index rules) x) (hrules : ∀ r v, rules r v ↔ more r v) :
    First (AtEntry part index more) x :=
  h.congr fun p v => and_congr_right fun _ => and_congr_right fun _ => hrules p.rule v

/-- Rules with lesser numbers are checked first. -/
theorem or_at (hx : First (AtEntry part index rules) x) (hy : First (AtEntry part index more) y)
    (hlt : ∀ r s v w, rules r v → more s w → r < s) :
    First (AtEntry part index fun r v => rules r v ∨ more r v) (x.or y) := by
  refine (hx.or hy ?_).congr fun p v => ?_
  · rintro p q v w ⟨rfl, rfl, hp⟩ ⟨hpart, hindex, hq⟩
    exact .inr ⟨hpart.symm, .inr ⟨hindex.symm, hlt _ _ v w hp hq⟩⟩
  · rw [AtEntry, AtEntry, AtEntry, ← and_or_left, ← and_or_left]

/-- The rule with the least number is the first one of an entry. -/
theorem found_at {rule : Nat} {v : Violation} (hrule : rules rule v)
    (hleast : ∀ r w, rules r w → rule ≤ r) : First (AtEntry part index rules) (some v) := by
  refine .found (p := ⟨part, index, rule⟩) ⟨rfl, rfl, hrule⟩ ?_
  rintro ⟨part', index', rule'⟩ w ⟨rfl, rfl, hw⟩
  obtain hlt | heq := Nat.lt_or_eq_of_le (hleast rule' w hw)
  · exact .inr (.inr ⟨rfl, .inr ⟨rfl, hlt⟩⟩)
  · subst heq
    exact .inl rfl

/-- Where an entry breaks no rule, nothing is the first one. -/
theorem nothing_at (hnone : ∀ r w, ¬ rules r w) : First (AtEntry part index rules) none :=
  .nothing fun p v hp => hnone p.rule v hp.2.2

/-- A rule that an entry is checked for alone. -/
theorem at_if {broken : Prop} [Decidable broken] (rule : Nat) {v : Violation}
    (hrules : ∀ r w, rules r w ↔ broken ∧ r = rule ∧ w = v) :
    First (AtEntry part index rules) (if broken then some v else none) := by
  by_cases h : broken
  · rw [if_pos h]
    exact found_at ((hrules _ _).mpr ⟨h, rfl, rfl⟩) fun r w hr =>
      Nat.le_of_eq ((hrules r w).mp hr).2.1.symm
  · rw [if_neg h]
    exact nothing_at fun r w hr => h ((hrules r w).mp hr).1

/-- The same with the condition that the rule demands. -/
theorem at_unless {kept : Prop} [Decidable kept] (rule : Nat) {v : Violation}
    (hrules : ∀ r w, rules r w ↔ ¬ kept ∧ r = rule ∧ w = v) :
    First (AtEntry part index rules) (if kept then none else some v) := by
  rw [← ite_not]
  exact at_if rule hrules

end Entries

section Lists

variable {α : Type} (part : Part)

/-- In an empty list no rule is broken. -/
theorem along_nil {start : Nat} {rules : Nat → α → Nat → Violation → Prop} :
    First (Along part start [] rules) none :=
  .nothing fun _ _ ⟨_, _, _, _, hget, _⟩ => nomatch hget

/-- An entry in front of a list is checked before the list. -/
theorem along_cons {start : Nat} {e : α} {entries : List α}
    {rules : Nat → α → Nat → Violation → Prop} {x y : Option Violation}
    (hx : First (AtEntry part start (rules 0 e)) x)
    (hy : First (Along part (start + 1) entries fun k => rules (k + 1)) y) :
    First (Along part start (e :: entries) rules) (x.or y) := by
  refine (hx.or hy ?_).congr fun p v => ⟨?_, ?_⟩
  · rintro p q v w ⟨rfl, hp, -⟩ ⟨hq, k, -, hk, -⟩
    exact .inr ⟨hq.symm, .inl (by omega)⟩
  · rintro (⟨hpart, hindex, hrule⟩ | ⟨hpart, k, f, hindex, hget, hrule⟩)
    · exact ⟨hpart, 0, e, hindex, rfl, hrule⟩
    · exact ⟨hpart, k + 1, f, by omega, hget, hrule⟩
  · rintro ⟨hpart, k, f, hindex, hget, hrule⟩
    cases k with
    | zero =>
      obtain rfl := Option.some.inj hget
      exact .inl ⟨hpart, hindex, hrule⟩
    | succ k => exact .inr ⟨hpart, k, f, by omega, hget, hrule⟩

/-- A list whose entries are checked one by one, by the same rules. -/
theorem along_findSome {check : α → Option Violation} {rules : α → Nat → Violation → Prop}
    (hcheck : ∀ index e, First (AtEntry part index (rules e)) (check e)) (start : Nat)
    (entries : List α) :
    First (Along part start entries fun _ => rules) (entries.findSome? check) := by
  induction entries generalizing start with
  | nil => exact along_nil part
  | cons e entries ih =>
    have hcons : (e :: entries).findSome? check = (check e).or (entries.findSome? check) := by
      rw [List.findSome?_cons]
      cases check e <;> rfl
    rw [hcons]
    exact along_cons part (hcheck start e) (ih (start + 1))

end Lists

end First

/-! ## Checks of entries -/

section Entries

variable (part : Part) (index : Nat)

/-- Limits are checked for the range of the minimum, for that of the maximum, and then for their
    order, which are the rules 0, 1 and 2. -/
theorem first_limits (l : Limits) : First (AtEntry part index l.Breaks) l.violation? := by
  have hpages : Limits.maxPages.toNat = 65536 := rfl
  rw [Limits.violation?]
  simp only [UInt32.lt_iff_toNat_lt, hpages]
  -- the rules in their order: a check is reached only where those before it found nothing
  by_cases hmin : 65536 < l.min.toNat
  · rw [if_pos hmin]
    exact .found_at (.minBeyondRange hmin) fun r w _ => Nat.zero_le r
  rw [if_neg hmin]
  cases hmax : l.max with
  | none =>
    refine .nothing_at fun r w h => ?_
    cases h with
    | minBeyondRange h => exact hmin h
    | maxBeyondRange h _ => nomatch hmax.symm.trans h
    | maxBelowMin h _ => nomatch hmax.symm.trans h
  | some max =>
    by_cases hbeyond : 65536 < max.toNat
    · simp only [if_pos hbeyond]
      refine .found_at (.maxBeyondRange hmax hbeyond) fun r w h => ?_
      cases h with
      | minBeyondRange h => exact absurd h hmin
      | maxBeyondRange _ _ => exact Nat.le_refl 1
      | maxBelowMin _ _ => exact Nat.le_succ 1
    simp only [if_neg hbeyond]
    refine .at_if 2 fun r w => ⟨fun h => ?_, ?_⟩
    · cases h with
      | minBeyondRange h => exact absurd h hmin
      | maxBeyondRange h hlt =>
        obtain rfl := Option.some.inj (hmax.symm.trans h)
        exact absurd hlt hbeyond
      | maxBelowMin h hlt =>
        obtain rfl := Option.some.inj (hmax.symm.trans h)
        exact ⟨hlt, rfl, rfl⟩
    · rintro ⟨hlt, rfl, rfl⟩
      exact .maxBelowMin hmax hlt

/-- An import is checked for its type, or for its limits, as its kind demands. -/
theorem first_import (types : Nat) (i : Import) :
    First (AtEntry part index (i.Breaks types)) (i.violation? types) := by
  obtain ⟨source, field, desc⟩ := i
  cases desc with
  | func typ =>
    refine .at_unless 0 fun r w => ⟨fun h => ?_, ?_⟩
    · cases h with
      | type hdesc hle =>
        obtain rfl := ImportDesc.func.inj hdesc
        exact ⟨Nat.not_lt.mpr hle, rfl, rfl⟩
      | limits hdesc _ => nomatch hdesc
    · rintro ⟨hle, rfl, rfl⟩
      exact .type rfl (Nat.not_lt.mp hle)
  | mem limits =>
    refine (first_limits part index limits).congr_at fun r w => ⟨.limits rfl, fun h => ?_⟩
    cases h with
    | type hdesc _ => nomatch hdesc
    | limits hdesc h =>
      obtain rfl := ImportDesc.mem.inj hdesc
      exact h

/-- A function is checked for its type only. -/
theorem first_func (types : Nat) (f : Func) :
    First (AtEntry part index (f.Breaks types)) (f.violation? types) := by
  refine .at_unless 0 fun r w => ⟨fun h => ?_, ?_⟩
  · cases h with
    | type hle => exact ⟨Nat.not_lt.mpr hle, rfl, rfl⟩
  · rintro ⟨hle, rfl, rfl⟩
    exact .type (Nat.not_lt.mp hle)

/-- Behind no others an export can only refer to nothing. -/
theorem Export.breaks_nil_iff {funcs mems rule : Nat} {e : Export} {v : Violation} :
    e.Breaks funcs mems [] rule v ↔
      ((∃ idx, e.desc = .func idx ∧ funcs ≤ idx.toNat ∧ v = .exportFunc) ∨
        ∃ idx, e.desc = .mem idx ∧ mems ≤ idx.toNat ∧ v = .exportMem) ∧ rule = 0 := by
  constructor
  · rintro (⟨hdesc, hle⟩ | ⟨hdesc, hle⟩ | ⟨hmem, -⟩)
    · exact ⟨.inl ⟨_, hdesc, hle, rfl⟩, rfl⟩
    · exact ⟨.inr ⟨_, hdesc, hle, rfl⟩, rfl⟩
    · nomatch hmem
  · rintro ⟨⟨idx, hdesc, hle, rfl⟩ | ⟨idx, hdesc, hle, rfl⟩, rfl⟩
    · exact .func hdesc hle
    · exact .mem hdesc hle

/-- Behind others it can also repeat a name. -/
theorem Export.breaks_iff {funcs mems rule : Nat} {earlier : List Export} {e : Export}
    {v : Violation} :
    e.Breaks funcs mems earlier rule v ↔ e.Breaks funcs mems [] rule v ∨
      (∃ other ∈ earlier, other.name = e.name) ∧ rule = 1 ∧ v = .exportName := by
  constructor
  · rintro (⟨hdesc, hle⟩ | ⟨hdesc, hle⟩ | ⟨hmem, hname⟩)
    · exact .inl (.func hdesc hle)
    · exact .inl (.mem hdesc hle)
    · exact .inr ⟨⟨_, hmem, hname⟩, rfl, rfl⟩
  · rintro ((⟨hdesc, hle⟩ | ⟨hdesc, hle⟩ | ⟨hmem, -⟩) | ⟨⟨other, hmem, hname⟩, rfl, rfl⟩)
    · exact .func hdesc hle
    · exact .mem hdesc hle
    · nomatch hmem
    · exact .name hmem hname

/-- An export is checked for an index that is too large, among the functions or among the
    memories. -/
theorem first_reference (funcs mems : Nat) (e : Export) :
    First (AtEntry part index (e.Breaks funcs mems [])) (e.violation? funcs mems) := by
  obtain ⟨name, desc⟩ := e
  cases desc with
  | func idx =>
    refine .at_unless 0 fun r w => ?_
    rw [Export.breaks_nil_iff, Nat.not_lt]
    simp [and_comm, and_left_comm, and_assoc]
  | mem idx =>
    refine .at_unless 0 fun r w => ?_
    rw [Export.breaks_nil_iff, Nat.not_lt]
    simp [and_comm, and_left_comm, and_assoc]

/-- An export is checked for what it refers to, then for its name. -/
theorem first_export (funcs mems : Nat) (earlier : List Export) (e : Export) {taken : Prop}
    [Decidable taken] (htaken : taken ↔ ∃ other ∈ earlier, other.name = e.name) :
    First (AtEntry part index (e.Breaks funcs mems earlier))
      ((e.violation? funcs mems).or (if taken then some .exportName else none)) := by
  have hname : First (AtEntry part index fun r w => taken ∧ r = 1 ∧ w = .exportName)
      (if taken then some .exportName else none) := .at_if 1 fun _ _ => Iff.rfl
  refine ((first_reference part index funcs mems e).or_at hname ?_).congr_at fun r v => ?_
  · rintro r s v w hr ⟨-, rfl, -⟩
    rw [(Export.breaks_nil_iff.mp hr).2]
    exact Nat.zero_lt_one
  · rw [htaken, ← Export.breaks_iff]

end Entries

/-- Exports are checked in order, with a set of the names that were passed. -/
theorem first_exports (funcs mems start : Nat) (rest earlier : List Export)
    (taken : Std.HashSet String)
    (htaken : ∀ name, taken.contains name = true ↔ ∃ other ∈ earlier, other.name = name) :
    First (Along .exports start rest fun k e => e.Breaks funcs mems (earlier ++ rest.take k))
      (Module.exportsViolation? funcs mems taken rest) := by
  induction rest generalizing start earlier taken with
  | nil => exact .along_nil .exports
  | cons e rest ih =>
    have hcons : Module.exportsViolation? funcs mems taken (e :: rest)
        = ((e.violation? funcs mems).or
            (if taken.contains e.name then some .exportName else none)).or
          (Module.exportsViolation? funcs mems (taken.insert e.name) rest) := by
      rw [Module.exportsViolation?]
      cases e.violation? funcs mems with
      | some v => rfl
      | none => cases taken.contains e.name <;> rfl
    have hinsert : ∀ name, (taken.insert e.name).contains name = true ↔
        ∃ other ∈ earlier ++ [e], other.name = name := by
      intro name
      simp [htaken, or_comm]
    rw [hcons]
    refine .along_cons .exports ?_ ?_
    · rw [List.take_zero, List.append_nil]
      exact first_export .exports start funcs mems earlier e (htaken e.name)
    · have htail := ih (start + 1) _ _ hinsert
      simp only [List.append_assoc, List.singleton_append] at htail
      exact htail

/-! ## The whole module -/

namespace Module

/-- The places where a module breaks a rule, part by part. -/
theorem breaks_iff {m : Module} {p : Place} {v : Violation} :
    m.Breaks p v ↔
      Along .imports 0 m.imports (fun _ i => i.Breaks m.types.length) p v ∨
      Along .funcs 0 m.funcs (fun _ f => f.Breaks m.types.length) p v ∨
      Along .mems 0 m.mems (fun _ l => l.Breaks) p v ∨
      Along .exports 0 m.exports
        (fun k e => e.Breaks m.funcCount m.memCount ([] ++ m.exports.take k)) p v ∨
      AtEntry .memories 0 (fun r v => 1 < m.memCount ∧ r = 0 ∧ v = .memoryCount) p v := by
  constructor
  · rintro (⟨hget, h⟩ | ⟨hget, h⟩ | ⟨hget, h⟩ | ⟨hget, h⟩ | h)
    · exact .inl ⟨rfl, _, _, (Nat.zero_add _).symm, hget, h⟩
    · exact .inr (.inl ⟨rfl, _, _, (Nat.zero_add _).symm, hget, h⟩)
    · exact .inr (.inr (.inl ⟨rfl, _, _, (Nat.zero_add _).symm, hget, h⟩))
    · exact .inr (.inr (.inr (.inl ⟨rfl, _, _, (Nat.zero_add _).symm, hget, h⟩)))
    · exact .inr (.inr (.inr (.inr ⟨rfl, rfl, h, rfl, rfl⟩)))
  · obtain ⟨part, index, rule⟩ := p
    rintro (⟨rfl, k, i, rfl, hget, h⟩ | ⟨rfl, k, f, rfl, hget, h⟩ | ⟨rfl, k, l, rfl, hget, h⟩ |
      ⟨rfl, k, e, rfl, hget, h⟩ | ⟨rfl, rfl, h, rfl, rfl⟩)
    · exact .imported ((Nat.zero_add k).symm ▸ hget) h
    · exact .func ((Nat.zero_add k).symm ▸ hget) h
    · exact .mem ((Nat.zero_add k).symm ▸ hget) h
    · rw [Nat.zero_add]
      exact .exported hget h
    · exact .memories h

/-- The check finds the first rule that a module breaks. -/
theorem first_violation (m : Module) : First m.Breaks m.violation? := by
  have himports := First.along_findSome .imports
    (fun index => first_import .imports index m.types.length) 0 m.imports
  have hfuncs := First.along_findSome .funcs
    (fun index => first_func .funcs index m.types.length) 0 m.funcs
  have hmems := First.along_findSome .mems (first_limits .mems) 0 m.mems
  have hexports := first_exports m.funcCount m.memCount 0 m.exports [] ∅ (by simp)
  have hmemories : First
      (AtEntry .memories 0 fun r v => 1 < m.memCount ∧ r = 0 ∧ v = .memoryCount)
      (if 1 < m.memCount then some .memoryCount else none) := .at_if 0 fun _ _ => Iff.rfl
  -- each part lies before all parts behind it
  refine (himports.or (hfuncs.or (hmems.or (hexports.or hmemories ?_) ?_) ?_) ?_).congr
    fun p v => breaks_iff.symm
  · rintro p q v w ⟨hp, -⟩ ⟨hq, -⟩
    exact .inl (by rw [hp, hq]; decide)
  · rintro p q v w ⟨hp, -⟩ (⟨hq, -⟩ | ⟨hq, -⟩) <;>
      exact .inl (by rw [hp, hq]; decide)
  · rintro p q v w ⟨hp, -⟩ (⟨hq, -⟩ | ⟨hq, -⟩ | ⟨hq, -⟩) <;>
      exact .inl (by rw [hp, hq]; decide)
  · rintro p q v w ⟨hp, -⟩ (⟨hq, -⟩ | ⟨hq, -⟩ | ⟨hq, -⟩ | ⟨hq, -⟩) <;>
      exact .inl (by rw [hp, hq]; decide)

end Module

/-! ## Validity -/

/-- Limits are in range just if they break none of their rules. -/
theorem Limits.inRange_iff {l : Limits} : l.InRange ↔ ∀ rule v, ¬ l.Breaks rule v := by
  constructor
  · rintro ⟨hmin, hmax⟩ rule v (h | ⟨hl, h⟩ | ⟨hl, h⟩)
    · exact Nat.not_lt.mpr hmin h
    · exact Nat.not_lt.mpr (hmax _ hl).2 h
    · exact Nat.not_lt.mpr (hmax _ hl).1 h
  · intro h
    exact ⟨Nat.not_lt.mp fun hlt => h _ _ (.minBeyondRange hlt), fun max hl =>
      ⟨Nat.not_lt.mp fun hlt => h _ _ (.maxBelowMin hl hlt),
        Nat.not_lt.mp fun hlt => h _ _ (.maxBeyondRange hl hlt)⟩⟩

/-- Names are different exactly if each differs from those before it. -/
theorem nodup_names_iff {exports : List Export} :
    (exports.map Export.name).Nodup ↔ ∀ (k : Nat) (e : Export), exports[k]? = some e →
      ∀ other ∈ exports.take k, other.name ≠ e.name := by
  rw [List.Nodup, List.pairwise_map, List.pairwise_iff_getElem]
  constructor
  · intro h k e hget other hother
    obtain ⟨hk, rfl⟩ := List.getElem?_eq_some_iff.mp hget
    obtain ⟨j, hj, rfl⟩ := List.mem_take_iff_getElem.mp hother
    exact h j k (by omega) hk (by omega)
  · intro h j k hj hk hjk
    exact h k _ (List.getElem?_eq_getElem hk) _
      (List.mem_take_iff_getElem.mpr ⟨j, by omega, rfl⟩)

namespace Module

variable {m : Module}

/-- A module is valid exactly if it breaks no rule anywhere. -/
theorem valid_iff : m.Valid ↔ ∀ p v, ¬ m.Breaks p v := by
  constructor
  · rintro h p v (⟨hget, hi⟩ | ⟨hget, hf⟩ | ⟨hget, hl⟩ | ⟨hget, he⟩ | hmany)
    · cases hi with
      | type hdesc hle =>
        exact Nat.not_lt.mpr hle (h.importTypes _ (List.mem_of_getElem? hget) _ hdesc)
      | limits hdesc hl =>
        exact Limits.inRange_iff.mp (h.importLimits _ (List.mem_of_getElem? hget) _ hdesc) _ _ hl
    · cases hf with
      | type hle => exact Nat.not_lt.mpr hle (h.funcTypes _ (List.mem_of_getElem? hget))
    · exact Limits.inRange_iff.mp (h.memLimits _ (List.mem_of_getElem? hget)) _ _ hl
    · cases he with
      | func hdesc hle =>
        exact Nat.not_lt.mpr hle (h.exportFuncs _ (List.mem_of_getElem? hget) _ hdesc)
      | mem hdesc hle =>
        exact Nat.not_lt.mpr hle (h.exportMems _ (List.mem_of_getElem? hget) _ hdesc)
      | name hmem hname => exact nodup_names_iff.mp h.exportNames _ _ hget _ hmem hname
    · exact Nat.not_lt.mpr h.memories hmany
  · intro h
    refine ⟨?importTypes, ?importLimits, ?funcTypes, ?memLimits, ?exportFuncs, ?exportMems,
      ?exportNames, ?memories⟩
    case importTypes =>
      intro i hi typ hdesc
      obtain ⟨k, hget⟩ := List.mem_iff_getElem?.mp hi
      exact Nat.not_le.mp fun hle => h _ _ (.imported hget (.type hdesc hle))
    case importLimits =>
      intro i hi limits hdesc
      obtain ⟨k, hget⟩ := List.mem_iff_getElem?.mp hi
      exact Limits.inRange_iff.mpr fun rule v hl => h _ _ (.imported hget (.limits hdesc hl))
    case funcTypes =>
      intro f hf
      obtain ⟨k, hget⟩ := List.mem_iff_getElem?.mp hf
      exact Nat.not_le.mp fun hle => h _ _ (.func hget (.type hle))
    case memLimits =>
      intro limits hl
      obtain ⟨k, hget⟩ := List.mem_iff_getElem?.mp hl
      exact Limits.inRange_iff.mpr fun rule v hl => h _ _ (.mem hget hl)
    case exportFuncs =>
      intro e he idx hdesc
      obtain ⟨k, hget⟩ := List.mem_iff_getElem?.mp he
      exact Nat.not_le.mp fun hle => h _ _ (.exported hget (.func hdesc hle))
    case exportMems =>
      intro e he idx hdesc
      obtain ⟨k, hget⟩ := List.mem_iff_getElem?.mp he
      exact Nat.not_le.mp fun hle => h _ _ (.exported hget (.mem hdesc hle))
    case exportNames =>
      exact nodup_names_iff.mpr fun k e hget other hmem hname =>
        h _ _ (.exported hget (.name hmem hname))
    case memories => exact Nat.not_lt.mp fun hlt => h _ _ (.memories hlt)

/-- A module is found without fault just if it is valid: the rules that it could break are the
    negations of those that it has to keep. -/
theorem violation?_eq_none_iff : m.violation? = none ↔ m.Valid := by
  rw [valid_iff, (first_violation m).eq_none_iff]

/-- Validation passes just where no rule is found broken. -/
theorem validate_eq_ok_iff : m.validate = .ok () ↔ m.violation? = none := by
  rw [validate]
  cases m.violation? <;> simp

/-- And it tells the rule that was found. -/
theorem validate_eq_error_iff {e : Error} :
    m.validate = .error e ↔ ∃ v, m.violation? = some v ∧ e = .invalid v := by
  rw [validate]
  cases m.violation? <;> simp [eq_comm]

/-- **A module passes exactly if it is valid.**  One that does not pass is told a rule that it
    breaks, and it breaks no rule at a place before. -/
theorem validate_tells_first (m : Module) :
    (m.validate = .ok () ↔ m.Valid) ∧
    ∀ e, m.validate = .error e ↔
      ∃ p v, e = .invalid v ∧ m.Breaks p v ∧ ∀ q w, m.Breaks q w → q = p ∨ p.Before q := by
  refine ⟨validate_eq_ok_iff.trans violation?_eq_none_iff, fun e => ?_⟩
  have hfirst := fun v => (first_violation m).eq_some_iff (v := v) fun _ _ _ => Breaks.unique
  simp only [validate_eq_error_iff, hfirst]
  constructor
  · rintro ⟨v, ⟨p, hp, hfirst⟩, rfl⟩
    exact ⟨p, v, rfl, hp, hfirst⟩
  · rintro ⟨p, v, rfl, hp, hfirst⟩
    exact ⟨v, ⟨p, hp, hfirst⟩, rfl⟩

/-- The import stands before the function, and its minimum is checked before its maximum. -/
example :
    Module.validate
        { imports := [⟨"env", "m", .mem ⟨70000, some 80000⟩⟩], funcs := [⟨0, [], []⟩] } =
      .error (.invalid .minBeyondRange) := rfl

end Module

end WasmBinary
