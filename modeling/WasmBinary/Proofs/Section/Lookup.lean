/-
  Where parts lie: looking them up by the text of their names, and the first function body.

  1. **Names** — an index answers with its last span of a name (`get?_eq_some_iff`), the record of
     sizes with its first entry.  The two orders of search differ only where a name occurs twice:
     `find?_reverse_of_nodup`.

  2. **The first body** — `firstBody?` reads three numbers one behind the other, all of them inside
     the code section.  `firstBody?_eq_some_iff` says what each step has to find; that the region
     lies inside the section follows from it, because a number that was read ends inside the bytes
     it was read from.
-/
import Mathlib.Data.List.Nodup
import WasmBinary.Module.Encode
import WasmBinary.Proofs.Leb128.Reading
import WasmBinary.Proofs.Section.Layout

namespace WasmBinary

/-! ## Names -/

/-- Where keys do not repeat, searching for a key from the back finds what searching from the front
    does. -/
theorem find?_reverse_of_nodup {α β : Type} {key : α → β} {k : β} {p : α → Bool}
    (hp : ∀ x, p x = true ↔ key x = k) :
    ∀ {l : List α}, (l.map key).Nodup → l.reverse.find? p = l.find? p
  | [], _ => rfl
  | x :: l, h => by
    obtain ⟨hx, hl⟩ := List.nodup_cons.mp h
    rw [List.reverse_cons, List.find?_append, find?_reverse_of_nodup hp hl]
    cases hk : p x with
    | true =>
      -- the first one has the key, so none behind it does
      have hnone : l.find? p = none := by
        rw [List.find?_eq_none]
        intro y hy hyk
        exact hx (List.mem_map.mpr ⟨y, hy, ((hp y).mp hyk).trans ((hp x).mp hk).symm⟩)
      simp [hnone, hk]
    | false => cases hl : l.find? p <;> simp [hl, hk]

namespace SectionIndex

/-- The last span that is called by a text. -/
def Last (index : SectionIndex) (text : String) (span : Span) : Prop :=
  ∃ before after, index.spans = before ++ span :: after ∧ span.name.text = text ∧
    ∀ other ∈ after, other.name.text ≠ text

/-- Looking up finds the last span of a name. -/
theorem get?_eq_some_iff {index : SectionIndex} {text : String} {span : Span} :
    index.get? text = some span ↔ index.Last text span := by
  have hnot : ∀ other : Span,
      (!other.name.designatedBy text) = true ↔ other.name.text ≠ text := by
    intro other
    rw [Bool.not_eq_true', ← Bool.not_eq_true, SectionName.designatedBy_iff]
  rw [get?, List.find?_eq_some_iff_append]
  constructor
  · rintro ⟨hname, behind, before, hsplit, hbehind⟩
    refine ⟨before.reverse, behind.reverse, ?_, SectionName.designatedBy_iff.mp hname, ?_⟩
    · have hspans := congrArg List.reverse hsplit
      rw [List.reverse_reverse, List.reverse_append, List.reverse_cons] at hspans
      rw [hspans, List.append_assoc]
      rfl
    · intro other hother
      exact (hnot other).mp (hbehind other (List.mem_reverse.mp hother))
  · rintro ⟨before, after, hsplit, hname, hafter⟩
    refine ⟨SectionName.designatedBy_iff.mpr hname, after.reverse, before.reverse, ?_, ?_⟩
    · rw [hsplit, List.reverse_append, List.reverse_cons, List.append_assoc]
      rfl
    · intro other hother
      exact (hnot other).mpr (hafter other (List.mem_reverse.mp hother))

/-- What is found under a text is a span of that name. -/
theorem mem_of_get? {index : SectionIndex} {text : String} {span : Span}
    (h : index.get? text = some span) : span ∈ index.spans ∧ span.name.text = text := by
  refine ⟨List.mem_reverse.mp (List.mem_of_find?_eq_some h), ?_⟩
  have hdesignated := List.find?_some h
  exact SectionName.designatedBy_iff.mp hdesignated

/-- A span whose name does not repeat is found under it. -/
theorem get?_of_mem {index : SectionIndex} {span : Span}
    (hnodup : (index.spans.map fun s => s.name.text).Nodup) (hmem : span ∈ index.spans) :
    index.get? span.name.text = some span := by
  have hsome : (index.get? span.name.text).isSome := by
    rw [get?, List.find?_isSome]
    exact ⟨span, List.mem_reverse.mpr hmem, SectionName.designatedBy_iff.mpr rfl⟩
  obtain ⟨found, hfound⟩ := Option.isSome_iff_exists.mp hsome
  obtain ⟨hfmem, hftext⟩ := mem_of_get? hfound
  rw [hfound, List.inj_on_of_nodup_map hnodup hfmem hmem hftext]

end SectionIndex

/-- Laid out parts are found by their names. -/
theorem Span.find?_layout (start : Nat) (parts : List (SectionName × Nat)) (text : String) :
    ((layout start parts).find? (·.name.designatedBy text)).map (·.length)
      = (parts.find? (·.1.designatedBy text)).map (·.2) := by
  induction parts generalizing start with
  | nil => rfl
  | cons part parts ih =>
    rw [layout, List.find?_cons, List.find?_cons]
    cases part.1.designatedBy text with
    | true => rfl
    | false => exact ih (start + part.2)

/-! ## The first body -/

namespace Leb128

/-- A number that is read at a position is what the decoder finds in the bytes from there on; only
    the errors tell the position. -/
theorem toOption_readUnsigned {data : Bytes} {pos : Nat} {r : Reading Nat} :
    (readUnsigned data pos).toOption = some r ↔ decodeUnsigned (data.drop pos) = .ok r := by
  rw [toOption_eq_some, readUnsigned, mapError_eq_ok]

/-- A number that was read at a position ends inside the bytes. -/
theorem end_le_of_read {data : Bytes} {pos : Nat} {r : Reading Nat}
    (h : decodeUnsigned (data.drop pos) = .ok r) : pos + r.length ≤ data.length := by
  have hpos := one_le_length_of_decodeUnsigned h
  have hle := length_le_of_decodeUnsigned h
  rw [List.length_drop] at hle
  omega

end Leb128

namespace SectionIndex

/-- The steps to the first body: the section, the length of its payload, the number of bodies,
    the length of the first. -/
theorem firstBody?_eq_some_iff {index : SectionIndex} {data : Bytes} {region : Region} :
    index.firstBody? data = some region ↔
      ∃ code size count body,
        index.get? SectionKind.code.name = some code ∧
        code.offset + code.length ≤ data.length ∧
        Leb128.decodeUnsigned ((data.take (code.offset + code.length)).drop (code.offset + 1))
          = .ok size ∧
        Leb128.decodeUnsigned
          ((data.take (code.offset + code.length)).drop (code.offset + 1 + size.length))
          = .ok count ∧ count.value ≠ 0 ∧
        Leb128.decodeUnsigned ((data.take (code.offset + code.length)).drop
          (code.offset + 1 + size.length + count.length)) = .ok body ∧
        region = ⟨code.offset + 1 + size.length + count.length + body.length, body.value⟩ ∧
        body.value ≤ code.offset + code.length - region.offset := by
  simp only [firstBody?, Option.bind_eq_bind, Option.bind_none, Option.bind_eq_some_iff,
    Option.ite_none_left_eq_some, Leb128.toOption_readUnsigned, Option.pure_def,
    Option.some.injEq, Nat.not_lt]
  constructor
  · rintro ⟨code, hcode, hlimit, size, hsize, count, hcount, hne, body, hbody, hfits, rfl⟩
    exact ⟨code, size, count, body, hcode, hlimit, hsize, hcount, hne, hbody, rfl, hfits⟩
  · rintro ⟨code, size, count, body, hcode, hlimit, hsize, hcount, hne, hbody, rfl, hfits⟩
    exact ⟨code, hcode, hlimit, size, hsize, count, hcount, hne, body, hbody, hfits, rfl⟩

/-- Where the code section is an id and three spelled numbers with a body behind them, the first
    body is that body.  The numbers are the length of the payload, the number of bodies and the
    length of the body; the value of the first is not looked at. -/
theorem firstBody?_of_spelled {index : SectionIndex} {name : SectionName} {id : UInt8}
    {data front size count length body others after : Bytes} {payload bodies : Nat}
    (hdata : data = front ++ (id :: (size ++ (count ++ (length ++ (body ++ others)))) ++ after))
    (hcode : index.get? SectionKind.code.name = some ⟨name, front.length,
      (id :: (size ++ (count ++ (length ++ (body ++ others))))).length⟩)
    (hsize : Leb128.Spells size payload) (hcount : Leb128.Spells count bodies)
    (hne : bodies ≠ 0) (hlength : Leb128.Spells length body.length) :
    ∃ before behind, data = before ++ (body ++ behind) ∧
      index.firstBody? data = some ⟨before.length, body.length⟩ := by
  generalize hsection : id :: (size ++ (count ++ (length ++ (body ++ others)))) = code
    at hdata hcode
  have hupTo : data.take (front.length + code.length) = front ++ code := by
    rw [hdata, ← List.append_assoc, ← List.length_append, List.take_left]
  -- each number starts where the one before it ends
  have hdrop₁ : (front ++ code).drop (front.length + 1)
      = size ++ (count ++ (length ++ (body ++ others))) := by
    rw [← List.drop_drop, List.drop_left, ← hsection]
    rfl
  have hdrop₂ : (front ++ code).drop (front.length + 1 + size.length)
      = count ++ (length ++ (body ++ others)) := by
    rw [← List.drop_drop, hdrop₁, List.drop_left]
  have hdrop₃ : (front ++ code).drop (front.length + 1 + size.length + count.length)
      = length ++ (body ++ others) := by
    rw [← List.drop_drop, hdrop₂, List.drop_left]
  have hbefore : (front ++ id :: (size ++ (count ++ length))).length
      = front.length + 1 + size.length + count.length + length.length := by
    simp only [List.length_append, List.length_cons]
    omega
  refine ⟨front ++ id :: (size ++ (count ++ length)), others ++ after, ?_, ?_⟩
  · rw [hdata, ← hsection]
    simp only [List.append_assoc, List.cons_append]
  · rw [hbefore]
    refine firstBody?_eq_some_iff.mpr ⟨_, ⟨payload, size.length⟩, ⟨bodies, count.length⟩,
      ⟨body.length, length.length⟩, hcode, ?_, ?_, ?_, hne, ?_, rfl, ?_⟩
    · simp only [hdata, List.length_append]
      omega
    · rw [hupTo, hdrop₁]
      exact Leb128.decodeUnsigned_append _ hsize
    · rw [hupTo, hdrop₂]
      exact Leb128.decodeUnsigned_append _ hcount
    · rw [hupTo, hdrop₃]
      exact Leb128.decodeUnsigned_append _ hlength
    · simp only [← hsection, List.length_cons, List.length_append]
      omega

/-- The first body lies inside the bytes. -/
theorem firstBody?_within {index : SectionIndex} {data : Bytes} {region : Region}
    (h : index.firstBody? data = some region) : region.offset + region.length ≤ data.length := by
  obtain ⟨code, size, count, body, -, hlimit, -, -, -, hbody, rfl, hfits⟩ :=
    firstBody?_eq_some_iff.mp h
  have hend := Leb128.end_le_of_read hbody
  rw [List.length_take, Nat.min_eq_left hlimit] at hend
  simp only at hfits ⊢
  omega

end SectionIndex

end WasmBinary
