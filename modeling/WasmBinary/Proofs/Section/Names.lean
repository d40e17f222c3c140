/-
  Sections by their names.

  An index answers to texts, and the walk that made it saw ids.  The two agree:

  1. **Ids** — a name that is made from an id keeps it (`SectionName.id?_ofId`), so different ids
     make different names, and none of them is the header.

  2. **Texts** — different names are written differently (`SectionName.text_injective`).  The
     crux is the underscore: it stands in the text of every unknown id and in no other, and behind
     it decimal digits tell the ids apart.

  3. **Variants** — names are written with small letters, digits and underscores only, and a number
     without a zero in front.  So a text that comes close to a name, by capitals, by blanks around
     it, or by zeros and signs in front of a number, is not the text of any name
     (`SectionName.Variant.text_ne`).

  4. **Looking up** — a span behind the header is called by the name of the id that it starts with.
     Under the name of an id there is the last section that starts with the id, whatever sections
     of other ids follow it, and the header stays in sight (`SectionIndex.get?_by_id`).
-/
import WasmBinary.Proofs.Module.Agreement
import WasmBinary.Text.Blank

namespace WasmBinary

namespace SectionName

/-! ## Ids -/

/-- The id that a section of a name starts with; the header has none. -/
def id? : SectionName → Option UInt8
  | header => none
  | known kind => some kind.id
  | unknown id => some id

/-- A name that is made from an id keeps it. -/
theorem id?_ofId (id : UInt8) : (ofId id).id? = some id := by
  rw [ofId]
  -- a known kind was found by its id, and so has it
  cases hkind : SectionKind.ofId? id with
  | none => rfl
  | some kind =>
    have hid := List.find?_some hkind
    exact congrArg some (eq_of_beq hid)

/-- Different ids make different names: those of known kinds among themselves, and
    all others by the number that they keep. -/
theorem ofId_injective : Function.Injective ofId := by
  intro a b h
  have hid := congrArg id? h
  rw [id?_ofId, id?_ofId] at hid
  exact Option.some.inj hid

/-- No id makes the name of the header, which stands for the eight bytes in front of all
    sections. -/
theorem ofId_ne_header (id : UInt8) : ofId id ≠ header := by
  intro h
  have hid := congrArg id? h
  rw [id?_ofId] at hid
  nomatch hid

/-! ## Texts -/

/-- The text of an unknown id is a fixed beginning and the decimal digits of the id. -/
theorem toList_text_unknown (id : UInt8) :
    (unknown id).text.toList = "unknown_".toList ++ Nat.toDigits 10 id.toNat := by
  rw [text, String.toList_append, Nat.toString_eq_ofList_toDigits]
  exact congrArg _ String.toList_ofList

/-- A number is known by its digits. -/
theorem toDigits_injective : Function.Injective (Nat.toDigits 10) := by
  intro m n h
  rw [← Nat.ofDigitChars_ten_toDigits (n := m), h, Nat.ofDigitChars_ten_toDigits]

/-- Every unknown id is written with an underscore, which comes from the beginning of the text and
    not from the number. -/
theorem underscore_mem_text_unknown (id : UInt8) : '_' ∈ (unknown id).text.toList := by
  rw [toList_text_unknown]
  exact List.mem_append_left _ (by decide)

/-- No known kind is written with an underscore.  This is what keeps the known names and the unknown
    ones apart. -/
theorem underscore_notMem_name (kind : SectionKind) : '_' ∉ kind.name.toList := by
  cases kind <;> decide

theorem name_ne_header (kind : SectionKind) : kind.name ≠ "header" := by
  cases kind <;> decide

/-- A text without an underscore is not that of an unknown id. -/
theorem text_unknown_ne {id : UInt8} {text : String} (h : '_' ∉ text.toList) :
    (unknown id).text ≠ text := by
  rintro rfl
  exact h (underscore_mem_text_unknown id)

/-- Names are told apart by how they are written, so looking up by text is looking up by name.
    Of names of different sorts, one has an underscore and the other has none, or both are
    fixed words. -/
theorem text_injective : Function.Injective text := by
  intro m n h
  cases m with
  | header =>
    cases n with
    | header => rfl
    | known kind => exact absurd h.symm (name_ne_header kind)
    | unknown id => exact absurd h.symm (text_unknown_ne (by decide))
  | known kind =>
    cases n with
    | header => exact absurd h (name_ne_header kind)
    | known kind' => exact congrArg known (SectionKind.name_injective h)
    | unknown id => exact absurd h.symm (text_unknown_ne (underscore_notMem_name kind))
  | unknown id =>
    cases n with
    | header => exact absurd h (text_unknown_ne (by decide))
    | known kind => exact absurd h (text_unknown_ne (underscore_notMem_name kind))
    | unknown id' =>
      -- the numbers stand behind the same beginning
      have htext := congrArg String.toList h
      rw [toList_text_unknown, toList_text_unknown] at htext
      have hdigits := List.append_cancel_left htext
      exact congrArg unknown (UInt8.toNat_inj.mp (toDigits_injective hdigits))

/-! ## Variants -/

/-- The characters that names are written with. -/
def nameChar (c : Char) : Bool :=
  c.isLower || c.isDigit || c == '_'

theorem nameChar_of_isDigit {c : Char} (h : c.isDigit = true) : nameChar c = true := by
  rw [nameChar, h, Bool.or_true, Bool.true_or]

/-- All that a name is written with. -/
theorem nameChar_of_mem_text {n : SectionName} {c : Char} (h : c ∈ n.text.toList) :
    nameChar c = true := by
  cases n with
  | header =>
    have hall : "header".toList.all nameChar = true := by
      decide
    exact List.all_eq_true.mp hall c h
  | known kind =>
    have hall : ∀ kind : SectionKind, kind.name.toList.all nameChar = true := by
      intro kind
      cases kind <;> decide
    exact List.all_eq_true.mp (hall kind) c h
  | unknown id =>
    have hall : "unknown_".toList.all nameChar = true := by
      decide
    rw [toList_text_unknown] at h
    rcases List.mem_append.mp h with h | h
    · exact List.all_eq_true.mp hall c h
    · exact nameChar_of_isDigit (Nat.isDigit_of_mem_toDigits (by decide) (by decide) h)

/-- No name is written with capitals: each of its characters is the small form of itself. -/
theorem toLower_of_nameChar {c : Char} (h : nameChar c = true) : c.toLower = c := by
  refine dif_neg fun hcapital => ?_
  have hlow : 65 ≤ c.toNat := hcapital.1
  have hhigh : c.toNat ≤ 90 := hcapital.2
  rw [nameChar, Bool.or_eq_true, Bool.or_eq_true, beq_iff_eq] at h
  rcases h with (hlower | hdigit) | rfl
  · have hletter : 97 ≤ c.toNat := of_decide_eq_true (Bool.and_eq_true_iff.mp hlower).1
    omega
  · have hnine : c.toNat ≤ 57 := of_decide_eq_true (Bool.and_eq_true_iff.mp hdigit).2
    omega
  · exact absurd hhigh (by decide)

/-- No name is written with blanks, of whichever of the many sorts that count as blank. -/
theorem nameChar_of_isBlank {c : Char} (h : Blank.isBlank c = true) : nameChar c = false := by
  have hnone : Blank.codePoints.all (fun n => !nameChar (Char.ofNat n)) = true := by
    decide
  -- a blank is one of finitely many code points, and those are gone through
  have hc := List.all_eq_true.mp hnone c.toNat (List.contains_iff_mem.mp h)
  rwa [Char.ofNat_toNat, Bool.not_eq_true'] at hc

/-- No name changes when its capitals are made small, for it has none. -/
theorem toLower_text (n : SectionName) : n.text.toLower = n.text := by
  rw [← String.toList_inj]
  show (n.text.map Char.toLower).toList = n.text.toList
  rw [String.toList_map]
  have hsame : n.text.toList.map Char.toLower = n.text.toList.map id :=
    List.map_congr_left fun c hc => toLower_of_nameChar (nameChar_of_mem_text hc)
  rw [hsame, List.map_id]

/-- Zeros and signs in front of a number give no number that a name is written with.  Names are
    written without a sign, and a number without a zero in front. -/
theorem toDigits_ne_marked {mark : List Char} (hne : mark ≠ [])
    (hmark : ∀ c ∈ mark, c = '0' ∨ c = '+' ∨ c = '-') (m n : Nat) :
    Nat.toDigits 10 m ≠ mark ++ Nat.toDigits 10 n := by
  intro h
  -- signs are no digits, so there are only zeros, and those do not count
  have hzeros : mark = List.replicate mark.length '0' := by
    refine List.eq_replicate_iff.mpr ⟨rfl, fun c hc => ?_⟩
    have hdigit : c.isDigit = true :=
      Nat.isDigit_of_mem_toDigits (by decide) (by decide) (h ▸ List.mem_append_left _ hc)
    rcases hmark c hc with rfl | rfl | rfl
    · rfl
    · exact absurd hdigit (by decide)
    · exact absurd hdigit (by decide)
  have hvalue : m = n := by
    have hread := congrArg (Nat.ofDigitChars 10 · 0) h
    rw [hzeros] at hread
    simpa [Nat.ofDigitChars_append, Nat.ofDigitChars_ten_toDigits] using hread
  rw [hvalue] at h
  exact hne (List.self_eq_append_left.mp h)

/-- Texts that come close to a name: with other capitals, between blanks, or with zeros or signs in
    front of its number. -/
inductive Variant : SectionName → String → Prop
  | capitals {n : SectionName} {text : String} (hne : text ≠ n.text)
      (hsame : text.toLower = n.text.toLower) : Variant n text
  | blanks {n : SectionName} {front back : List Char} (hne : front ++ back ≠ [])
      (hblank : ∀ c ∈ front ++ back, Blank.isBlank c = true) :
      Variant n (String.ofList (front ++ n.text.toList ++ back))
  | marks {id : UInt8} {mark : List Char} (hne : mark ≠ [])
      (hmark : ∀ c ∈ mark, c = '0' ∨ c = '+' ∨ c = '-') :
      Variant (unknown id)
        (String.ofList ("unknown_".toList ++ mark ++ Nat.toDigits 10 id.toNat))

/-- A text with a character that no name is written with is the text of no name. -/
theorem text_ne_of_mem {text : String} {c : Char} (hc : c ∈ text.toList)
    (hforeign : nameChar c = false) (m : SectionName) : m.text ≠ text := by
  rintro rfl
  rw [nameChar_of_mem_text hc] at hforeign
  nomatch hforeign

/-- What comes close to a name is not the text of any name. -/
theorem Variant.text_ne {n : SectionName} {text : String} (h : n.Variant text) (m : SectionName) :
    m.text ≠ text := by
  cases h with
  | capitals hne hsame =>
    rintro rfl
    rw [toLower_text, toLower_text] at hsame
    exact hne hsame
  | @blanks _ front back hne hblank =>
    obtain ⟨c, hc⟩ := List.exists_mem_of_ne_nil _ hne
    refine text_ne_of_mem ?_ (nameChar_of_isBlank (hblank c hc)) m
    rw [String.toList_ofList]
    rcases List.mem_append.mp hc with hc | hc
    · exact List.mem_append_left _ (List.mem_append_left _ hc)
    · exact List.mem_append_right _ hc
  | @marks id mark hne hmark =>
    intro heq
    have htext := congrArg String.toList heq
    rw [String.toList_ofList] at htext
    cases m with
    | header =>
      have hmem : '_' ∈ header.text.toList := by
        rw [htext]
        exact List.mem_append_left _ (List.mem_append_left _ (by decide))
      exact absurd hmem (by decide)
    | known kind =>
      refine underscore_notMem_name kind ?_
      show '_' ∈ (known kind).text.toList
      rw [htext]
      exact List.mem_append_left _ (List.mem_append_left _ (by decide))
    | unknown id' =>
      rw [toList_text_unknown, List.append_assoc] at htext
      exact toDigits_ne_marked hne hmark _ _ (List.append_cancel_left htext)

end SectionName

/-! ## Looking up -/

namespace SectionIndex

/-- The last section that starts with an id; the header is no section. -/
def LastWithId (data : Bytes) (index : SectionIndex) (id : UInt8) (span : Span) : Prop :=
  ∃ before after, index.spans = Span.header :: (before ++ span :: after) ∧
    data[span.offset]? = some id ∧ ∀ other ∈ after, data[other.offset]? ≠ some id

/-- A text finds nothing exactly where no span of the index is called by it. -/
theorem get?_eq_none_iff {index : SectionIndex} {text : String} :
    index.get? text = none ↔ ∀ span ∈ index.spans, span.name.text ≠ text := by
  simp only [get?, List.find?_eq_none, List.mem_reverse, SectionName.designatedBy_iff, ne_eq]

/-- Behind the header, every span is called by the name of the id that it starts with. -/
theorem exists_sections_of_parse {data : Bytes} {index : SectionIndex}
    (h : parse data = .ok index) : ∃ sections, index.spans = Span.header :: sections ∧
      ∀ span ∈ sections, ∃ id, data[span.offset]? = some id ∧ span.name = .ofId id := by
  obtain ⟨-, -, rfl⟩ := parse_eq_ok_iff.mp h
  exact ⟨_, rfl, fun span hspan => (Walk.fromPos_reads Header.length span hspan).2.2⟩

/-- What a span is called and what it starts with are one thing: a span has the name of an id
    exactly where the byte at its start is that id. -/
theorem text_eq_iff {data : Bytes} {span : Span}
    (h : ∃ id, data[span.offset]? = some id ∧ span.name = .ofId id) (id : UInt8) :
    span.name.text = (SectionName.ofId id).text ↔ data[span.offset]? = some id := by
  obtain ⟨found, hid, hname⟩ := h
  rw [hname, hid, Option.some.injEq, SectionName.text_injective.eq_iff,
    SectionName.ofId_injective.eq_iff]

/-- The header is not called by the name of any id. -/
theorem header_text_ne (id : UInt8) : Span.header.name.text ≠ (SectionName.ofId id).text :=
  fun h => SectionName.ofId_ne_header id (SectionName.text_injective h).symm

/-- The header is found whatever sections follow it. -/
theorem get?_header {data : Bytes} {index : SectionIndex} (h : parse data = .ok index) :
    index.get? "header" = some Span.header := by
  obtain ⟨sections, hspans, hsections⟩ := exists_sections_of_parse h
  rw [get?_eq_some_iff]
  refine ⟨[], sections, hspans, rfl, fun other hother htext => ?_⟩
  obtain ⟨id, -, hname⟩ := hsections other hother
  rw [hname] at htext
  exact header_text_ne id htext.symm

/-- Under the name of an id there is the last section that starts with it. -/
theorem get?_by_id {data : Bytes} {index : SectionIndex} (h : parse data = .ok index) (id : UInt8)
    (span : Span) :
    index.get? (SectionName.ofId id).text = some span ↔ index.LastWithId data id span := by
  obtain ⟨sections, hspans, hsections⟩ := exists_sections_of_parse h
  rw [get?_eq_some_iff]
  constructor
  · rintro ⟨before, after, hsplit, hname, hafter⟩
    rw [hspans] at hsplit
    cases before with
    | nil =>
      -- the header is not called by an id
      obtain ⟨rfl, -⟩ := List.cons.inj hsplit
      exact absurd hname (header_text_ne id)
    | cons first before =>
      obtain ⟨rfl, rfl⟩ := List.cons.inj hsplit
      have hspan := hsections span (by simp)
      refine ⟨before, after, hspans, (text_eq_iff hspan id).mp hname, fun other hother hid => ?_⟩
      have hread := hsections other (by simp [hother])
      exact hafter other hother ((text_eq_iff hread id).mpr hid)
  · -- the same split of the spans serves, with the header put in front
    rintro ⟨before, after, hsplit, hid, hafter⟩
    obtain rfl := (List.cons.inj (hspans.symm.trans hsplit)).2
    have hspan := hsections span (by simp)
    refine ⟨Span.header :: before, after, hsplit, (text_eq_iff hspan id).mpr hid,
      fun other hother hname => ?_⟩
    have hread := hsections other (by simp [hother])
    exact hafter other hother ((text_eq_iff hread id).mp hname)

/-- The name of an id finds nothing exactly where no section starts with the id.  The header is left
    out: its first byte is an id too, but no section starts there. -/
theorem get?_by_id_eq_none_iff {data : Bytes} {index : SectionIndex} (h : parse data = .ok index)
    (id : UInt8) : index.get? (SectionName.ofId id).text = none ↔
      ∀ span ∈ index.spans.tail, data[span.offset]? ≠ some id := by
  obtain ⟨sections, hspans, hsections⟩ := exists_sections_of_parse h
  rw [get?_eq_none_iff, hspans, List.forall_mem_cons, List.tail_cons]
  constructor
  · rintro ⟨-, hnone⟩ span hspan hid
    exact hnone span hspan ((text_eq_iff (hsections span hspan) id).mpr hid)
  · intro hnone
    refine ⟨header_text_ne id, fun span hspan hname => ?_⟩
    exact hnone span hspan ((text_eq_iff (hsections span hspan) id).mp hname)

/-- What is found at all is the header, or the last section of some id. -/
theorem found_by {data : Bytes} {index : SectionIndex} (h : parse data = .ok index) {text : String}
    {span : Span} (hfound : index.get? text = some span) :
    (text = "header" ∧ span = Span.header) ∨
      ∃ id, text = (SectionName.ofId id).text ∧ index.LastWithId data id span := by
  obtain ⟨sections, hspans, hsections⟩ := exists_sections_of_parse h
  -- what is found is among the spans, which are the header and the sections
  obtain ⟨hmem, rfl⟩ := mem_of_get? hfound
  rw [hspans] at hmem
  rcases List.mem_cons.mp hmem with rfl | hmem
  · exact Or.inl ⟨rfl, rfl⟩
  · obtain ⟨id, -, hname⟩ := hsections span hmem
    rw [hname] at hfound ⊢
    exact Or.inr ⟨id, rfl, (get?_by_id h id span).mp hfound⟩

/-- **Looking up never takes one section for another.**  In the index of any bytes, a text finds the
    last span that is called by it.  The header is found under its name whatever follows it.  The
    name of an id finds the last section whose first byte is the id, so that sections of other ids
    do not hide it; different ids have different names.  Nothing else is found by any text, and
    least of all by one that comes close to a name. -/
theorem get?_exact (data : Bytes) (index : SectionIndex) (h : parse data = .ok index) :
    (∀ (n : SectionName) text, n.designatedBy text = true ↔ n.text = text) ∧
    (∀ text span, index.get? text = some span ↔ ∃ before after,
      index.spans = before ++ span :: after ∧ span.name.text = text ∧
      ∀ other ∈ after, other.name.text ≠ text) ∧
    (∀ text, index.get? text = none ↔ ∀ span ∈ index.spans, span.name.text ≠ text) ∧
    index.get? "header" = some ⟨.header, 0, 8⟩ ∧
    (∀ id span, index.get? (SectionName.ofId id).text = some span ↔
      index.LastWithId data id span) ∧
    (∀ id, index.get? (SectionName.ofId id).text = none ↔
      ∀ span ∈ index.spans.tail, data[span.offset]? ≠ some id) ∧
    (∀ id id', id ≠ id' → (SectionName.ofId id).text ≠ (SectionName.ofId id').text) ∧
    (∀ text span, index.get? text = some span → (text = "header" ∧ span = ⟨.header, 0, 8⟩) ∨
      ∃ id, text = (SectionName.ofId id).text ∧ index.LastWithId data id span) ∧
    (∀ (n : SectionName) text, n.Variant text →
      (∀ m : SectionName, m.designatedBy text = false) ∧ index.get? text = none) ∧
    (∀ text, ∀ c ∈ text.toList, SectionName.nameChar c = false → index.get? text = none) := by
  refine ⟨fun n text => SectionName.designatedBy_iff, fun text span => get?_eq_some_iff,
    fun text => get?_eq_none_iff, get?_header h, get?_by_id h, get?_by_id_eq_none_iff h,
    fun id id' hne heq => ?_, fun text span => found_by h, fun n text hvariant => ⟨fun m => ?_, ?_⟩,
    fun text c hc hforeign => ?_⟩
  · exact hne (SectionName.ofId_injective (SectionName.text_injective heq))
  · rw [← Bool.not_eq_true, SectionName.designatedBy_iff]
    exact hvariant.text_ne m
  · rw [get?_eq_none_iff]
    exact fun span _ => hvariant.text_ne span.name
  · rw [get?_eq_none_iff]
    exact fun span _ => SectionName.text_ne_of_mem hc hforeign span.name

/-- Two custom sections with the code section between them: the second one hides the first, and
    neither hides the code section.  A zero more in the name finds neither. -/
theorem get?_exact_repeated : ∃ index,
    parse (Header.bytes ++ [0x00, 0x01, 0x2A, 0x0A, 0x01, 0x00, 0x00, 0x00]) = .ok index ∧
    index.spans =
      [⟨.header, 0, 8⟩, ⟨.unknown 0, 8, 3⟩, ⟨.known .code, 11, 3⟩, ⟨.unknown 0, 14, 2⟩] ∧
    index.get? "unknown_0" = some ⟨.unknown 0, 14, 2⟩ ∧
    index.get? "code" = some ⟨.known .code, 11, 3⟩ ∧
    index.get? "unknown_00" = none := by
  have hparse : parse (Header.bytes ++ [0x00, 0x01, 0x2A, 0x0A, 0x01, 0x00, 0x00, 0x00])
      = .ok ⟨[⟨.header, 0, 8⟩, ⟨.unknown 0, 8, 3⟩, ⟨.known .code, 11, 3⟩, ⟨.unknown 0, 14, 2⟩]⟩ :=
    parse_stream [⟨0x00, [0x01], [0x2A], rfl⟩, ⟨0x0A, [0x01], [0x00], rfl⟩, ⟨0x00, [0x00], [], rfl⟩]
      (by decide)
  obtain ⟨-, -, -, -, hid, -, -, -, hvariant, -⟩ := get?_exact _ _ hparse
  refine ⟨_, hparse, rfl,
    (hid 0 _).mpr ⟨[⟨.unknown 0, 8, 3⟩, ⟨.known .code, 11, 3⟩], [], rfl, rfl, nofun⟩,
    (hid 10 _).mpr ⟨[⟨.unknown 0, 8, 3⟩], [⟨.unknown 0, 14, 2⟩], rfl, rfl, by decide⟩, ?_⟩
  exact (hvariant (.unknown 0) _ (.marks (List.cons_ne_nil '0' []) (by simp))).2

end SectionIndex

end WasmBinary
