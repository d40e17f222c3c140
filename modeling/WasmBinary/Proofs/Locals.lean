/-
  Locals, as stretches of one type each.

  1. **Making stretches** — a stretch has a length that no word bounds.  The stretches of a list of
     locals are made from its end, one local at a time (`Stretch.push`).  A step loses nothing and
     joins what can be joined, so the stretches stand for the locals (`expand_ofLocals`), none is
     empty, and neighbours differ in type (`maximal_ofLocals`).

  2. **No other form** — equal locals in front of a list give one stretch and not more, whatever
     stretches the list has (`ofLocals_replicate_append`).  So stretches that cannot be joined are
     those of the locals they stand for (`ofLocals_expand`), and no other list of stretches for the
     same locals is shorter (`length_ofLocals_expand_le`).  From the other end the stretches are the
     same ones, backwards (`ofLocals_reverse`).

  3. **Long ones** — a stretch of so many locals is there exactly if so many equal locals stand
     side by side (`exists_long_iff`).

  4. **Runs** — a run is made from a stretch by cutting its length down to 32 bits (`ofStretch`),
     and grouping does to runs what `Stretch.push` does to stretches, as a word that wraps still
     counts on by one.  So the runs of any list of locals are its stretches, cut down (`group_eq`),
     from whichever end they are counted (`group_eq_foldl`).  Where no stretch needs more than a
     word, nothing is cut off: the runs are the stretches (`map_toStretch_group`), and give back the
     locals they were made from (`expand_group`).
-/
import Mathlib.Algebra.Group.Nat.Defs
import Mathlib.Data.List.Chain
import WasmBinary.Locals
import WasmBinary.Sum

namespace WasmBinary

/-- So many locals of one type, side by side. -/
structure Stretch where
  length : Nat
  type : ValType
deriving DecidableEq, Repr

namespace Stretch

/-- One more local in front: it joins the first stretch if the types agree. -/
def push (t : ValType) : List Stretch → List Stretch
  | [] => [⟨1, t⟩]
  | s :: rest => if s.type = t then ⟨s.length + 1, t⟩ :: rest else ⟨1, t⟩ :: s :: rest

/-- The stretches of a list of locals. -/
def ofLocals (locals : List ValType) : List Stretch :=
  locals.foldr push []

/-- The locals that a list of stretches stands for. -/
def expand (stretches : List Stretch) : List ValType :=
  stretches.flatMap fun s => List.replicate s.length s.type

/-- Stretches that can neither be joined nor be left out. -/
structure Maximal (stretches : List Stretch) : Prop where
  positive : ∀ s ∈ stretches, 1 ≤ s.length
  apart : stretches.IsChain fun a b => a.type ≠ b.type

@[simp] theorem expand_nil : expand [] = [] := rfl

@[simp] theorem expand_cons (s : Stretch) (rest : List Stretch) :
    expand (s :: rest) = List.replicate s.length s.type ++ expand rest := rfl

/-- Stretches behind stretches stand for locals behind locals. -/
theorem expand_append (front rest : List Stretch) :
    expand (front ++ rest) = expand front ++ expand rest :=
  List.flatMap_append

theorem ofLocals_cons (t : ValType) (locals : List ValType) :
    ofLocals (t :: locals) = push t (ofLocals locals) := rfl

/-- The lengths add up to the number of locals. -/
theorem sum_length (stretches : List Stretch) :
    sumOf (stretches.map Stretch.length) = (expand stretches).length := by
  induction stretches with
  | nil => rfl
  | cons s rest ih =>
    rw [List.map_cons, sumOf_cons, expand_cons, List.length_append, List.length_replicate, ih]

/-! ## Making them -/

/-- One more local of the type in front makes the first stretch longer. -/
theorem push_same (t : ValType) (n : Nat) (rest : List Stretch) :
    push t (⟨n, t⟩ :: rest) = ⟨n + 1, t⟩ :: rest :=
  if_pos rfl

/-- One of another type is a stretch of its own. -/
theorem push_other {t : ValType} {s : Stretch} (h : s.type ≠ t) (rest : List Stretch) :
    push t (s :: rest) = ⟨1, t⟩ :: s :: rest :=
  if_neg h

/-- What stands in front after one more local: a stretch of its type.  Behind it there are at most
    as many stretches as there were. -/
theorem exists_push (t : ValType) (stretches : List Stretch) :
    ∃ n rest, push t stretches = ⟨n + 1, t⟩ :: rest ∧ rest.length ≤ stretches.length := by
  cases stretches with
  | nil => exact ⟨0, [], rfl, Nat.le_refl 0⟩
  | cons s rest =>
    by_cases h : s.type = t
    · subst h
      exact ⟨s.length, rest, push_same _ _ rest, Nat.le_succ _⟩
    · exact ⟨0, s :: rest, push_other h rest, Nat.le_refl _⟩

/-- Taken in or not, the local is the first one that the stretches stand for. -/
theorem expand_push (t : ValType) (stretches : List Stretch) :
    expand (push t stretches) = t :: expand stretches := by
  cases stretches with
  | nil => rfl
  | cons s rest =>
    by_cases h : s.type = t
    · subst h
      rw [push_same, expand_cons, expand_cons, List.replicate_succ, List.cons_append]
    · rw [push_other h]
      rfl

/-- The stretches stand for the locals that they were made from. -/
theorem expand_ofLocals (locals : List ValType) : expand (ofLocals locals) = locals := by
  induction locals with
  | nil => rfl
  | cons t locals ih => rw [ofLocals_cons, expand_push, ih]

/-- A stretch of a list of locals is not longer than the list. -/
theorem length_le_of_mem {locals : List ValType} {s : Stretch} (h : s ∈ ofLocals locals) :
    s.length ≤ locals.length := by
  -- the locals are those of the stretch, with others on both sides
  obtain ⟨front, rest, hsplit⟩ := List.append_of_mem h
  have hlength := congrArg (List.length <| expand ·) hsplit
  simp only [expand_ofLocals, expand_append, expand_cons, List.length_append,
    List.length_replicate] at hlength
  omega

/-- One more local in front leaves the stretches such that none can be joined with its neighbour: a
    new stretch is only made where the types differ. -/
theorem Maximal.push {stretches : List Stretch} (h : Maximal stretches) (t : ValType) :
    Maximal (push t stretches) := by
  cases stretches with
  | nil =>
    refine ⟨fun s hs => ?_, List.isChain_singleton _⟩
    obtain rfl := List.mem_singleton.mp hs
    exact Nat.le_refl 1
  | cons s rest =>
    obtain ⟨hpos, hrest⟩ := List.forall_mem_cons.mp h.positive
    by_cases hs : s.type = t
    · subst hs
      rw [push_same]
      refine ⟨List.forall_mem_cons.mpr ⟨Nat.succ_pos _, hrest⟩, ?_⟩
      -- only the length of the first stretch is another
      have hapart := h.apart
      rw [List.isChain_cons] at hapart ⊢
      exact hapart
    · rw [push_other hs]
      refine ⟨List.forall_mem_cons.mpr ⟨Nat.le_refl 1, h.positive⟩, ?_⟩
      exact List.isChain_cons_cons.mpr ⟨fun heq => hs heq.symm, h.apart⟩

/-- No stretch of a list of locals can be joined with its neighbour or left out. -/
theorem maximal_ofLocals (locals : List ValType) : Maximal (ofLocals locals) := by
  induction locals with
  | nil => exact ⟨fun s hs => absurd hs List.not_mem_nil, List.isChain_nil⟩
  | cons t locals ih => exact ih.push t

/-! ## No other form -/

/-- Equal locals in front are one stretch, together with those of their type behind them. -/
theorem ofLocals_replicate_append (n : Nat) (t : ValType) (locals : List ValType) :
    ∃ more rest, ofLocals (List.replicate (n + 1) t ++ locals) = ⟨n + 1 + more, t⟩ :: rest ∧
      rest.length ≤ (ofLocals locals).length := by
  induction n with
  | zero =>
    obtain ⟨more, rest, hpush, hlength⟩ := exists_push t (ofLocals locals)
    refine ⟨more, rest, ?_, hlength⟩
    rw [Nat.zero_add, Nat.add_comm]
    exact hpush
  | succ n ih =>
    obtain ⟨more, rest, hfront, hlength⟩ := ih
    refine ⟨more, rest, ?_, hlength⟩
    rw [List.replicate_succ, List.cons_append, ofLocals_cons, hfront, push_same]
    congr 2
    omega

/-- In front of stretches that start with another type, equal locals are a stretch of their own. -/
theorem ofLocals_replicate_append_of_ne {n : Nat} {t : ValType} {locals : List ValType}
    (hn : 1 ≤ n) (h : ∀ s ∈ (ofLocals locals).head?, t ≠ s.type) :
    ofLocals (List.replicate n t ++ locals) = ⟨n, t⟩ :: ofLocals locals := by
  obtain ⟨k, rfl⟩ := Nat.exists_eq_add_of_le' hn
  induction k with
  | zero =>
    show push t (ofLocals locals) = _
    cases hlocals : ofLocals locals with
    | nil => rfl
    | cons s rest =>
      rw [hlocals] at h
      exact push_other (h s rfl).symm rest
  | succ k ih =>
    rw [List.replicate_succ, List.cons_append, ofLocals_cons, ih (Nat.succ_pos k), push_same]

/-- Stretches that cannot be joined are those of the locals that they stand for. -/
theorem ofLocals_expand {stretches : List Stretch} (h : Maximal stretches) :
    ofLocals (expand stretches) = stretches := by
  induction stretches with
  | nil => rfl
  | cons s rest ih =>
    obtain ⟨hpos, hrest⟩ := List.forall_mem_cons.mp h.positive
    obtain ⟨hhead, hapart⟩ := List.isChain_cons.mp h.apart
    -- the first stretch stays alone, as the one behind it is of another type
    have hsame : ofLocals (expand rest) = rest := ih ⟨hrest, hapart⟩
    rw [expand_cons, ofLocals_replicate_append_of_ne hpos, hsame]
    rw [hsame]
    exact hhead

/-- No list of stretches is shorter than that of the locals that it stands for.  The induction is on
    the stretches: one more of them adds one at most, because its locals are a single stretch, if
    not a part of the next one. -/
theorem length_ofLocals_expand_le (stretches : List Stretch) :
    (ofLocals (expand stretches)).length ≤ stretches.length := by
  induction stretches with
  | nil => exact Nat.le_refl 0
  | cons s rest ih =>
    obtain ⟨length, t⟩ := s
    rw [expand_cons, List.length_cons]
    cases length with
    | zero => exact Nat.le_succ_of_le ih
    | succ n =>
      obtain ⟨more, behind, hfront, hlength⟩ := ofLocals_replicate_append n t (expand rest)
      show (ofLocals (List.replicate (n + 1) t ++ expand rest)).length ≤ _
      rw [hfront, List.length_cons]
      omega

/-- There are not more stretches than locals: a stretch for each of them stands for the same. -/
theorem length_ofLocals_le (locals : List ValType) : (ofLocals locals).length ≤ locals.length := by
  -- one stretch for each local is the worst that can be done
  have hsingle : expand (locals.map (Stretch.mk 1)) = locals := by
    rw [expand, List.flatMap_map]
    exact List.flatMap_singleton' locals
  have hle := length_ofLocals_expand_le (locals.map (Stretch.mk 1))
  rw [hsingle, List.length_map] at hle
  exact hle

/-- Stretches backwards stand for the locals backwards, as a stretch looks the same from both
    ends. -/
theorem expand_reverse (stretches : List Stretch) :
    expand stretches.reverse = (expand stretches).reverse := by
  induction stretches with
  | nil => rfl
  | cons s rest ih =>
    have hone : expand [s] = List.replicate s.length s.type := List.append_nil _
    rw [List.reverse_cons, expand_append, ih, hone, expand_cons, List.reverse_append,
      List.reverse_replicate]

/-- Stretches that cannot be joined cannot be joined backwards either. -/
theorem Maximal.reverse {stretches : List Stretch} (h : Maximal stretches) :
    Maximal stretches.reverse where
  positive := fun s hs => h.positive s (List.mem_reverse.mp hs)
  apart := List.isChain_reverse.mpr (h.apart.imp fun _ _ hne => hne.symm)

/-- The stretches of the locals backwards are the stretches backwards: these stand for the same
    locals and cannot be joined, and there is only one such list. -/
theorem ofLocals_reverse (locals : List ValType) :
    ofLocals locals.reverse = (ofLocals locals).reverse := by
  calc ofLocals locals.reverse
    _ = ofLocals (expand (ofLocals locals).reverse) := by
        rw [expand_reverse, expand_ofLocals]
    _ = (ofLocals locals).reverse := ofLocals_expand (maximal_ofLocals locals).reverse

/-! ## Long ones -/

/-- One more local makes no stretch shorter. -/
theorem exists_long_push {n : Nat} {stretches : List Stretch}
    (h : ∃ s ∈ stretches, n ≤ s.length) (t : ValType) : ∃ s ∈ push t stretches, n ≤ s.length := by
  obtain ⟨s, hs, hn⟩ := h
  cases stretches with
  | nil => exact absurd hs List.not_mem_nil
  | cons first rest =>
    by_cases ht : first.type = t
    · subst ht
      rw [push_same]
      rcases List.mem_cons.mp hs with rfl | hs
      · exact ⟨_, List.mem_cons_self, Nat.le_succ_of_le hn⟩
      · exact ⟨s, List.mem_cons_of_mem _ hs, hn⟩
    · rw [push_other ht]
      exact ⟨s, List.mem_cons_of_mem _ hs, hn⟩

/-- There is a stretch of so many locals exactly if so many equal ones stand side by side. -/
theorem exists_long_iff {n : Nat} (hn : 1 ≤ n) (locals : List ValType) :
    (∃ s ∈ ofLocals locals, n ≤ s.length) ↔ ∃ t, List.replicate n t <:+: locals := by
  constructor
  · rintro ⟨s, hs, hlong⟩
    obtain ⟨front, rest, hsplit⟩ := List.append_of_mem hs
    refine ⟨s.type, expand front,
      List.replicate (s.length - n) s.type ++ expand rest, ?_⟩
    have hlocals := expand_ofLocals locals
    rw [hsplit, expand_append, expand_cons] at hlocals
    rw [← hlocals, List.append_assoc, ← List.append_assoc (List.replicate n s.type),
      List.replicate_append_replicate, Nat.add_sub_of_le hlong]
  · rintro ⟨t, front, rest, rfl⟩
    rw [List.append_assoc]
    -- what stands in front makes the long stretch no shorter
    induction front with
    | nil =>
      obtain ⟨k, rfl⟩ := Nat.exists_eq_add_of_le' hn
      obtain ⟨more, behind, hfront, -⟩ := ofLocals_replicate_append k t rest
      rw [List.nil_append, hfront]
      exact ⟨_, List.mem_cons_self, Nat.le_add_right _ _⟩
    | cons u front ih => exact exists_long_push ih u

end Stretch

/-! ## Runs -/

namespace LocalRun

/-- A stretch, counted by a word. -/
def ofStretch (s : Stretch) : LocalRun :=
  ⟨UInt32.ofNat s.length, s.type⟩

/-- The stretch that a run stands for. -/
def toStretch (run : LocalRun) : Stretch :=
  ⟨run.count.toNat, run.type⟩

/-- Runs stand for the locals that their stretches stand for. -/
theorem expand_eq (runs : List LocalRun) : expand runs = Stretch.expand (runs.map toStretch) := by
  rw [expand, Stretch.expand, List.flatMap_map]
  rfl

/-- One more local does to the runs what it does to the stretches. -/
theorem push_ofStretch (t : ValType) (stretches : List Stretch) :
    push t (stretches.map ofStretch) = (Stretch.push t stretches).map ofStretch := by
  cases stretches with
  | nil => rfl
  | cons s rest =>
    by_cases h : s.type = t
    · subst h
      -- words wrap around just as lengths are cut down to words
      have hcount : UInt32.ofNat s.length + 1 = UInt32.ofNat (s.length + 1) :=
        (UInt32.ofNat_add s.length 1).symm
      rw [Stretch.push_same, List.map_cons, List.map_cons]
      refine (if_pos rfl).trans ?_
      exact congrArg (fun count => LocalRun.mk count s.type :: rest.map ofStretch) hcount
    · rw [Stretch.push_other h]
      exact if_neg h

/-- The runs of a list of locals are its stretches, cut down to words. -/
theorem group_eq (locals : List ValType) :
    group locals = (Stretch.ofLocals locals).map ofStretch := by
  induction locals with
  | nil => rfl
  | cons t locals ih => rw [group_cons, ih, push_ofStretch, Stretch.ofLocals_cons]

/-- Counting from the first local to the last, with the latest run at hand, gives the same runs. -/
theorem group_eq_foldl (locals : List ValType) :
    group locals = (locals.foldl (fun runs t => push t runs) []).reverse := by
  calc group locals
    _ = ((Stretch.ofLocals locals.reverse).reverse).map ofStretch := by
        rw [group_eq, Stretch.ofLocals_reverse, List.reverse_reverse]
    _ = (group locals.reverse).reverse := by
        rw [group_eq, List.map_reverse]
    _ = (locals.foldl (fun runs t => push t runs) []).reverse := by
        rw [group, List.foldr_reverse]

/-- A stretch that a word can count survives being counted by one. -/
theorem toStretch_ofStretch {s : Stretch} (h : s.length < 2 ^ 32) :
    toStretch (ofStretch s) = s := by
  obtain ⟨length, t⟩ := s
  exact congrArg (Stretch.mk · t) (UInt32.toNat_ofNat_of_lt' h)

/-- Where no stretch needs more than a word, the runs are the stretches. -/
theorem map_toStretch_group {locals : List ValType}
    (h : ∀ s ∈ Stretch.ofLocals locals, s.length < 2 ^ 32) :
    (group locals).map toStretch = Stretch.ofLocals locals := by
  have hsame : ∀ s ∈ Stretch.ofLocals locals, (toStretch ∘ ofStretch) s = id s := fun s hs =>
    toStretch_ofStretch (h s hs)
  rw [group_eq, List.map_map, List.map_congr_left hsame, List.map_id]

/-- Grouping loses no local and does not move one. -/
theorem expand_group (locals : List ValType) (h : locals.length < 2 ^ 32) :
    expand (group locals) = locals := by
  -- a stretch is no longer than the list, so that a word can count it
  have hshort : ∀ s ∈ Stretch.ofLocals locals, s.length < 2 ^ 32 := fun s hs =>
    Nat.lt_of_le_of_lt (Stretch.length_le_of_mem hs) h
  rw [expand_eq, map_toStretch_group hshort, Stretch.expand_ofLocals]

end LocalRun

end WasmBinary
