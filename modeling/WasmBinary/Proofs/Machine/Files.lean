/-
  File trees that lose names.

  1. **Names** — a name that was taken away is not there, and every other name stands for what it
     stood for (`lookup_without`).

  2. **Nodes** — taking a name away changes one node, and of that node only the names.  So every
     node of the tree is there as before, with the same rights and of the same kind, and no name
     means anything new: the tree is THINNER (`Files.thinner_unlink`).

  3. **Paths** — what is found in a thinner tree is found in the other one, at the same spot
     (`Files.Thinner.walk_eq`), so a path that still leads somewhere leads where it led
     (`Files.Thinner.find_eq`).  The induction is that of the walk; a walk that fails in the thinner
     tree says nothing, so only the steps that go on have to be followed.
-/
import WasmBinary.Machine.Files

namespace WasmBinary.Machine

/-! ## Names -/

/-- Names without one of them. -/
def without (gone : String) (names : List (String × Nat)) : List (String × Nat) :=
  names.filter fun entry => entry.1 ≠ gone

/-- What names stand for when one of them is taken away. -/
theorem lookup_without (gone name : String) (names : List (String × Nat)) :
    (without gone names).lookup name = if name = gone then none else names.lookup name := by
  induction names with
  | nil => simp [without]
  | cons entry names ih =>
    obtain ⟨other, i⟩ := entry
    unfold without at ih ⊢
    by_cases hother : other = gone
    · -- the entry is taken away, and no other name is looked for under it
      rw [List.filter_cons_of_neg (by simp [hother]), ih, hother]
      by_cases hname : name = gone
      · rw [if_pos hname, if_pos hname]
      · rw [if_neg hname, if_neg hname, List.lookup_cons, beq_eq_false_iff_ne.mpr hname]
    · rw [List.filter_cons_of_pos (by simp [hother]), List.lookup_cons, List.lookup_cons, ih]
      by_cases hname : name = other
      · rw [beq_iff_eq.mpr hname]
        exact (if_neg (hname ▸ hother)).symm
      · rw [beq_eq_false_iff_ne.mpr hname]

/-! ## Nodes -/

/-- A node that may have lost names, and nothing else. -/
structure Node.Thinner (thin node : Node) : Prop where
  allows : ∀ right, thin.allows right = node.allows right
  isDirectory : thin.isDirectory = node.isDirectory
  target : thin.target? = node.target?
  directory : ∀ names parent, thin.content = .directory names parent →
    ∃ more, node.content = .directory more parent ∧
      ∀ name i, names.lookup name = some i → more.lookup name = some i

theorem Node.Thinner.refl (node : Node) : Node.Thinner node node where
  allows _ := rfl
  isDirectory := rfl
  target := rfl
  directory names _ h := ⟨names, h, fun _ _ => id⟩

namespace Files

/-- The names in a directory, with their nodes. -/
def entries (files : Files) (i : Nat) : List (String × Nat) :=
  ((files.node? i).map Node.entries).getD []

/-- A tree whose nodes may have lost names, and nothing else.  Nodes that no name leads to any more
    are there still, so that both trees have the same ones. -/
def Thinner (thin files : Files) : Prop :=
  ∀ i, Option.Rel Node.Thinner (thin.node? i) (files.node? i)

/-- A change of one node leaves all the others as they are, and makes none. -/
theorem node?_modify (files : Files) (i j : Nat) (f : Node → Node) :
    (files.modify i f).node? j = if i = j then (files.node? j).map f else files.node? j :=
  Array.getElem?_modify

/-- Taking a name away makes a tree thinner. -/
theorem thinner_unlink (files : Files) (place : Nat) (name : String) :
    (files.unlink place name).Thinner files := by
  intro i
  rw [unlink, changeEntries, node?_modify]
  cases hnode : files.node? i with
  | none => split <;> exact .none
  | some node =>
    split
    · refine .some ?_
      dsimp only
      split
      · -- a directory keeps its place and its rights, and the other names
        rename_i names parent hcontent
        refine ⟨fun _ => rfl, ?_, ?_, ?_⟩
        · simp [Node.isDirectory, hcontent]
        · simp [Node.target?, hcontent]
        · intro left above hleft
          obtain ⟨rfl, rfl⟩ := Content.directory.inj hleft
          refine ⟨names, hcontent, fun other j hlookup => ?_⟩
          have hkept := (lookup_without name other names).symm.trans hlookup
          split at hkept
          · cases hkept
          · exact hkept
      · exact .refl node
    · exact .some (.refl node)

/-- A name that was taken away is not there. -/
theorem lookup_unlink (files : Files) (place : Nat) (name : String) :
    ((files.unlink place name).entries place).lookup name = none := by
  rw [entries, unlink, changeEntries, node?_modify, if_pos rfl]
  cases hnode : files.node? place with
  | none => rfl
  | some node =>
    show ((Node.entries _).lookup name) = none
    cases hcontent : node.content with
    | directory names parent =>
      simp only [Node.entries, hcontent]
      exact (lookup_without name name names).trans (if_pos rfl)
    | data | tool | device | link | queue => simp [Node.entries, hcontent]

/-! ## Paths -/

variable {thin files : Files}

/-- At a place that is a directory, a name stands for an entry, and it may be looked up.  The names
    that are no entries, as those of the place itself and of the one above, are left out. -/
structure Enters (files : Files) (place : Nat) (name : String) (i : Nat) : Prop where
  opens : ∃ node names parent, files.node? place = some node ∧
    node.content = .directory names parent ∧ node.allows .run = true ∧
    names.lookup name = some i
  plain : name ≠ "" ∧ name ≠ "." ∧ name ≠ ".." ∧ ¬ longestName < name.length

section Steps

variable {place i : Nat} {name target : String} {rest : List String} {through : Bool} {links : Nat}

/-- A walk stops at a link that is not to be followed. -/
theorem walk_link_end (h : files.Enters place name i)
    (htarget : (files.node? i).bind Node.target? = some target)
    (hstop : (rest.isEmpty && !through) = true) :
    files.walk through links place (name :: rest) = .ok ⟨place, name, some i, false⟩ := by
  obtain ⟨⟨node, names, parent, hnode, hcontent, hrun, hlookup⟩, hempty, hdot, hup, hlength⟩ := h
  rw [Files.walk]
  simp only [hnode, hcontent, if_neg hempty, if_neg hdot, if_neg hup, if_neg hlength, hrun, hlookup,
    htarget, hstop, Bool.not_true, Bool.false_eq_true, if_false, if_true]

/-- It goes on where any other link leads. -/
theorem walk_link (h : files.Enters place name i)
    (htarget : (files.node? i).bind Node.target? = some target)
    (hgo : ¬ (rest.isEmpty && !through) = true) (hsome : target ≠ "") :
    files.walk through (links + 1) place (name :: rest)
      = files.walk through links (if target.startsWith "/" then 0 else place)
          (target.splitOn "/" ++ rest) := by
  obtain ⟨⟨node, names, parent, hnode, hcontent, hrun, hlookup⟩, hempty, hdot, hup, hlength⟩ := h
  rw [Files.walk]
  simp only [hnode, hcontent, if_neg hempty, if_neg hdot, if_neg hup, if_neg hlength, hrun, hlookup,
    htarget, if_neg hgo, if_neg hsome, Bool.not_true, Bool.false_eq_true, if_false]

/-- It stops at the last name. -/
theorem walk_end (h : files.Enters place name i)
    (htarget : (files.node? i).bind Node.target? = none) (hlast : rest.all (· = "") = true) :
    files.walk through links place (name :: rest) = .ok ⟨place, name, some i, !rest.isEmpty⟩ := by
  obtain ⟨⟨node, names, parent, hnode, hcontent, hrun, hlookup⟩, hempty, hdot, hup, hlength⟩ := h
  rw [Files.walk]
  simp only [hnode, hcontent, if_neg hempty, if_neg hdot, if_neg hup, if_neg hlength, hrun, hlookup,
    htarget, if_pos hlast, Bool.not_true, Bool.false_eq_true, if_false]

/-- It goes on in a directory. -/
theorem walk_into (h : files.Enters place name i)
    (htarget : (files.node? i).bind Node.target? = none) (hmore : ¬ rest.all (· = "") = true)
    (hdirectory : files.isDirectory i = true) :
    files.walk through links place (name :: rest) = files.walk through links i rest := by
  obtain ⟨⟨node, names, parent, hnode, hcontent, hrun, hlookup⟩, hempty, hdot, hup, hlength⟩ := h
  rw [Files.walk]
  simp only [hnode, hcontent, if_neg hempty, if_neg hdot, if_neg hup, if_neg hlength, hrun, hlookup,
    htarget, if_neg hmore, hdirectory, Bool.not_true, Bool.false_eq_true, if_false, if_true]

end Steps

namespace Thinner

/-- A node of the thinner tree is a thinner node of the other one. -/
theorem exists_node (h : thin.Thinner files) {i : Nat} {node : Node}
    (hnode : thin.node? i = some node) : ∃ more, files.node? i = some more ∧ node.Thinner more := by
  have hrel := h i
  rw [hnode] at hrel
  generalize files.node? i = found at hrel
  cases hrel with
  | some hthinner => exact ⟨_, rfl, hthinner⟩

/-- Links lead where they led: a link has no names to lose. -/
theorem target_eq (h : thin.Thinner files) (i : Nat) :
    (thin.node? i).bind Node.target? = (files.node? i).bind Node.target? := by
  have hrel := h i
  generalize thin.node? i = node at hrel ⊢
  generalize files.node? i = more at hrel ⊢
  cases hrel with
  | none => rfl
  | some hthinner => exact hthinner.target

/-- What is a directory stays one, and nothing becomes one. -/
theorem isDirectory_eq (h : thin.Thinner files) (i : Nat) :
    thin.isDirectory i = files.isDirectory i := by
  have hrel := h i
  unfold isDirectory
  generalize thin.node? i = node at hrel ⊢
  generalize files.node? i = more at hrel ⊢
  cases hrel with
  | none => rfl
  | some hthinner => exact hthinner.isDirectory

/-- A directory of the thinner tree is one of the other tree, under the same directory and with the
    same rights, and what a name stands for in it is not lost. -/
theorem exists_directory (h : thin.Thinner files) {place parent : Nat} {node : Node}
    {names : List (String × Nat)} (hplace : thin.node? place = some node)
    (hcontent : node.content = .directory names parent) :
    ∃ other more, files.node? place = some other ∧ other.content = .directory more parent ∧
      (∀ right, other.allows right = node.allows right) ∧
      ∀ name i, names.lookup name = some i → more.lookup name = some i := by
  obtain ⟨other, hother, hthinner⟩ := h.exists_node hplace
  obtain ⟨more, hmore, hkept⟩ := hthinner.directory names parent hcontent
  exact ⟨other, more, hother, hmore, fun right => (hthinner.allows right).symm, hkept⟩

/-- What a name stands for in the thinner tree it stands for in the other one. -/
theorem enters (h : thin.Thinner files) {place i : Nat} {name : String}
    (henters : thin.Enters place name i) : files.Enters place name i := by
  obtain ⟨⟨node, names, parent, hplace, hcontent, hrun, hlookup⟩, hplain⟩ := henters
  obtain ⟨other, more, hother, hmore, hallows, hkept⟩ := h.exists_directory hplace hcontent
  have hallowed : other.allows .run = true := (hallows .run).trans hrun
  exact ⟨⟨other, more, parent, hother, hmore, hallowed, hkept name i hlookup⟩, hplain⟩

/-- **What is found in a thinner tree is found in the other one**, at the same spot.  The induction
    is that of the walk in the thinner tree.  Where that one goes on, the other one takes the same
    step, because the rights, the links and the entry are the same. -/
theorem walk_eq (h : thin.Thinner files) {through : Bool} {links place : Nat} {names : List String}
    {spot : Spot} (hspot : thin.walk through links place names = .ok spot)
    (hnode : spot.node.isSome) : files.walk through links place names = .ok spot := by
  fun_induction Files.walk thin through links place names with
  | case1 links place => rw [Files.walk]; exact hspot
  -- a step within the tree: nowhere, to the same place, or to the one above
  | case3 links place rest node hplace entries parent hcontent ih =>
    obtain ⟨other, more, hother, hmore, -, -⟩ := h.exists_directory hplace hcontent
    rw [Files.walk]
    simp only [hother, hmore, if_true]
    exact ih hspot
  | case5 links place rest node hplace entries parent hcontent hrun hempty ih =>
    obtain ⟨other, more, hother, hmore, hallows, -⟩ := h.exists_directory hplace hcontent
    rw [← hallows] at hrun
    rw [Files.walk]
    simp only [hother, hmore, if_neg hempty, if_neg hrun, if_true]
    exact ih hspot
  | case6 links place rest node hplace entries parent hcontent hrun hempty hdot ih =>
    obtain ⟨other, more, hother, hmore, hallows, -⟩ := h.exists_directory hplace hcontent
    rw [← hallows] at hrun
    rw [Files.walk]
    simp only [hother, hmore, if_neg hempty, if_neg hrun, if_neg hdot, if_true]
    exact ih hspot
  -- a name that is not there is no node
  | case8 =>
    obtain rfl := Except.ok.inj hspot
    nomatch hnode
  -- an entry, which is the same in both trees
  | case10 place name rest node hplace entries parent hcontent hempty hrun hdot hup hlength i
      hlookup target links htarget hstop =>
    have henters := h.enters ⟨⟨node, entries, parent, hplace, hcontent, by simpa using hrun,
      hlookup⟩, hempty, hdot, hup, hlength⟩
    rw [walk_link_end henters (h.target_eq i ▸ htarget) hstop]
    exact hspot
  | case13 place name rest node hplace entries parent hcontent hempty hrun hdot hup hlength i
      hlookup target htarget hstop links hsome start ih =>
    have henters := h.enters ⟨⟨node, entries, parent, hplace, hcontent, by simpa using hrun,
      hlookup⟩, hempty, hdot, hup, hlength⟩
    rw [walk_link henters (h.target_eq i ▸ htarget) hstop hsome]
    exact ih hspot
  | case14 place name rest node hplace entries parent hcontent hempty hrun hdot hup hlength last i
      hlookup links htarget hlast =>
    have henters := h.enters ⟨⟨node, entries, parent, hplace, hcontent, by simpa using hrun,
      hlookup⟩, hempty, hdot, hup, hlength⟩
    rw [walk_end henters (h.target_eq i ▸ htarget) hlast]
    exact hspot
  | case15 place name rest node hplace entries parent hcontent hempty hrun hdot hup hlength last i
      hlookup links htarget hlast hdirectory ih =>
    have henters := h.enters ⟨⟨node, entries, parent, hplace, hcontent, by simpa using hrun,
      hlookup⟩, hempty, hdot, hup, hlength⟩
    rw [walk_into henters (h.target_eq i ▸ htarget) hlast (h.isDirectory_eq i ▸ hdirectory)]
    exact ih hspot
  -- everywhere else the walk fails
  | _ => nomatch hspot

/-- The same for the node at the end of a path.  A path is refused for its looks before the tree is
    asked at all, so both trees refuse the same ones. -/
theorem find_eq (h : thin.Thinner files) {start i : Nat} {path : String} {through : Bool}
    (hfind : thin.find start path through = .ok i) : files.find start path through = .ok i := by
  unfold find spot at hfind ⊢
  split at hfind
  · nomatch hfind
  · split at hfind
    · nomatch hfind
    · split at hfind
      · nomatch hfind
      · rename_i hzero hempty hlength
        rw [if_neg hzero, if_neg hempty, if_neg hlength]
        cases hwalk : thin.walk through mostLinks (if path.startsWith "/" then 0 else start)
          (path.splitOn "/") with
        | error fault =>
          rw [hwalk] at hfind
          nomatch hfind
        | ok spot =>
          rw [hwalk] at hfind
          -- a spot without a node is where something could be made, and no node is found there
          cases hnode : spot.node with
          | none =>
            have hfault : thin.nodeOf spot = .error .notFound := by
              rw [nodeOf, hnode]
            nomatch hfault.symm.trans hfind
          | some j =>
            have hsame : thin.nodeOf spot = files.nodeOf spot := by
              rw [nodeOf, nodeOf, hnode]
              simp only [h.isDirectory_eq]
            rw [h.walk_eq hwalk (by rw [hnode]; rfl)]
            exact hsame.symm.trans hfind

end Thinner

end Files

end WasmBinary.Machine
