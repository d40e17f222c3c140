/-
  Compilers on a machine, whatever its programs do.

  1. **The user** — a run changes files, and neither the variables of the user nor the directory
     that he works in (`Machine.compile_same_user`).

  2. **The scratch directory** — it is taken away by its name, in the directory for temporary files.
     A program may have moved that directory, or have put another one in its place; the name is
     gone from the one that is found then, and it is found there afterwards too, because the tree
     only got thinner (`Machine.lookup_removeScratch`).  So behind a run the directory for temporary
     files has no scratch directory in it (`Machine.compile_clean`).
-/
import WasmBinary.Machine.System
import WasmBinary.Proofs.Compiler
import WasmBinary.Proofs.Machine.Files

namespace WasmBinary.Machine

variable (programs : Programs) (compiler : ReferenceCompiler) (wat : String) (machine : Machine)

/-! ## The user -/

/-- Two machines with the same user at the same place. -/
def SameUser (a b : Machine) : Prop :=
  a.environment = b.environment ∧ a.directory = b.directory ∧ a.directoryPath = b.directoryPath

/-- **Files are all that a run changes** on a machine.  Every operation that a run is made of keeps
    the user as he is, and the programs are handed files to change and nothing else. -/
theorem compile_same_user :
    SameUser (compiler.compile (system programs) wat machine).2 machine := by
  refine ReferenceCompiler.compile_keeps (P := fun w => SameUser w machine) ?_ ?_ ?_ ?_
    ⟨rfl, rfl, rfl⟩
  · intro w scratch made h hmake
    simp only [system, makeScratch] at hmake
    split at hmake
    · nomatch hmake
    · obtain ⟨-, rfl⟩ := Prod.mk.inj (Except.ok.inj hmake)
      exact h
  · intro w scratch h
    simp only [system, removeScratch]
    split
    · exact h
    · exact h
  · intro w path data written h hwrite
    simp only [system] at hwrite
    -- a write that succeeds gives new files, and the rest of the machine is copied
    cases hfiles : w.files.write w.directory path data with
    | error fault =>
      rw [hfiles] at hwrite
      nomatch hwrite
    | ok files =>
      rw [hfiles] at hwrite
      obtain rfl := Except.ok.inj hwrite
      exact h
  · -- what a program shows is its own affair, but only files come back from it
    intro w program arguments errors child h hstart moment
    simp only [system, start] at hstart
    cases hstream : w.files.find w.directory errors with
    | error fault =>
      rw [hstream] at hstart
      nomatch hstart
    | ok stream =>
      rw [hstream] at hstart
      dsimp only [bind, Except.bind] at hstart
      split at hstart
      · nomatch hstart
      · obtain rfl := Except.ok.inj hstart
        exact h

/-! ## The scratch directory -/

/-- The directory for temporary files is where it was, as long as it can be found.  Its path is that
    of the environment, which loses nothing with the tree. -/
theorem temporary_of_thinner {thin : Files} (h : thin.Thinner machine.files) {place : Nat}
    (htemporary : ({ machine with files := thin } : Machine).temporary = .ok place) :
    machine.temporary = .ok place := by
  unfold temporary at htemporary ⊢
  have hpath : ({ machine with files := thin } : Machine).temporaryPath
      = machine.temporaryPath := rfl
  rw [hpath] at htemporary
  cases hfind : thin.find machine.directory machine.temporaryPath with
  | error fault =>
    rw [hfind] at htemporary
    nomatch htemporary
  | ok found =>
    rw [hfind] at htemporary
    rw [h.find_eq hfind]
    show (if machine.files.isDirectory found then _ else _) = _
    rw [← h.isDirectory_eq]
    exact htemporary

/-- What is taken away is gone from where it would be looked for.  Where the directory for temporary
    files is found afterwards, it is the one that was found before: a tree that only got thinner
    leads to no other. -/
theorem lookup_removeScratch {place : Nat} (h : machine.removeScratch.temporary = .ok place) :
    (machine.removeScratch.files.entries place).lookup scratchName = none := by
  cases htemporary : machine.temporary with
  | error fault =>
    -- without a directory for temporary files nothing is taken away, and there is none to look in
    have hsame : machine.removeScratch = machine := by
      rw [removeScratch, htemporary]
    rw [hsame, htemporary] at h
    nomatch h
  | ok found =>
    have hremoved : machine.removeScratch
        = { machine with files := machine.files.unlink found scratchName } := by
      rw [removeScratch, htemporary]
    rw [hremoved] at h ⊢
    have hplace := temporary_of_thinner machine (machine.files.thinner_unlink found scratchName) h
    obtain rfl : found = place := Except.ok.inj (htemporary.symm.trans hplace)
    exact machine.files.lookup_unlink found scratchName

/-- **No scratch directory is left**, whatever the program did, and however the run ended.  Where no
    scratch directory could be made for it, the machine is as it was. -/
theorem compile_clean :
    (compiler.compile (system programs) wat machine).2 = machine ∨
    ∀ place, (compiler.compile (system programs) wat machine).2.temporary = .ok place →
      ((compiler.compile (system programs) wat machine).2.files.entries place).lookup scratchName
        = none := by
  rcases compiler.compile_tidy (system programs) wat machine with
    ⟨-, hsame⟩ | ⟨program, scratch, made, last, -, hremoved⟩
  · exact .inl hsame
  · right
    intro place hplace
    rw [hremoved] at hplace ⊢
    exact last.lookup_removeScratch hplace

end WasmBinary.Machine
