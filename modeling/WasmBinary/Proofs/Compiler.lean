/-
  How a compiler run ends, whatever the system does.

  1. **Waiting** — a program is looked at every ten milliseconds, and the last look is the first one
     at or after its time limit (`isLeast_deadline`).  A program that has ended stays as it is, so
     what the looks come to is what the last one shows (`Child.watch_eq`).  The invariant of the
     loop is that the moment is a multiple of the interval that is not behind the last look.

  2. **Complaints** — text without the blanks around it, the first 1024 characters of it at most,
     and nothing at all if it is no text (`complaint_eq`).

  3. **Courses** — there are ten ways that a run can go: four before a program is started
     (`ReferenceCompiler.Refused`) and six from there on (`ReferenceCompiler.Answered`), each with
     what was found, made, written and seen on the way.  A run goes one of them
     (`ReferenceCompiler.course_attempt`), and what one of them ends with is what the run comes to
     (`ReferenceCompiler.attempt_eq_iff`).

  4. **Bytes and tidiness** — so there are bytes exactly where the program ended with status zero in
     its time and left them (`ReferenceCompiler.compile_eq_ok_iff`), and a scratch directory that
     was made is taken away at the end of every course (`ReferenceCompiler.compile_tidy`).
-/
import Mathlib.Order.Bounds.Basic
import WasmBinary.Compiler
import WasmBinary.Proofs.Config.Values

namespace WasmBinary

/-! ## Waiting -/

/-- **The last look** is the first one at or after the time limit. -/
theorem isLeast_deadline (timeout : Nat) :
    IsLeast {moment | interval ∣ moment ∧ timeout ≤ moment} (deadline timeout) := by
  constructor
  · refine ⟨Nat.dvd_mul_left .., ?_⟩
    simp only [deadline, interval]
    omega
  · rintro moment ⟨⟨looks, rfl⟩, hlimit⟩
    simp only [deadline, interval] at hlimit ⊢
    omega

namespace Child

variable {W : Type}

/-- A program that has ended, or is lost, stays as it is. -/
def Steady (child : Child W) : Prop :=
  ∀ early late, early ≤ late → (child early).1 ≠ .running → child late = child early

/-- From every look that is not behind the last one, the loop comes to what the last one shows. -/
theorem watch_eq_of_le {child : Child W} (h : child.Steady) {timeout moment : Nat}
    (hlook : interval ∣ moment) (hle : moment ≤ deadline timeout) :
    child.watch timeout moment = child (deadline timeout) := by
  obtain ⟨⟨hdvd, hlimit⟩, hleast⟩ := isLeast_deadline timeout
  fun_induction child.watch timeout moment with
  | case1 moment w hrunning hover =>
    -- the time is over, so this is the last look
    obtain rfl : moment = deadline timeout := Nat.le_antisymm hle (hleast ⟨hlook, hover⟩)
    exact hrunning.symm
  | case2 moment w hrunning hover ih =>
    -- there is time left, so the next look is not behind the last one either
    refine ih (Nat.dvd_add_self_right.mpr hlook) ?_
    obtain ⟨looks, rfl⟩ := hlook
    obtain ⟨last, hlast⟩ := hdvd
    simp only [interval] at *
    omega
  | case3 moment hseen =>
    -- nothing changes between this look and the last one
    refine (h moment _ hle fun hrunning => ?_).symm
    exact hseen (child moment).2 (Prod.ext hrunning rfl)

/-- **Polling is looking once.**  Looking at a program every ten milliseconds until it has ended or
    its time is over shows what one look at the deadline shows. -/
theorem watch_eq {child : Child W} (h : child.Steady) (timeout : Nat) :
    child.watch timeout 0 = child (deadline timeout) :=
  watch_eq_of_le h (Nat.dvd_zero _) (Nat.zero_le _)

end Child

/-! ## Complaints -/

namespace Blank

/-- What is left of a text has no blank in front. -/
theorem head?_dropWhile {text : List Char} {c : Char}
    (h : (text.dropWhile isBlank).head? = some c) : isBlank c = false := by
  have hhead := List.head?_dropWhile_not isBlank text
  rw [h] at hhead
  exact hhead

/-- **Trimming** takes blanks off both ends, and leaves none there. -/
theorem trim_ends (text : List Char) :
    (∀ c ∈ (trim text).head?, isBlank c = false) ∧
      ∀ c ∈ (trim text).getLast?, isBlank c = false := by
  have hlast : ∀ c ∈ (trim text).getLast?, isBlank c = false := by
    intro c hc
    rw [trim, List.getLast?_reverse] at hc
    exact head?_dropWhile hc
  refine ⟨fun c hc => ?_, hlast⟩
  -- what is taken off at the end lies behind the first character, or nothing is left
  obtain ⟨back, hback⟩ := List.dropWhile_suffix isBlank (l := (text.dropWhile isBlank).reverse)
  have hfront : text.dropWhile isBlank = trim text ++ back.reverse := by
    rw [trim, ← List.reverse_append, hback, List.reverse_reverse]
  have hhead : (text.dropWhile isBlank).head? = some c := by
    rw [hfront, List.head?_append, hc]
    rfl
  exact head?_dropWhile hhead

end Blank

/-- What is told of a complaint: of a text without the blanks around it, as much from its front on
    as there is room for. -/
theorem complaint_eq {data : ByteArray} {text : String} (h : String.fromUTF8? data = some text) :
    ∃ front told rest back, text.toList = front ++ (told ++ rest) ++ back ∧
      (complaint data).toList = told ∧ told.length ≤ longestComplaint ∧
      (rest ≠ [] → told.length = longestComplaint) ∧
      (∀ c ∈ front, Blank.isBlank c = true) ∧ (∀ c ∈ back, Blank.isBlank c = true) ∧
      (∀ c ∈ (told ++ rest).head?, Blank.isBlank c = false) ∧
      ∀ c ∈ (told ++ rest).getLast?, Blank.isBlank c = false := by
  obtain ⟨front, back, htext, hfront, hback⟩ := Blank.exists_trim text.toList
  have hends := Blank.trim_ends text.toList
  have hsplit := List.take_append_drop longestComplaint (Blank.trim text.toList)
  refine ⟨front, (Blank.trim text.toList).take longestComplaint,
    (Blank.trim text.toList).drop longestComplaint, back, ?_, ?_, List.length_take_le .., ?_,
    hfront, hback, ?_⟩
  · rw [hsplit]
    exact htext
  · rw [complaint, h]
    exact String.toList_ofList
  · intro hrest
    have hlong : longestComplaint < (Blank.trim text.toList).length :=
      Nat.lt_of_not_le fun hle => hrest (List.drop_eq_nil_of_le hle)
    exact List.length_take_of_le (Nat.le_of_lt hlong)
  · rw [hsplit]
    exact hends

/-- What is no text is passed over. -/
theorem complaint_of_none {data : ByteArray} (h : String.fromUTF8? data = none) :
    complaint data = "" := by
  rw [complaint, h]

/-- Whatever a program complains about, no more than so much is told. -/
theorem length_complaint_le (data : ByteArray) : (complaint data).length ≤ longestComplaint := by
  cases h : String.fromUTF8? data with
  | none =>
    rw [complaint_of_none h]
    exact Nat.zero_le _
  | some text =>
    obtain ⟨-, told, -, -, -, htold, hlength, -⟩ := complaint_eq h
    rw [← String.length_toList, htold]
    exact hlength

/-! ## Courses -/

namespace ReferenceCompiler

variable {W : Type} (compiler : ReferenceCompiler) (system : System W) (wat : String) (w : W)

/-- A compiler was found at a path, and there is a scratch directory for it. -/
def Housed (program scratch : String) (made : W) : Prop :=
  system.locate? w (ByteText.ofText compiler.program) = some program ∧
    system.makeScratch w = .ok (scratch, made)

/-- In its scratch directory there are the text, and an empty file for complaints. -/
def Prepared (program scratch : String) (ready : W) : Prop :=
  ∃ made written, Housed compiler system w program scratch made ∧
    system.write made (textIn scratch) wat.toUTF8 = .ok written ∧
    system.write written (errorsIn scratch) .empty = .ok ready

/-- It was started there, and the last look at it showed something, in the world as it was then. -/
def Seen (program scratch : String) (seen : Sight) (after : W) : Prop :=
  ∃ ready child, Prepared compiler system wat w program scratch ready ∧
    system.start ready program (arguments scratch) (errorsIn scratch) = .ok child ∧
    child (deadline compiler.timeout) = (seen, after)

/-- The ways that a run can go before a program is started: the answer, and the world at the end. -/
inductive Refused : CompilerFault → W → Prop
  | missing :
      system.locate? w (ByteText.ofText compiler.program) = none →
      Refused (.missing compiler.program) w
  | noScratch (program path : String) (fault : FileFault) :
      system.locate? w (ByteText.ofText compiler.program) = some program →
      system.makeScratch w = .error (path, fault) →
      Refused (.noScratch (ByteText.toText path) fault) w
  | unwritable (program scratch : String) (made : W) (fault : FileFault) :
      Housed compiler system w program scratch made →
      system.write made (textIn scratch) wat.toUTF8 = .error fault →
      Refused (.unwritable (ByteText.toText (textIn scratch)) fault)
        (system.removeScratch made scratch)
  | noErrors (program scratch : String) (made written : W) (fault : FileFault) :
      Housed compiler system w program scratch made →
      system.write made (textIn scratch) wat.toUTF8 = .ok written →
      system.write written (errorsIn scratch) .empty = .error fault →
      Refused (.noErrors (ByteText.toText (errorsIn scratch)) fault)
        (system.removeScratch written scratch)

/-- The ways that it can go from there on: the answer, and the world before the scratch directory is
    taken away. -/
inductive Answered (program scratch : String) : Except CompilerFault Bytes → W → Prop
  | notStarted (ready : W) (fault : FileFault) :
      Prepared compiler system wat w program scratch ready →
      system.start ready program (arguments scratch) (errorsIn scratch) = .error fault →
      Answered program scratch (.error (.notStarted (ByteText.toText program) fault)) ready
  | timedOut (after : W) :
      Seen compiler system wat w program scratch .running after →
      Answered program scratch (.error (.timedOut compiler.timeout)) after
  | lost (after : W) (fault : FileFault) :
      Seen compiler system wat w program scratch (.lost fault) after →
      Answered program scratch (.error (.lost fault)) after
  | failed (after : W) (ending : Ending) :
      Seen compiler system wat w program scratch (.ended ending) after → ending ≠ .exited 0 →
      Answered program scratch (.error (.failed (ByteText.toText program) ending
        (complaint ((system.read after (errorsIn scratch)).toOption.getD .empty)))) after
  | unreadable (after : W) (fault : FileFault) :
      Seen compiler system wat w program scratch (.ended (.exited 0)) after →
      system.read after (bytesIn scratch) = .error fault →
      Answered program scratch (.error (.unreadable (ByteText.toText (bytesIn scratch)) fault))
        after
  | bytes (after : W) (data : ByteArray) :
      Seen compiler system wat w program scratch (.ended (.exited 0)) after →
      system.read after (bytesIn scratch) = .ok data →
      Answered program scratch (.ok data.toList) after

/-- The ways that a run can go, with the answer, the records and the world at the end of each. -/
inductive Course : Except CompilerFault Bytes × Journal × W → Prop
  | refused (fault : CompilerFault) (last : W) :
      Refused compiler system wat w fault last → Course (.error fault, [], last)
  | answered (program scratch : String) (answer : Except CompilerFault Bytes) (after : W) :
      Answered compiler system wat w program scratch answer after →
      Course (answer, announcement program scratch, system.removeScratch after scratch)

variable {compiler system wat w}

/-- What the last look showed decides about the answer. -/
theorem Seen.answered {program scratch : String} {seen : Sight} {after : W}
    (h : Seen compiler system wat w program scratch seen after) :
    Answered compiler system wat w program scratch
      (answerOf system compiler.timeout program scratch after seen) after := by
  cases seen with
  | running => exact .timedOut after h
  | lost fault => exact .lost after fault h
  | ended ending =>
    rw [answerOf]
    by_cases hzero : ending = .exited 0
    · -- status zero, and it is the file that decides
      subst hzero
      rw [if_pos rfl]
      cases hread : system.read after (bytesIn scratch) with
      | error fault => exact .unreadable after fault h hread
      | ok data => exact .bytes after data h hread
    · rw [if_neg hzero]
      exact .failed after ending h hzero

/-- Where everything is prepared, the program is started and answered for. -/
theorem Prepared.answered {program scratch : String} {ready : W}
    (h : Prepared compiler system wat w program scratch ready) :
    Answered compiler system wat w program scratch
      (launch system compiler.timeout program scratch ready).1
      (launch system compiler.timeout program scratch ready).2 := by
  rw [launch]
  cases hstart : system.start ready program (arguments scratch) (errorsIn scratch) with
  | error fault => exact .notStarted ready fault h hstart
  | ok child => exact Seen.answered ⟨ready, child, h, hstart, rfl⟩

variable (compiler system wat w) in
/-- Every run goes one of those ways. -/
theorem course_attempt : Course compiler system wat w (compiler.attempt system wat w) := by
  rw [attempt]
  cases hlocate : system.locate? w (ByteText.ofText compiler.program) with
  | none => exact .refused _ _ (.missing hlocate)
  | some program =>
    dsimp only
    cases hscratch : system.makeScratch w with
    | error failure =>
      exact .refused _ _ (.noScratch program failure.1 failure.2 hlocate hscratch)
    | ok housing =>
      obtain ⟨scratch, made⟩ := housing
      have hhoused : Housed compiler system w program scratch made := ⟨hlocate, hscratch⟩
      dsimp only
      rw [compileIn]
      cases htext : system.write made (textIn scratch) wat.toUTF8 with
      | error fault => exact .refused _ _ (.unwritable program scratch made fault hhoused htext)
      | ok written =>
        dsimp only
        cases herrors : system.write written (errorsIn scratch) .empty with
        | error fault =>
          exact .refused _ _ (.noErrors program scratch made written fault hhoused htext herrors)
        | ok ready =>
          have hready : Prepared compiler system wat w program scratch ready :=
            ⟨made, written, hhoused, htext, herrors⟩
          exact .answered program scratch _ _ hready.answered

/-! ## No other way -/

/-- With a scratch directory, a run is what happens in it. -/
theorem Housed.attempt_eq {program scratch : String} {made : W}
    (h : Housed compiler system w program scratch made)
    {answer : Except CompilerFault Bytes} {journal : Journal} {after : W}
    (hin : compileIn system compiler.timeout program wat scratch made = (answer, journal, after)) :
    compiler.attempt system wat w = (answer, journal, system.removeScratch after scratch) := by
  obtain ⟨hlocate, hscratch⟩ := h
  simp only [attempt, hlocate, hscratch, hin]

/-- With everything prepared, a run is what comes of starting the program. -/
theorem Prepared.attempt_eq {program scratch : String} {ready : W}
    (h : Prepared compiler system wat w program scratch ready)
    {answer : Except CompilerFault Bytes} {after : W}
    (hlaunch : launch system compiler.timeout program scratch ready = (answer, after)) :
    compiler.attempt system wat w
      = (answer, announcement program scratch, system.removeScratch after scratch) := by
  obtain ⟨made, written, hhoused, htext, herrors⟩ := h
  refine hhoused.attempt_eq ?_
  simp only [compileIn, htext, herrors, hlaunch]

/-- With something seen, a run is what that means. -/
theorem Seen.attempt_eq {program scratch : String} {seen : Sight} {after : W}
    (h : Seen compiler system wat w program scratch seen after)
    {answer : Except CompilerFault Bytes}
    (hanswer : answerOf system compiler.timeout program scratch after seen = answer) :
    compiler.attempt system wat w
      = (answer, announcement program scratch, system.removeScratch after scratch) := by
  obtain ⟨ready, child, hready, hstart, hseen⟩ := h
  refine hready.attempt_eq ?_
  simp only [launch, hstart, hseen, hanswer]

/-- A way that ends before a program is started is the way of the run. -/
theorem Refused.attempt_eq {fault : CompilerFault} {last : W}
    (h : Refused compiler system wat w fault last) :
    compiler.attempt system wat w = (.error fault, [], last) := by
  cases h with
  | missing hlocate => simp only [attempt, hlocate]
  | noScratch program path fault hlocate hscratch => simp only [attempt, hlocate, hscratch]
  | unwritable program scratch made fault hhoused htext =>
    exact hhoused.attempt_eq (by simp only [compileIn, htext])
  | noErrors program scratch made written fault hhoused htext herrors =>
    exact hhoused.attempt_eq (by simp only [compileIn, htext, herrors])

/-- And so is a way that comes to an answer. -/
theorem Answered.attempt_eq {program scratch : String} {answer : Except CompilerFault Bytes}
    {after : W} (h : Answered compiler system wat w program scratch answer after) :
    compiler.attempt system wat w
      = (answer, announcement program scratch, system.removeScratch after scratch) := by
  cases h with
  | notStarted ready fault hready hstart =>
    exact hready.attempt_eq (by simp only [launch, hstart])
  | timedOut after hseen => exact hseen.attempt_eq rfl
  | lost after fault hseen => exact hseen.attempt_eq rfl
  | failed after ending hseen hending => exact hseen.attempt_eq (if_neg hending)
  | unreadable after fault hseen hread =>
    exact hseen.attempt_eq (by rw [answerOf, if_pos rfl, hread])
  | bytes after data hseen hread =>
    exact hseen.attempt_eq (by rw [answerOf, if_pos rfl, hread])

/-- **How a run goes.**  On every system, for every text and every time limit, what a run comes to
    is what one of the ten courses ends with, and no other. -/
theorem attempt_eq_iff {run : Except CompilerFault Bytes × Journal × W} :
    compiler.attempt system wat w = run ↔ Course compiler system wat w run := by
  constructor
  · rintro rfl
    exact course_attempt compiler system wat w
  · intro h
    cases h with
    | refused fault last h => exact h.attempt_eq
    | answered program scratch answer after h => exact h.attempt_eq

/-! ## Bytes and tidiness -/

/-- There are bytes exactly where the program was seen to have ended with status zero and its file
    can be read. -/
theorem compile_eq_ok_iff {data : Bytes} :
    (compiler.compile system wat w).1.2 = .ok data ↔
      ∃ program scratch after file,
        Seen compiler system wat w program scratch (.ended (.exited 0)) after ∧
        system.read after (bytesIn scratch) = .ok file ∧ data = file.toList := by
  have hanswer : (compiler.compile system wat w).1.2 = .ok data ↔
      (compiler.attempt system wat w).1 = .ok data := by
    show ((compiler.attempt system wat w).1.mapError fun fault => (⟨fault.reason⟩ : Unavailable))
      = .ok data ↔ _
    cases (compiler.attempt system wat w).1 <;> simp [Except.mapError]
  rw [hanswer]
  constructor
  · intro h
    have hcourse := course_attempt compiler system wat w
    generalize compiler.attempt system wat w = run at h hcourse
    cases hcourse with
    | refused fault last => nomatch h
    | answered program scratch answer after hanswered =>
      cases hanswered with
      | bytes after file hseen hread =>
        exact ⟨program, scratch, after, file, hseen, hread, (Except.ok.inj h).symm⟩
      | notStarted | timedOut | lost | failed | unreadable => nomatch h
  · rintro ⟨program, scratch, after, file, hseen, hread, rfl⟩
    rw [(Answered.bytes after file hseen hread).attempt_eq]

/-- Why there are no bytes is told in the words of the fault that the run came to. -/
theorem compile_eq_error_iff {reason : String} :
    (compiler.compile system wat w).1.2 = .error ⟨reason⟩ ↔
      ∃ fault journal last, Course compiler system wat w (.error fault, journal, last) ∧
        reason = fault.reason := by
  have hanswer : (compiler.compile system wat w).1.2 = .error ⟨reason⟩ ↔
      ∃ fault, (compiler.attempt system wat w).1 = .error fault ∧ reason = fault.reason := by
    show ((compiler.attempt system wat w).1.mapError fun fault => (⟨fault.reason⟩ : Unavailable))
      = .error ⟨reason⟩ ↔ _
    cases (compiler.attempt system wat w).1 <;> simp [Except.mapError, eq_comm]
  rw [hanswer]
  constructor
  · rintro ⟨fault, h, rfl⟩
    exact ⟨fault, _, _, attempt_eq_iff.mp (Prod.ext h rfl), rfl⟩
  · rintro ⟨fault, journal, last, hcourse, rfl⟩
    exact ⟨fault, congrArg Prod.fst (attempt_eq_iff.mpr hcourse), rfl⟩

variable (compiler system wat w) in
/-- **Nothing is left behind.**  However a run goes, either there was no scratch directory for it
    and the world is as it was, or the last thing that happens is that the directory is taken
    away. -/
theorem compile_tidy :
    ((∀ program scratch made, ¬ Housed compiler system w program scratch made) ∧
      (compiler.compile system wat w).2 = w) ∨
    ∃ program scratch made last, Housed compiler system w program scratch made ∧
      (compiler.compile system wat w).2 = system.removeScratch last scratch := by
  show (_ ∧ (compiler.attempt system wat w).2.2 = w)
    ∨ ∃ program scratch made last, _ ∧ (compiler.attempt system wat w).2.2 = _
  cases hlocate : system.locate? w (ByteText.ofText compiler.program) with
  | none =>
    left
    refine ⟨fun program scratch made h => ?_, by simp only [attempt, hlocate]⟩
    nomatch hlocate.symm.trans h.1
  | some program =>
    cases hscratch : system.makeScratch w with
    | error failure =>
      left
      refine ⟨fun program scratch made h => ?_, by simp only [attempt, hlocate, hscratch]⟩
      nomatch hscratch.symm.trans h.2
    | ok housing =>
      right
      have hhoused : Housed compiler system w program housing.1 housing.2 := ⟨hlocate, hscratch⟩
      exact ⟨program, housing.1, housing.2, _, hhoused,
        by rw [attempt, hlocate, hscratch]⟩

/-- What every operation of a system keeps, a run keeps: nothing else touches the world. -/
theorem compile_keeps {P : W → Prop}
    (hmake : ∀ {w scratch made}, P w → system.makeScratch w = .ok (scratch, made) → P made)
    (hremove : ∀ {w} scratch, P w → P (system.removeScratch w scratch))
    (hwrite : ∀ {w path data written}, P w → system.write w path data = .ok written → P written)
    (hstart : ∀ {w program arguments errors child}, P w →
      system.start w program arguments errors = .ok child → ∀ moment, P (child moment).2)
    (h : P w) : P (compiler.compile system wat w).2 := by
  show P (compiler.attempt system wat w).2.2
  have hprepared : ∀ {program scratch ready},
      Prepared compiler system wat w program scratch ready → P ready := by
    rintro program scratch ready ⟨made, written, hhoused, htext, herrors⟩
    exact hwrite (hwrite (hmake h hhoused.2) htext) herrors
  have hseen : ∀ {program scratch seen after},
      Seen compiler system wat w program scratch seen after → P after := by
    rintro program scratch seen after ⟨ready, child, hready, hstarted, hlook⟩
    have hafter := hstart (hprepared hready) hstarted (deadline compiler.timeout)
    rwa [hlook] at hafter
  have hcourse := course_attempt compiler system wat w
  generalize compiler.attempt system wat w = run at hcourse ⊢
  cases hcourse with
  | refused fault last hrefused =>
    cases hrefused with
    | missing | noScratch => exact h
    | unwritable program scratch made fault hhoused htext =>
      exact hremove scratch (hmake h hhoused.2)
    | noErrors program scratch made written fault hhoused htext herrors =>
      exact hremove scratch (hwrite (hmake h hhoused.2) htext)
  | answered program scratch answer after hanswered =>
    refine hremove scratch ?_
    cases hanswered with
    | notStarted ready fault hready hrefused => exact hprepared hready
    | timedOut after h | lost after fault h | failed after ending h | unreadable after fault h
    | bytes after data h => exact hseen h

end ReferenceCompiler

end WasmBinary
