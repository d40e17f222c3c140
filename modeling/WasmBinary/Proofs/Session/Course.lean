/-
  The course of a session, whatever the outside does.

  1. **Worlds** — an OUTSIDE fixes what the compiler answers and what becomes of any attempt to
     write a file, and which levels of records are kept.  A WORLD is what a session can leave
     behind: the files, what was asked of the compiler, the attempts to write, the log, and the
     texts.  The two together make a host, and each of its operations changes the world in one way
     (`Outside.host`).

  2. **The fixture** — it is built, it keeps the rules, and no finding about its bytes fails
     (`Audit.inspect_write`: no finding fails about the bytes of any module, if the body looked for
     is its first).  So every session comes as far as the compiler, and the compiler's answer alone
     decides about its report.

  3. **Steps** — asking, auditing and saving each change the world in one way, whatever is logged
     meanwhile (`Session.run_ask`, `Session.run_audit`, `Session.run_save`).

  4. **The course** — put one behind the other these are the whole session (`Session.course`), and
     what it saves can be read off (`Session.run_saves_passed`).
-/
import Mathlib.Logic.Function.Basic
import WasmBinary.Proofs.Audit.Written
import WasmBinary.Proofs.Module.Rules
import WasmBinary.Session

namespace WasmBinary

/-! ## Worlds -/

/-- What the outside does: what the compiler answers, and with which records; why a write fails, if
    it does, and what it leaves then at its path; and which levels are logged. -/
structure Outside where
  answer : ReferenceCompiler → String → Journal × OracleAnswer
  fault? : String → Bytes → Option FileFault
  leftover : String → Bytes → Option Bytes
  admits : Level → Bool

/-- What a session leaves behind: the content of every path, what the compiler was asked, the
    attempts to write, the log, and the texts of the two streams. -/
structure World where
  files : String → Option Bytes
  asked : List (ReferenceCompiler × String)
  writes : List (String × Bytes)
  log : Journal
  output : String
  complaints : List String

namespace Outside

/-- What a write leaves at its path: the whole of the new content, unless it fails. -/
def written (outside : Outside) (path : String) (data : Bytes) : Option Bytes :=
  match outside.fault? path data with
  | none => some data
  | some _ => outside.leftover path data

/-- How a write is answered. -/
def receipt (outside : Outside) (path : String) (data : Bytes) : Except FileFault Unit :=
  match outside.fault? path data with
  | none => .ok ()
  | some fault => .error fault

end Outside

namespace World

/-- The world behind a question to the compiler. -/
def ask (w : World) (compiler : ReferenceCompiler) (wat : String) : World :=
  { w with asked := w.asked ++ [(compiler, wat)] }

/-- The world behind an attempt to write. -/
def write (w : World) (outside : Outside) (path : String) (data : Bytes) : World :=
  { w with
    writes := w.writes ++ [(path, data)]
    files := Function.update w.files path (outside.written path data) }

/-- The world behind records, of which some levels are kept. -/
def note (w : World) (outside : Outside) (journal : Journal) : World :=
  { w with log := w.log ++ journal.filter fun r => outside.admits r.level }

end World

/-- The host that an outside makes of a world. -/
def Outside.host (outside : Outside) : Host (StateM World) where
  compile compiler wat := do
    modify fun w => w.ask compiler wat
    return outside.answer compiler wat
  save path data := do
    modify fun w => w.write outside path data
    return outside.receipt path data
  note r := modify fun w => w.note outside [r]
  print text := modify fun w => { w with output := w.output ++ text }
  complain line := modify fun w => { w with complaints := w.complaints ++ [line] }

namespace World

theorem note_nil (w : World) (outside : Outside) : w.note outside [] = w := by
  simp [note]

/-- Noting records twice is noting them all, whichever of them are kept. -/
theorem note_note (w : World) (outside : Outside) (front back : Journal) :
    (w.note outside front).note outside back = w.note outside (front ++ back) := by
  simp [note]

/-- A computation that is known goes first. -/
theorem run_bind {α β : Type} {w w' : World} {a : α} {x : StateM World α}
    {f : α → StateM World β} (h : x.run w = (a, w')) : (x >>= f).run w = (f a).run w' := by
  rw [StateT.run_bind, h]
  rfl

end World

namespace Outside

variable (outside : Outside) (w : World)

/-- A record is noted as the outside keeps it. -/
theorem run_note (r : Record) : (outside.host.note r).run w = ((), w.note outside [r]) :=
  rfl

/-- Records are added one by one, and so altogether. -/
theorem run_noteAll (journal : Journal) :
    (outside.host.noteAll journal).run w = ((), w.note outside journal) := by
  induction journal generalizing w with
  | nil => rw [World.note_nil]; rfl
  | cons r journal ih =>
    show (outside.host.noteAll journal).run (w.note outside [r]) = _
    rw [ih, World.note_note]
    rfl

/-- A question is answered as the outside answers, and remembered. -/
theorem run_compile (compiler : ReferenceCompiler) (wat : String) :
    (outside.host.compile compiler wat).run w
      = (outside.answer compiler wat, w.ask compiler wat) :=
  rfl

/-- A write is answered as the outside does, and remembered with its bytes. -/
theorem run_save (path : String) (data : Bytes) :
    (outside.host.save path data).run w
      = (outside.receipt path data, w.write outside path data) :=
  rfl

end Outside

/-! ## The fixture -/

namespace Audit

/-- A module is inspected for the body of its first function without a finding that fails, so that
    an oracle's answer decides about the report. -/
theorem inspect_write {m : Module} {f : Func} {rest : List Func}
    (h : m.write.bytes.length < 2 ^ 64) (hfuncs : m.funcs = f :: rest) :
    ∃ findings, inspect m.write f.encodeBody = .ok findings ∧
      ∀ answer : Option OracleAnswer,
        (⟨findings, answer.map (Verdict.ofAnswer m.write.bytes)⟩ : Report).passed = true ↔
          answer = none ∨ (∃ u, answer = some (.error u)) ∨ answer = some (.ok m.write.bytes) := by
  have hparse := Module.parse_write h
  have hbody : f.encodeBody ≠ [] := by
    simp [Func.encodeBody, Expr.encode]
  have hpairs : SectionIndex.pairs ⟨Span.layout 0 m.write.sizes.entries⟩ = m.write.sizes.pairs :=
    Span.map_layout (fun name length => (name.text, length)) 0 _
  obtain ⟨before, after, hbytes, hfirst⟩ := Module.firstBody?_write h hfuncs
  have hof : Region.of ⟨before.length, f.encodeBody.length⟩ m.write.bytes = f.encodeBody := by
    rw [hbytes, Region.of_append]
  refine ⟨_, by rw [inspect, hparse]; rfl, fun answer => ?_⟩
  rw [report_passed_iff hbody hparse]
  exact ⟨fun hpassed => hpassed.2.2, fun hanswer => ⟨List.Perm.of_eq hpairs,
    ⟨_, hfirst, SectionIndex.firstBody?_within hfirst, hof⟩, hanswer⟩⟩

end Audit

namespace Fixture

/-- The fixture as it is built. -/
def built : Module where
  types := [⟨[.i32, .i32], []⟩, {}]
  imports := [⟨"env", "_panic", .func 0⟩]
  funcs := [doPanic 0 1]
  mems := [⟨1, none⟩]
  exports := [⟨"memory", .mem 0⟩, ⟨"doPanic", .func 1⟩]

/-- The steps of the fixture give the module that is written out above: every index that a step
    hands on is the one that it was given by an earlier step. -/
theorem module_eq : Fixture.module = .ok built := by
  rfl

/-- The steps that are kept build the same module once more. -/
example : (Builder.declareAll {} declarations).map Builder.finish = .ok built := by
  rfl

/-- The fixture keeps all the rules, so that there is nothing to refuse it for. -/
theorem violation?_built : built.violation? = none := by
  cbv

/-- What keeps the rules is written. -/
theorem encode_built : built.encode = .ok built.write := by
  rw [Module.encode, Module.validate_eq_ok_iff.mpr violation?_built]
  rfl

/-- Building and writing the fixture, one behind the other. -/
theorem encode_module : Fixture.module.bind Module.encode = .ok built.write := by
  rw [module_eq]
  exact encode_built

/-- The fixture is far shorter than what 64 bits can measure, so that the walk over its bytes can
    trust every length. -/
theorem length_built : built.write.bytes.length < 2 ^ 64 := by
  decide +kernel

/-- The bytes of the fixture can be inspected, and no finding about them fails, so that only an
    answer that differs can make the report fail. -/
theorem inspect_built :
    ∃ findings, Audit.inspect built.write expectedBody = .ok findings ∧
      ∀ answer : Option OracleAnswer,
        (⟨findings, answer.map (Verdict.ofAnswer built.write.bytes)⟩ : Report).passed = true ↔
          answer = none ∨ (∃ u, answer = some (.error u)) ∨ answer = some (.ok built.write.bytes) :=
  Audit.inspect_write length_built rfl

end Fixture

/-! ## Steps -/

namespace Session

variable (outside : Outside) (config : Config) (w : World)

/-- The compiler that a configuration names. -/
def compiler (config : Config) : ReferenceCompiler :=
  ⟨config.program, config.timeout⟩

/-- What the compiler answers about the fixture, if it is to be asked. -/
def answer? (outside : Outside) (config : Config) : Option OracleAnswer :=
  if config.oracle then some (outside.answer (compiler config) Fixture.wat).2 else none

/-- The world behind the question, if it is to be asked. -/
def asking (config : Config) (w : World) : World :=
  if config.oracle then w.ask (compiler config) Fixture.wat else w

/-- Records and questions do not touch one another. -/
theorem asking_note (journal : Journal) :
    asking config (w.note outside journal) = (asking config w).note outside journal := by
  unfold asking
  split <;> rfl

/-- Asking leads to the answer that is wanted, to a world with the question in it, and to
    records. -/
theorem run_ask : ∃ journal,
    (ask outside.host config).run w
      = (answer? outside config, (asking config w).note outside journal) := by
  cases horacle : config.oracle with
  | false =>
    refine ⟨[], ?_⟩
    simp only [ask, answer?, asking, horacle, World.note_nil]
    rfl
  | true =>
    refine ⟨(outside.answer (compiler config) Fixture.wat).1, ?_⟩
    simp only [ask, answer?, asking, horacle, if_true]
    rw [World.run_bind (outside.run_compile w _ _), World.run_bind (outside.run_noteAll _ _)]
    rfl

/-- Where the bytes can be inspected, the audit asks and has a report. -/
theorem run_audit {encoded : Encoded} {body : Bytes} {findings : List Finding}
    (h : Audit.inspect encoded body = .ok findings) : ∃ journal,
    (audit outside.host config encoded body).run w
      = (.ok ⟨findings, (answer? outside config).map (Verdict.ofAnswer encoded.bytes)⟩,
          (asking config w).note outside journal) := by
  obtain ⟨asked, hask⟩ := run_ask outside config
    (w.note outside (Journal.ofInspect encoded body))
  rw [asking_note, World.note_note] at hask
  set verdict := (answer? outside config).map (Verdict.ofAnswer encoded.bytes)
  refine ⟨Journal.ofInspect encoded body ++ asked ++ (verdict.map Journal.ofVerdict).getD [], ?_⟩
  rw [audit, World.run_bind (outside.run_noteAll _ _)]
  simp only [h]
  rw [World.run_bind hask, World.run_bind (outside.run_noteAll _ _), World.note_note]
  rfl

/-- The path to write to: the one that is configured, for an outcome that passed. -/
def target? (config : Config) (outcome : Outcome) : Option String :=
  if outcome.report.passed then config.output else none

/-- The world behind the saving of an outcome. -/
def saving (outcome : Outcome) : World :=
  match target? config outcome with
  | none => w
  | some path => w.write outside path outcome.encoded.bytes

/-- How the saving of an outcome is answered. -/
def receipt (outcome : Outcome) : Except FileFault Unit :=
  match target? config outcome with
  | none => .ok ()
  | some path => outside.receipt path outcome.encoded.bytes

/-- Records and writes do not touch one another either. -/
theorem saving_note (outcome : Outcome) (journal : Journal) :
    saving outside config (w.note outside journal) outcome
      = (saving outside config w outcome).note outside journal := by
  unfold saving
  split <;> rfl

/-- Saving leads to the answer about the write, if there is one, to a world with the write in it,
    and to records. -/
theorem run_save {path : String} (h : config.output = some path) (outcome : Outcome) : ∃ journal,
    (save outside.host path outcome).run w
      = (receipt outside config outcome,
          (saving outside config w outcome).note outside journal) := by
  cases hpassed : outcome.report.passed with
  | false =>
    refine ⟨[⟨.warn, .session, "validation failed, not writing " ++ path⟩], ?_⟩
    simp only [save, receipt, saving, target?, hpassed]
    rfl
  | true =>
    -- a fault ends the session, and a write is told in the log
    cases hreceipt : outside.receipt path outcome.encoded.bytes with
    | error fault =>
      refine ⟨[], ?_⟩
      simp only [save, receipt, saving, target?, hpassed, if_true, h, World.note_nil]
      rw [World.run_bind (outside.run_save w _ _), hreceipt]
      rfl
    | ok _ =>
      refine ⟨[⟨.info, .session, "wrote " ++ path⟩], ?_⟩
      simp only [save, receipt, saving, target?, hpassed, if_true, h]
      rw [World.run_bind (outside.run_save w _ _), hreceipt]
      rfl

/-! ## The course -/

/-- What a session comes to whose saving is answered in one way. -/
def ending (outcome : Outcome) : Except Failure Outcome :=
  match receipt outside config outcome with
  | .error fault => .error (.file fault)
  | .ok () => .ok outcome

/-- An answer is no objection where none was asked for, none could be had, or it is the bytes: this
    is what passing asks of the answer, said about the outside and the configuration. -/
theorem answer?_iff {data : Bytes} :
    (answer? outside config = none ∨ (∃ u, answer? outside config = some (.error u)) ∨
      answer? outside config = some (.ok data)) ↔
    config.oracle = false ∨ (∃ u, (outside.answer (compiler config) Fixture.wat).2 = .error u) ∨
      (outside.answer (compiler config) Fixture.wat).2 = .ok data := by
  cases horacle : config.oracle <;> simp [answer?, horacle]

/-- What is logged until the bytes are there. -/
def building : Journal :=
  Journal.ofDeclarations {} Fixture.declarations ++ (Journal.ofEncode Fixture.built ++
    [⟨.info, .session, "built " ++ toString Fixture.built.write.bytes.length ++ " bytes"⟩])

/-- **The course of a session.**  The fixture is audited with the compiler's answer, which decides
    about the report; and what happens is the question, the saving and records.  The proof follows
    the program: every step is known from the world that the one before it leaves, and the records
    of all steps are put together at the end. -/
theorem course : ∃ report,
    Audit.audit Fixture.built.write Fixture.expectedBody (answer? outside config) = .ok report ∧
    (report.passed = true ↔ config.oracle = false ∨
      (∃ u, (outside.answer (compiler config) Fixture.wat).2 = .error u) ∨
      (outside.answer (compiler config) Fixture.wat).2 = .ok Fixture.built.write.bytes) ∧
    ∃ journal, (run outside.host config).run w
      = (ending outside config ⟨Fixture.built.write, report⟩,
          (saving outside config (asking config w) ⟨Fixture.built.write, report⟩).note outside
            journal) := by
  obtain ⟨findings, hinspect, hpassed⟩ := Fixture.inspect_built
  refine ⟨_, by rw [Audit.audit, hinspect]; rfl, (hpassed _).trans (answer?_iff outside config), ?_⟩
  obtain ⟨audited, haudit⟩ := run_audit outside config (w.note outside building) hinspect
  rw [asking_note, World.note_note] at haudit
  -- the fixture is there and keeps the rules, so that only records come before the audit
  rw [run, World.run_bind (outside.run_noteAll _ _)]
  simp only [Fixture.module_eq]
  rw [World.run_bind (outside.run_noteAll _ _)]
  simp only [Fixture.encode_built]
  rw [World.run_bind (outside.run_note _ _), World.note_note, World.note_note, ← building,
    World.run_bind haudit]
  -- what is saved, if anything, is decided by the path
  cases houtput : config.output with
  | none =>
    refine ⟨building ++ audited, ?_⟩
    simp only [ending, receipt, saving, target?, houtput, ite_self]
    rfl
  | some path =>
    obtain ⟨saved, hsave⟩ := run_save outside config
      ((asking config w).note outside (building ++ audited)) houtput ⟨Fixture.built.write, _⟩
    rw [saving_note, World.note_note] at hsave
    refine ⟨building ++ audited ++ saved, ?_⟩
    rw [World.run_bind hsave, ending]
    cases receipt outside config ⟨Fixture.built.write, _⟩ with
    | error fault => rfl
    | ok _ => rfl

/-! ## What is saved -/

/-- What a session with an outcome has done between two worlds, and what it came to.

    Where there is no path, or the report does not pass, the outcome is returned and the files are
    as they were.  Otherwise the bytes are written once, and then either they are the whole content
    of the file, or the fault is returned. -/
structure Saves (w w' : World) (outcome : Outcome) (result : Except Failure Outcome) : Prop where
  asked : w'.asked = w.asked ++ if config.oracle then [(compiler config, Fixture.wat)] else []
  withheld : config.output = none ∨ outcome.report.passed = false →
    result = .ok outcome ∧ w'.files = w.files ∧ w'.writes = w.writes
  written : ∀ path, config.output = some path → outcome.report.passed = true →
    w'.writes = w.writes ++ [(path, outcome.encoded.bytes)] ∧
    (∀ other, other ≠ path → w'.files other = w.files other) ∧
    ((outside.fault? path outcome.encoded.bytes = none ∧ result = .ok outcome ∧
        w'.files path = some outcome.encoded.bytes) ∨
      ∃ fault, outside.fault? path outcome.encoded.bytes = some fault ∧
        result = .error (.file fault))

/-- What was asked behind the question: what was asked before, and the question if there is one. -/
theorem asked_asking : (asking config w).asked
    = w.asked ++ if config.oracle then [(compiler config, Fixture.wat)] else [] := by
  cases horacle : config.oracle <;> simp [asking, horacle, World.ask]

/-- A question leaves all files as they were. -/
theorem files_asking : (asking config w).files = w.files := by
  unfold asking
  split <;> rfl

/-- And it is no attempt to write. -/
theorem writes_asking : (asking config w).writes = w.writes := by
  unfold asking
  split <;> rfl

/-- The question, the saving and the ending together. -/
theorem saves_course (outcome : Outcome) (journal : Journal) :
    Saves outside config w
      ((saving outside config (asking config w) outcome).note outside journal) outcome
      (ending outside config outcome) where
  asked := by
    rw [← asked_asking]
    unfold saving
    split <;> rfl
  withheld hnone := by
    have htarget : target? config outcome = none := by
      rcases hnone with houtput | hpassed
      · simp [target?, houtput]
      · simp [target?, hpassed]
    simp only [ending, receipt, saving, htarget]
    exact ⟨trivial, files_asking config w, writes_asking config w⟩
  written path houtput hpassed := by
    have htarget : target? config outcome = some path := by
      simp [target?, houtput, hpassed]
    simp only [ending, receipt, saving, htarget, World.note, World.write, writes_asking,
      files_asking]
    refine ⟨trivial, fun other hother => Function.update_of_ne hother _ _, ?_⟩
    cases hfault : outside.fault? path outcome.encoded.bytes with
    | none =>
      left
      simp [Outside.receipt, Outside.written, hfault]
    | some fault =>
      right
      simp [Outside.receipt, hfault]

/-- **Only bytes that passed are saved.**  Whatever the compiler answers, however a write ends and
    whatever the files held, a session has the bytes of the fixture and a report on them, which
    passes exactly when the compiler was not wanted, could not be had, or agrees to the byte.  The
    bytes are written only with such a report, and a report that does not pass is returned. -/
theorem run_saves_passed : ∃ encoded report,
    Fixture.module.bind Module.encode = .ok encoded ∧
    Audit.audit encoded Fixture.expectedBody (answer? outside config) = .ok report ∧
    (report.passed = true ↔ config.oracle = false ∨
      (∃ u, (outside.answer (compiler config) Fixture.wat).2 = .error u) ∨
      (outside.answer (compiler config) Fixture.wat).2 = .ok encoded.bytes) ∧
    Saves outside config w ((run outside.host config).run w).2 ⟨encoded, report⟩
      ((run outside.host config).run w).1 := by
  obtain ⟨report, haudit, hpassed, journal, hrun⟩ := course outside config w
  refine ⟨Fixture.built.write, report, Fixture.encode_module, haudit, hpassed, ?_⟩
  rw [hrun]
  exact saves_course outside config w _ journal

end Session

end WasmBinary
