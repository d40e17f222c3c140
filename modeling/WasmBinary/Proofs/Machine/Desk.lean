/-
  The command at a desk.

  What a compiler answers on a machine, and how a write fares there, is settled once it is known
  which machine the command was started on: the compiler is asked once, on that machine, and there
  is one write, on the machine that the compiler's run leaves.  So a machine is an OUTSIDE to the
  command (`Machine.outside`), whatever its programs do.

  1. **Going together** — two computations, one at a desk and one in a world, go together if they
     come to the same, and lead from pairs that match to pairs that match (`Together`).  What
     matches goes through three stages: the machine that the command was started on, the one behind
     the question, and any machine of the same user.  At every stage the same has been told
     (`Told`).

  2. **Operations** — each operation of the desk goes together with that of the outside
     (`Desk.note_together`, `Desk.ask_together`, `Desk.save_together`), and so do the programs that
     are made of them, step by step as they are written (`Desk.run_together`).

  3. **Passing** — so what is known of outsides is known of machines (`Desk.exists_outside`), and
     whether the command passes at a machine can be read off the answer and the write
     (`Desk.run_passed_iff`).
-/
import WasmBinary.Machine.Host
import WasmBinary.Proofs.CommandLine
import WasmBinary.Proofs.Machine.System

namespace WasmBinary.Machine

/-! ## Going together -/

/-- The same has been told: one output, and one sequence of records and lines.  The error stream of
    a desk has all of the sequence, its log and that of the world have the records. -/
structure Told (desk : Desk) (w : World) : Prop where
  output : desk.output = w.output
  journal : desk.journal = w.log
  errors : ∃ told : List (Record ⊕ String), w.log = told.filterMap Sum.getLeft? ∧
    w.complaints = told.filterMap Sum.getRight? ∧ desk.errors = told.map (Sum.elim Record.line id)

/-- A stage: the machines that may be there, where the same has been told. -/
def Stage (here : Machine → Prop) (desk : Desk) (w : World) : Prop :=
  here desk.machine ∧ Told desk w

/-- Two computations that come to the same, and lead from pairs that match to pairs that match. -/
def Together {α : Type} (before after : Desk → World → Prop) (x : StateM Desk α)
    (y : StateM World α) : Prop :=
  ∀ desk w, before desk w → (x.run desk).1 = (y.run w).1 ∧ after (x.run desk).2 (y.run w).2

namespace Together

variable {α β : Type} {before between after : Desk → World → Prop}

/-- Doing nothing leaves what matches. -/
theorem pure (a : α) : Together before before (pure a) (pure a) :=
  fun _ _ hbefore => ⟨rfl, hbefore⟩

/-- One behind the other, where the second has the result of the first.  It is the same result on
    both sides, so that one continuation goes with the other. -/
theorem bind {x : StateM Desk α} {y : StateM World α} {f : α → StateM Desk β}
    {g : α → StateM World β} (h : Together before between x y)
    (hnext : ∀ a, Together between after (f a) (g a)) :
    Together before after (x >>= f) (y >>= g) := by
  intro desk w hbefore
  obtain ⟨hsame, hbetween⟩ := h desk w hbefore
  have hend := hnext (x.run desk).1 _ _ hbetween
  rw [congrArg g hsame] at hend
  exact hend

/-- What matches at the end may be said with less. -/
theorem weaken {x : StateM Desk α} {y : StateM World α} (h : Together before between x y)
    (hless : ∀ desk w, between desk w → after desk w) : Together before after x y :=
  fun desk w hbefore => (h desk w hbefore).imp_right (hless _ _)

end Together

/-! ## The outside -/

variable (programs : Programs) (machine : Machine) (config : Config)

/-- What a compiler answers on a machine about the fixture, with the records of its run. -/
def answer (compiler : ReferenceCompiler) (wat : String) : Journal × OracleAnswer :=
  (compiler.compile (system programs) wat machine).1

/-- The machine behind the question to the compiler, if it is to be asked. -/
def asked : Machine :=
  if config.oracle then
    ((Session.compiler config).compile (system programs) Fixture.wat machine).2
  else machine

/-- Why the file at a path cannot be written behind that, if it cannot. -/
def writeFault? (path : String) (data : Bytes) : Option FileFault :=
  let behind := asked programs machine config
  match behind.files.write behind.directory (ByteText.ofText path) ⟨data.toArray⟩ with
  | .error fault => some fault
  | .ok _ => none

/-- What a machine is to a command with a configuration.  The configuration is part of it, for it
    settles whether the machine is asked before it is written to. -/
def outside : Outside where
  answer := answer programs machine
  fault? := writeFault? programs machine config
  leftover _ _ := none
  admits _ := true

/-- The question changes nothing about the user. -/
theorem asked_same_user : SameUser (asked programs machine config) machine := by
  unfold asked
  split
  · exact machine.compile_same_user programs _ _
  · exact ⟨rfl, rfl, rfl⟩

/-! ## Operations -/

namespace Desk

variable {here : Machine → Prop}

/-- A record goes to the log and, as a line, to the error stream. -/
theorem note_together (r : Record) :
    Together (Stage here) (Stage here) ((host programs).note r)
      ((outside programs machine config).host.note r) := by
  rintro desk w ⟨hhere, houtput, hjournal, told, hlog, hcomplaints, herrors⟩
  have hnote : ((outside programs machine config).host.note r).run w
      = ((), { w with log := w.log ++ [r] }) := rfl
  rw [hnote]
  refine ⟨rfl, hhere, houtput, congrArg (· ++ [r]) hjournal, told ++ [.inl r], ?_, ?_, ?_⟩
  · rw [List.filterMap_append, ← hlog]
    rfl
  · rw [List.filterMap_append, ← hcomplaints]
    exact (List.append_nil _).symm
  · rw [List.map_append, ← herrors]
    rfl

/-- A line goes to the error stream only. -/
theorem complain_together (outside : Outside) (line : String) :
    Together (Stage here) (Stage here) ((host programs).complain line)
      (outside.host.complain line) := by
  rintro desk w ⟨hhere, houtput, hjournal, told, hlog, hcomplaints, herrors⟩
  refine ⟨rfl, hhere, houtput, hjournal, told ++ [.inr line], ?_, ?_, ?_⟩
  · rw [List.filterMap_append, ← hlog]
    exact (List.append_nil _).symm
  · rw [List.filterMap_append, ← hcomplaints]
    rfl
  · rw [List.map_append, ← herrors]
    rfl

variable (threshold : Threshold)

/-- The desk with a quieted log. -/
def quietHost : Host (StateM Desk) := (host programs).quietedBy threshold

/-- The outside of a machine with a quieted log. -/
def quietOutside : Host (StateM World) :=
  (outside programs machine config).host.quietedBy threshold

variable {programs machine config threshold}

/-- Whether a record is admitted does not depend on the host. -/
theorem quiet_note_together (r : Record) :
    Together (Stage here) (Stage here) ((quietHost programs threshold).note r)
      ((quietOutside programs machine config threshold).note r) := by
  show Together _ _ (if threshold.admits r.level then _ else _)
    (if threshold.admits r.level then _ else _)
  split
  · exact note_together programs machine config r
  · exact .pure ()

/-- Records that are told one behind the other, as when a compiler hands over those of its run. -/
theorem noteAll_together (journal : Journal) :
    Together (Stage here) (Stage here) ((quietHost programs threshold).noteAll journal)
      ((quietOutside programs machine config threshold).noteAll journal) := by
  induction journal with
  | nil => exact .pure ()
  | cons r journal ih => exact (quiet_note_together r).bind fun _ => ih

/-- What is printed goes to the output and is told nowhere else. -/
theorem print_together (text : String) :
    Together (Stage here) (Stage here) ((quietHost programs threshold).print text)
      ((quietOutside programs machine config threshold).print text) :=
  fun _ _ ⟨hhere, houtput, hjournal, herrors⟩ =>
    ⟨rfl, hhere, congrArg (· ++ text) houtput, hjournal, herrors⟩

/-- The question is asked on the machine that the command was started on.  If it is not to be asked,
    that machine is the one behind it too. -/
theorem ask_together :
    Together (Stage (· = machine)) (Stage (· = asked programs machine config))
      (Session.ask (quietHost programs threshold) config)
      (Session.ask (quietOutside programs machine config threshold) config) := by
  unfold Session.ask
  cases horacle : config.oracle with
  | false =>
    simp only [asked, horacle, Bool.false_eq_true, if_false]
    exact .pure none
  | true =>
    simp only [asked, horacle, if_true]
    have hcompile : Together (Stage (· = machine))
        (Stage (· = ((Session.compiler config).compile (system programs) Fixture.wat machine).2))
        ((quietHost programs threshold).compile (Session.compiler config) Fixture.wat)
        ((quietOutside programs machine config threshold).compile (Session.compiler config)
          Fixture.wat) := by
      rintro desk w ⟨rfl, houtput, hjournal, herrors⟩
      exact ⟨rfl, rfl, houtput, hjournal, herrors⟩
    exact hcompile.bind fun answer => (noteAll_together answer.1).bind fun _ => .pure _

/-- A write gives new files to the machine, or a fault. -/
theorem run_save (desk : Desk) (path : String) (data : Bytes) : (save path data).run desk =
    match desk.machine.files.write desk.machine.directory (ByteText.ofText path) ⟨data.toArray⟩ with
    | .error fault => (.error fault, desk)
    | .ok files => (.ok (), { desk with machine := { desk.machine with files } }) := by
  rw [save, StateT.run_bind, StateT.run_get, pure_bind]
  dsimp only
  cases desk.machine.files.write desk.machine.directory (ByteText.ofText path) ⟨data.toArray⟩ with
  | error fault => rfl
  | ok files => rfl

/-- The write is made on the machine behind the question, and it is the last thing that happens to
    the machine. -/
theorem save_together (path : String) (data : Bytes) :
    Together (Stage (· = asked programs machine config)) (Stage (SameUser · machine))
      ((quietHost programs threshold).save path data)
      ((quietOutside programs machine config threshold).save path data) := by
  rintro desk w ⟨hmachine, houtput, hjournal, herrors⟩
  have huser := asked_same_user programs machine config
  have hdesk : (quietHost programs threshold).save path data = save path data := rfl
  have hworld : (quietOutside programs machine config threshold).save path data
      = (outside programs machine config).host.save path data := rfl
  rw [hdesk, hworld, Outside.run_save]
  simp only [run_save, Outside.receipt, outside, writeFault?, hmachine]
  cases (asked programs machine config).files.write _ _ _ with
  | error fault => exact ⟨rfl, hmachine ▸ huser, houtput, hjournal, herrors⟩
  | ok files => exact ⟨rfl, huser, houtput, hjournal, herrors⟩

/-! ## The command -/

/-- Behind the question, the user is still the same. -/
theorem together_same_user {α : Type} {before : Desk → World → Prop} {x : StateM Desk α}
    {y : StateM World α} (h : Together before (Stage (· = asked programs machine config)) x y) :
    Together before (Stage (SameUser · machine)) x y :=
  h.weaken fun _ _ ⟨hmachine, htold⟩ =>
    ⟨hmachine ▸ asked_same_user programs machine config, htold⟩

/-- An audit of bytes that can be walked over asks once.  Of other bytes it would not ask at all,
    and the machine would stay the one that the command was started on. -/
theorem audit_together {encoded : Encoded} {body : Bytes} {findings : List Finding}
    (h : Audit.inspect encoded body = .ok findings) :
    Together (Stage (· = machine)) (Stage (· = asked programs machine config))
      (Session.audit (quietHost programs threshold) config encoded body)
      (Session.audit (quietOutside programs machine config threshold) config encoded body) := by
  unfold Session.audit
  rw [h]
  refine (noteAll_together _).bind fun _ => ask_together.bind fun answer => ?_
  exact (noteAll_together _).bind fun _ => .pure _

/-- An outcome is saved by one write, or by none. -/
theorem saving_together (path : String) (outcome : Session.Outcome) :
    Together (Stage (· = asked programs machine config)) (Stage (SameUser · machine))
      (Session.save (quietHost programs threshold) path outcome)
      (Session.save (quietOutside programs machine config threshold) path outcome) := by
  unfold Session.save
  split
  · refine (save_together path outcome.encoded.bytes).bind fun receipt => ?_
    cases receipt with
    | error fault => exact .pure _
    | ok _ => exact (quiet_note_together _).bind fun _ => .pure _
  · exact together_same_user ((quiet_note_together _).bind fun _ => .pure _)

/-- A session goes together with one against the outside that the machine is. -/
theorem session_together :
    Together (Stage (· = machine)) (Stage (SameUser · machine))
      (Session.run (quietHost programs threshold) config)
      (Session.run (quietOutside programs machine config threshold) config) := by
  obtain ⟨findings, hinspect, -⟩ := Fixture.inspect_built
  unfold Session.run
  rw [Fixture.module_eq]
  refine (noteAll_together _).bind fun _ => (noteAll_together _).bind fun _ => ?_
  rw [Fixture.encode_built]
  refine (quiet_note_together _).bind fun _ => (audit_together hinspect).bind fun audited => ?_
  cases audited with
  | error e => exact together_same_user (.pure _)
  | ok report =>
    cases config.output with
    | none => exact together_same_user (.pure _)
    | some path =>
      refine (saving_together path _).bind fun receipt => ?_
      cases receipt with
      | error fault => exact .pure _
      | ok _ => exact .pure _

/-- The command with a configuration goes together with one against that outside. -/
theorem runWith_together :
    Together (Stage (· = machine)) (Stage (SameUser · machine))
      (CommandLine.runWith (quietHost programs threshold) config)
      (CommandLine.runWith (quietOutside programs machine config threshold) config) := by
  unfold CommandLine.runWith
  refine session_together.bind fun result => ?_
  cases result with
  | error failure => exact (quiet_note_together _).bind fun _ => .pure _
  | ok outcome =>
    refine (print_together _).bind fun _ => ?_
    split
    · exact (quiet_note_together _).bind fun _ => .pure _
    · exact (quiet_note_together _).bind fun _ => .pure _

/-- The same as its environment asks. -/
theorem run_together {env : Environment} (h : Config.ofEnvironment env = .ok config) :
    Together (Stage (· = machine)) (Stage (SameUser · machine))
      (CommandLine.run (host programs) env)
      (CommandLine.run (outside programs machine config).host env) := by
  unfold CommandLine.run
  rw [h]
  exact runWith_together

/-- An environment that cannot be read is told alike, whatever the outside. -/
theorem run_together_of_error {env : Environment} {e : ConfigError}
    (h : Config.ofEnvironment env = .error e) (outside : Outside) :
    Together (Stage here) (Stage here)
      (CommandLine.run (host programs) env) (CommandLine.run outside.host env) := by
  unfold CommandLine.run
  rw [h]
  exact (complain_together programs outside e.message).bind fun _ => .pure _

/-- **A machine is an outside.**  Whatever its programs do, the command at a desk ends as it does
    against some outside, the same is told, and the user is left alone. -/
theorem exists_outside (programs : Programs) (machine : Machine) (env : Environment) :
    ∃ outside : Outside, Together (Stage (· = machine)) (Stage (SameUser · machine))
      (CommandLine.run (host programs) env) (CommandLine.run outside.host env) := by
  cases h : Config.ofEnvironment env with
  | error e =>
    refine ⟨⟨fun _ _ => ([], .ok []), fun _ _ => none, fun _ _ => none, fun _ => true⟩, ?_⟩
    refine (run_together_of_error h _).weaken fun desk w ⟨hmachine, htold⟩ => ⟨?_, htold⟩
    rw [hmachine]
    exact ⟨rfl, rfl, rfl⟩
  | ok config => exact ⟨outside programs machine config, run_together h⟩

/-- A world in which nothing has happened, which matches a desk at which nothing has. -/
def blank : World := ⟨fun _ => none, [], [], [], "", []⟩

/-- A desk and a world at which nothing has been told yet. -/
theorem stage_blank (machine : Machine) : Stage (· = machine) { machine } blank :=
  ⟨rfl, rfl, rfl, [], rfl, rfl, rfl⟩

/-- **When the command passes** at a machine: its environment can be read, the compiler's run there
    gives no bytes but those of the fixture, where it is wanted, and the file that is asked for can
    be written behind that run. -/
theorem run_passed_iff (programs : Programs) (machine : Machine) (env : Environment) :
    ((CommandLine.run (host programs) env).run { machine }).1 = .passed ↔
      ∃ config, Config.ofEnvironment env = .ok config ∧
        (config.oracle = false ∨
          (∃ u, (answer programs machine (Session.compiler config) Fixture.wat).2 = .error u) ∨
          (answer programs machine (Session.compiler config) Fixture.wat).2
            = .ok Fixture.built.write.bytes) ∧
        ∀ path, config.output = some path →
          writeFault? programs machine config path Fixture.built.write.bytes = none := by
  cases h : Config.ofEnvironment env with
  | error e =>
    have hsame : ((CommandLine.run (host programs) env).run { machine }).1 = .misconfigured := by
      rw [CommandLine.run, h]
      rfl
    refine iff_of_false (fun hpassed => ?_) ?_
    · cases hsame.symm.trans hpassed
    · rintro ⟨config, hok, -⟩
      cases hok
  | ok config =>
    obtain ⟨status, w', hstatus, hends⟩ :=
      CommandLine.run_of_ok h (outside programs machine config) blank
    rw [((run_together h) _ _ (stage_blank machine)).1, hstatus, hends.passed_iff]
    constructor
    · intro hpassed
      exact ⟨config, rfl, hpassed⟩
    · rintro ⟨_, heq, hpassed⟩
      exact Except.ok.inj heq ▸ hpassed

end Desk

end WasmBinary.Machine
