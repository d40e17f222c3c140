/-
  How the command ends, whatever its environment holds and the outside does.

  1. **Quieted hosts** — a host whose log is quieted is that of an outside that keeps fewer levels
     (`Outside.host_quietedBy`).  So all that is known of sessions holds of the one that the command
     runs.

  2. **One session** — where the environment can be read, the command runs one session.  What the
     session comes to decides about the status and about what is printed, which is nothing where
     there is no outcome (`CommandLine.run_runWith`).

  3. **Ends** — with the course of a session in it, this tells everything that the command leaves
     behind: the attempts to write, the questions to the compiler, the records, and the texts of
     both streams (`CommandLine.exists_ends`).

  4. **Silence** — a quiet configuration asks no compiler, so that the report passes; it prints
     nothing, and admits no record but errors.  What is left to go wrong is the writing
     (`CommandLine.Ends.of_silent`).
-/
import WasmBinary.CommandLine
import WasmBinary.Proofs.Config.Reading
import WasmBinary.Proofs.Session.Course

namespace WasmBinary

/-! ## Quieted hosts -/

namespace Outside

/-- The same outside, where the log keeps only what a threshold admits. -/
def quietedBy (outside : Outside) (threshold : Threshold) : Outside :=
  { outside with admits := fun level => outside.admits level && threshold.admits level }

/-- A log that keeps fewer levels has of all records those that both it and the threshold admit. -/
theorem note_quietedBy (outside : Outside) (threshold : Threshold) (w : World) (journal : Journal) :
    w.note (outside.quietedBy threshold) journal
      = w.note outside (journal.admittedBy threshold) := by
  rw [World.note, World.note, Journal.admittedBy, List.filter_filter]
  rfl

/-- **Quieting a host quiets its outside.**  A record that the threshold does not admit is not
    handed on, and one that an outside does not admit leaves its world as it was, so that it makes
    no difference which of the two keeps it away. -/
theorem host_quietedBy (outside : Outside) (threshold : Threshold) :
    outside.host.quietedBy threshold = (outside.quietedBy threshold).host := by
  have hnote : ∀ r : Record, (if threshold.admits r.level then outside.host.note r else pure ())
      = (outside.quietedBy threshold).host.note r := by
    intro r
    refine funext fun w => ?_
    show _ = ((), w.note (outside.quietedBy threshold) [r])
    rw [note_quietedBy, Journal.admittedBy, List.filter_singleton]
    -- a record that is not wanted leaves the world as it was
    cases threshold.admits r.level with
    | false => exact congrArg (Prod.mk ()) (w.note_nil outside).symm
    | true => rfl
  rw [Host.quietedBy, funext hnote]
  rfl

/-- Text for the output is added to it, and the world is otherwise the same. -/
theorem run_print (outside : Outside) (w : World) (text : String) :
    (outside.host.print text).run w = ((), { w with output := w.output ++ text }) :=
  rfl

end Outside

/-- The attempts to write between two worlds. -/
def World.attempts (w w' : World) : List (String × Bytes) :=
  w'.writes.drop w.writes.length

/-- How a session with an outcome can end: without a write, with one, or with one that fails. -/
theorem Session.Saves.cases {outside : Outside} {config : Config} {w w' : World}
    {outcome : Outcome} {result : Except Failure Outcome}
    (h : Saves outside config w w' outcome result) :
    (result = .ok outcome ∧ w'.writes = w.writes ∧
      (config.output = none ∨ outcome.report.passed = false)) ∨
    (∃ path, config.output = some path ∧ outcome.report.passed = true ∧
      w'.writes = w.writes ++ [(path, outcome.encoded.bytes)] ∧
      outside.fault? path outcome.encoded.bytes = none ∧ result = .ok outcome ∧
      w'.files path = some outcome.encoded.bytes) ∨
    (∃ path fault, config.output = some path ∧ outcome.report.passed = true ∧
      w'.writes = w.writes ++ [(path, outcome.encoded.bytes)] ∧
      outside.fault? path outcome.encoded.bytes = some fault ∧
      result = .error (.file fault)) := by
  cases hpath : config.output with
  | none =>
    obtain ⟨hresult, -, hwrites⟩ := h.withheld (Or.inl hpath)
    exact Or.inl ⟨hresult, hwrites, Or.inl rfl⟩
  | some path =>
    cases hpassed : outcome.report.passed with
    | false =>
      obtain ⟨hresult, -, hwrites⟩ := h.withheld (Or.inr hpassed)
      exact Or.inl ⟨hresult, hwrites, Or.inr rfl⟩
    | true =>
      obtain ⟨hwrites, -, ⟨hfault, hresult, hfile⟩ | ⟨fault, hfault, hresult⟩⟩ :=
        h.written path hpath hpassed
      · exact Or.inr (Or.inl ⟨path, rfl, rfl, hwrites, hfault, hresult, hfile⟩)
      · exact Or.inr (Or.inr ⟨path, fault, rfl, rfl, hwrites, hfault, hresult⟩)

/-- An environment in which the variable of some setting has a text that gives no value. -/
def Environment.Malformed (env : Environment) : Prop :=
  ∃ s : Setting, s.Malformed env

/-- An environment is refused just if one of its variables is malformed: a fault of the first one is
    a fault, and where there is an answer, something is asked for by every variable. -/
theorem Config.exists_error_iff {env : Environment} :
    (∃ e, ofEnvironment env = .error e) ↔ env.Malformed := by
  constructor
  · rintro ⟨e, h⟩
    obtain ⟨s, -, hs⟩ := exists_firstFault_iff.mp ⟨e, ofEnvironment_eq_error_iff.mp h⟩
    exact ⟨s, hs⟩
  · rintro ⟨s, hs⟩
    cases h : ofEnvironment env with
    | error e => exact ⟨e, rfl⟩
    | ok c =>
      obtain ⟨asked, hasked, -⟩ := holds_of_ofEnvironment h
      exact absurd hs (Setting.exists_asks_iff.mp ⟨_, hasked s⟩)

namespace CommandLine

/-- The three statuses have three different numbers. -/
theorem ExitStatus.code_eq_iff (s t : ExitStatus) : s.code = t.code ↔ s = t := by
  cases s <;> cases t <;> decide

/-! ## One session -/

/-- The status that goes with what a session comes to. -/
def statusOf : Except Session.Failure Session.Outcome → ExitStatus
  | .error _ => .failed
  | .ok outcome => if outcome.report.passed then .passed else .failed

/-- What is printed about it. -/
def printed (config : Config) : Except Session.Failure Session.Outcome → String
  | .error _ => ""
  | .ok outcome => output config outcome

/-- What a session comes to is never told as a mistake in the configuration. -/
theorem statusOf_ne_misconfigured (result : Except Session.Failure Session.Outcome) :
    statusOf result ≠ .misconfigured := by
  cases result with
  | error failure => exact nofun
  | ok outcome =>
    rw [statusOf]
    split <;> exact nofun

/-- Passing is having an outcome whose report passed. -/
theorem statusOf_eq_passed_iff {result : Except Session.Failure Session.Outcome} :
    statusOf result = .passed ↔ ∃ outcome, result = .ok outcome ∧ outcome.report.passed = true := by
  cases result <;> simp [statusOf]

/-- Failing is having no outcome, or one whose report did not pass. -/
theorem statusOf_eq_failed_iff {result : Except Session.Failure Session.Outcome} :
    statusOf result = .failed ↔
      ∀ outcome, result = .ok outcome → outcome.report.passed = false := by
  cases result <;> simp [statusOf]

variable {outside : Outside} {config : Config} {w behind : World}
  {result : Except Session.Failure Session.Outcome}

/-- Behind a session there are only records and what is printed. -/
theorem run_runWith (h : (Session.run outside.host config).run w = (result, behind)) :
    ∃ journal, (runWith outside.host config).run w = (statusOf result,
      ({ behind with output := behind.output ++ printed config result } : World).note outside
        journal) := by
  rw [runWith, World.run_bind h]
  cases result with
  | error failure =>
    refine ⟨[⟨.error, .session, failure.message⟩], ?_⟩
    rw [printed, String.append_empty]
    rfl
  | ok outcome =>
    dsimp only
    rw [World.run_bind (outside.run_print _ _)]
    cases hpassed : outcome.report.passed with
    | false =>
      refine ⟨[⟨.error, .session, "validation failed"⟩], ?_⟩
      rw [statusOf, hpassed]
      rfl
    | true =>
      refine ⟨[⟨.info, .session, "all checks passed"⟩], ?_⟩
      rw [statusOf, hpassed]
      rfl

/-! ## Ends -/

/-- What the command leaves behind with a configuration, by what its session comes to. -/
structure Ends (outside : Outside) (config : Config) (w w' : World)
    (result : Except Session.Failure Session.Outcome) (status : ExitStatus) : Prop where
  status_eq : status = statusOf result
  output_eq : w'.output = w.output ++ printed config result
  complaints_eq : w'.complaints = w.complaints
  log_eq : ∃ journal, w'.log = w.log ++ journal ∧ ∀ r ∈ journal, outside.admits r.level = true
  session : ∃ report, (report.passed = true ↔ config.oracle = false ∨
      (∃ u, (outside.answer (Session.compiler config) Fixture.wat).2 = .error u) ∨
      (outside.answer (Session.compiler config) Fixture.wat).2 = .ok Fixture.built.write.bytes) ∧
    Session.Saves outside config w w' ⟨Fixture.built.write, report⟩ result

/-- Asking and saving leave the log and both texts alone, so that these tell what was logged and
    printed, and nothing else. -/
theorem texts_saving (outside : Outside) (config : Config) (w : World) (outcome : Session.Outcome) :
    let after := Session.saving outside config (Session.asking config w) outcome
    after.log = w.log ∧ after.output = w.output ∧ after.complaints = w.complaints := by
  unfold Session.saving Session.asking
  split <;> split <;> exact ⟨rfl, rfl, rfl⟩

/-- The command has an end for every course of its session: it starts one session, and adds nothing
    to what that leaves but records and what is printed. -/
theorem exists_ends (outside : Outside) (config : Config) (w : World) :
    ∃ status w' result behind, (runWith outside.host config).run w = (status, w') ∧
      (Session.run outside.host config).run w = (result, behind) ∧
      Ends outside config w w' result status := by
  obtain ⟨report, -, hpassed, journal, hrun⟩ := Session.course outside config w
  obtain ⟨more, hends⟩ := run_runWith hrun
  obtain ⟨hlog, houtput, hcomplaints⟩ :=
    texts_saving outside config w ⟨Fixture.built.write, report⟩
  have hsaves := Session.saves_course outside config w ⟨Fixture.built.write, report⟩ journal
  refine ⟨_, _, _, _, hends, hrun, rfl, ?_, hcomplaints, ?_, report, hpassed, ?_⟩
  · exact congrArg (· ++ printed config _) houtput
  · -- the records of the session, and those behind it
    refine ⟨journal.filter (fun r => outside.admits r.level)
      ++ more.filter fun r => outside.admits r.level, ?_, fun r hr => ?_⟩
    · rw [← List.append_assoc, ← hlog]
      rfl
    · rw [← List.filter_append] at hr
      exact (List.mem_filter.mp hr).2
  · exact ⟨hsaves.asked, hsaves.withheld, hsaves.written⟩

namespace Ends

variable {w' : World} {status : ExitStatus}

/-- With a configuration the status is never 2. -/
theorem code_ne_two (h : Ends outside config w w' result status) : status.code ≠ 2 := by
  intro htwo
  rw [h.status_eq] at htwo
  exact statusOf_ne_misconfigured result ((ExitStatus.code_eq_iff _ .misconfigured).mp htwo)

/-- The status is 0 just if the session has an outcome that passed. -/
theorem code_eq_zero_iff (h : Ends outside config w w' result status) :
    status.code = 0 ↔ ∃ outcome, result = .ok outcome ∧ outcome.report.passed = true := by
  rw [← statusOf_eq_passed_iff, ← h.status_eq]
  exact ExitStatus.code_eq_iff status .passed

/-- In all other courses of the session it is 1. -/
theorem code_eq_one_iff (h : Ends outside config w w' result status) :
    status.code = 1 ↔ ∀ outcome, result = .ok outcome → outcome.report.passed = false := by
  rw [← statusOf_eq_failed_iff, ← h.status_eq]
  exact ExitStatus.code_eq_iff status .failed

/-- The command passes where nothing is to be said against the bytes, and they can be written. -/
theorem passed_iff (h : Ends outside config w w' result status) : status = .passed ↔
    (config.oracle = false ∨
      (∃ u, (outside.answer (Session.compiler config) Fixture.wat).2 = .error u) ∨
      (outside.answer (Session.compiler config) Fixture.wat).2 = .ok Fixture.built.write.bytes) ∧
    ∀ path, config.output = some path →
      outside.fault? path Fixture.built.write.bytes = none := by
  obtain ⟨report, hreport, hsaves⟩ := h.session
  rw [← ExitStatus.code_eq_iff, ← hreport]
  refine h.code_eq_zero_iff.trans ?_
  rcases hsaves.cases with ⟨hresult, -, hnone⟩ | ⟨target, htarget, hpassed, -, hwritten, hresult, -⟩
    | ⟨target, fault, htarget, -, -, hfault, hresult⟩
  · -- without a write, an outcome that passed is one that no path is given for
    constructor
    · rintro ⟨outcome, hok, hpassed⟩
      obtain rfl := Except.ok.inj (hresult.symm.trans hok)
      refine ⟨hpassed, fun path hpath => ?_⟩
      rcases hnone with hnone | hfailed
      · nomatch hpath.symm.trans hnone
      · nomatch hpassed.symm.trans hfailed
    · rintro ⟨hpassed, -⟩
      exact ⟨_, hresult, hpassed⟩
  · refine iff_of_true ⟨_, hresult, hpassed⟩ ⟨hpassed, fun path hpath => ?_⟩
    obtain rfl := Option.some.inj (htarget.symm.trans hpath)
    exact hwritten
  · refine iff_of_false ?_ ?_
    · rintro ⟨outcome, hok, -⟩
      nomatch hresult.symm.trans hok
    · rintro ⟨-, hwritten⟩
      nomatch hfault.symm.trans (hwritten target htarget)

/-- With status 0, the file at the path that is asked for holds the bytes. -/
theorem files_eq (h : Ends outside config w w' result status) (hstatus : status.code = 0)
    {path : String} (hpath : config.output = some path) :
    w'.files path = some Fixture.built.write.bytes := by
  obtain ⟨outcome, hresult, hpassed⟩ := h.code_eq_zero_iff.mp hstatus
  obtain ⟨report, -, hsaves⟩ := h.session
  rcases hsaves.cases with ⟨hok, -, hnone⟩ | ⟨target, htarget, -, -, -, -, hfile⟩
    | ⟨target, fault, -, -, -, -, herror⟩
  · -- the outcome is the one whose report did not pass
    obtain rfl := Except.ok.inj (hresult.symm.trans hok)
    rcases hnone with hnone | hfailed
    · nomatch hpath.symm.trans hnone
    · exact absurd (hpassed.symm.trans hfailed) (by decide)
  · obtain rfl := Option.some.inj (hpath.symm.trans htarget)
    exact hfile
  · nomatch hresult.symm.trans herror

/-- An attempt to write that fails is the end: nothing is printed behind it. -/
theorem failed_of_fault (h : Ends outside config w w' result status) {path : String} {data : Bytes}
    {fault : FileFault} (hattempt : (path, data) ∈ w.attempts w')
    (hfault : outside.fault? path data = some fault) :
    status.code = 1 ∧ w'.output = w.output := by
  obtain ⟨report, -, hsaves⟩ := h.session
  rcases hsaves.cases with ⟨-, hwrites, -⟩ | ⟨target, -, -, hwrites, hnone, -, -⟩
    | ⟨target, fault', -, -, -, -, herror⟩
  · rw [World.attempts, hwrites, List.drop_length] at hattempt
    nomatch hattempt
  · -- the one attempt is that which did not fail
    rw [World.attempts, hwrites, List.drop_left, List.mem_singleton] at hattempt
    obtain ⟨rfl, rfl⟩ := Prod.mk.inj hattempt
    nomatch hnone.symm.trans hfault
  · have houtput := h.output_eq
    rw [herror] at houtput
    refine ⟨h.code_eq_one_iff.mpr fun outcome hok => ?_, houtput.trans String.append_empty⟩
    nomatch herror.symm.trans hok

/-- A report that no compiler is asked about passes, so that only a write can fail. -/
theorem passed_of_unasked (h : Ends outside config w w' result status)
    (horacle : config.oracle = false)
    (hwritten : ∀ path data, (path, data) ∈ w.attempts w' → outside.fault? path data = none) :
    status.code = 0 := by
  obtain ⟨report, hreport, hsaves⟩ := h.session
  have hpassed : report.passed = true := hreport.mpr (Or.inl horacle)
  rw [h.code_eq_zero_iff]
  rcases hsaves.cases with ⟨hresult, -, -⟩ | ⟨target, -, -, -, -, hresult, -⟩
    | ⟨target, fault, -, -, hwrites, hfault, -⟩
  · exact ⟨_, hresult, hpassed⟩
  · exact ⟨_, hresult, hpassed⟩
  · have hattempt : (target, Fixture.built.write.bytes) ∈ w.attempts w' := by
      rw [World.attempts, hwrites, List.drop_left]
      exact List.mem_singleton_self _
    nomatch (hwritten _ _ hattempt).symm.trans hfault

end Ends

/-! ## Silence -/

/-- An environment that asks for silence is read as a quiet configuration. -/
theorem silent_of_asks {env : Environment} (h : Config.ofEnvironment env = .ok config)
    (hquiet : Setting.quiet.Asks (env Setting.quiet.key) true) :
    config.quiet = true ∧ config.Silent env := by
  obtain ⟨asked, hasked, rfl⟩ := Config.holds_of_ofEnvironment h
  -- what is asked for is told by the flag itself, which silence does not touch
  have hloud : asked.settled.quiet = true := by
    rw [Config.quiet_settled]
    exact (hasked .quiet).unique hquiet
  exact ⟨hloud, Config.silent_of_quiet h hloud⟩

/-- A silent configuration admits no level but that of errors, whatever threshold it was given:
    silence puts the threshold at errors or above. -/
theorem level_eq_error {env : Environment} (h : config.Silent env) {level : Level}
    (hadmits : config.threshold.admits level = true) : level = .error := by
  obtain ⟨t, -, hrank⟩ := h.threshold
  -- the threshold admits one level at most
  have hthreshold : config.threshold.rank ≤ 1 := by
    rw [hrank]
    exact Nat.min_le_right _ _
  have hlevel : level.rank ≤ config.threshold.rank := of_decide_eq_true hadmits
  have hone : level.rank ≤ 1 := Nat.le_trans hlevel hthreshold
  cases level with
  | error => rfl
  | warn | info | debug | trace => exact absurd hone (by decide)

/-- Nothing is printed about a session with a quiet configuration: the report is held back by its
    being quiet, and the listings by what silence settles. -/
theorem printed_of_silent {env : Environment} (hquiet : config.quiet = true)
    (h : config.Silent env) : printed config result = "" := by
  cases result with
  | error failure => rfl
  | ok outcome => rw [printed, output, if_pos hquiet, if_pos h.validateOnly, String.append_empty]

/-- What a quiet configuration leaves behind: no text, no question, and errors only; and it fails
    only by a write. -/
theorem Ends.of_silent {env : Environment} {w' : World} {status : ExitStatus}
    (h : Ends (outside.quietedBy config.threshold) config w w' result status)
    (hquiet : config.quiet = true) (hsilent : config.Silent env) :
    w'.output = w.output ∧ w'.complaints = w.complaints ∧ w'.asked = w.asked ∧
    (∃ journal, w'.log = w.log ++ journal ∧ ∀ r ∈ journal, r.level = .error) ∧
    ((∀ path data, (path, data) ∈ w.attempts w' → outside.fault? path data = none) →
      status.code = 0) := by
  refine ⟨?_, h.complaints_eq, ?_, ?_, h.passed_of_unasked hsilent.oracle⟩
  · rw [h.output_eq, printed_of_silent hquiet hsilent, String.append_empty]
  · obtain ⟨report, -, hsaves⟩ := h.session
    rw [hsaves.asked, hsilent.oracle]
    exact List.append_nil _
  · obtain ⟨journal, hlog, hadmitted⟩ := h.log_eq
    refine ⟨journal, hlog, fun r hr => level_eq_error hsilent ?_⟩
    exact (Bool.and_eq_true_iff.mp (hadmitted r hr)).2

/-! ## The command -/

/-- What the session of the command comes to. -/
def sessionResult (outside : Outside) (config : Config) (w : World) :
    Except Session.Failure Session.Outcome :=
  ((Session.run (outside.host.quietedBy config.threshold) config).run w).1

/-- An environment that cannot be read is told, and nothing else happens. -/
theorem run_of_error {env : Environment} {e : ConfigError}
    (h : Config.ofEnvironment env = .error e) (outside : Outside) (w : World) :
    (run outside.host env).run w
      = (.misconfigured, { w with complaints := w.complaints ++ [e.message] }) := by
  rw [run, h]
  rfl

/-- An environment that can be read ends as its configuration does, with a log that keeps what the
    threshold of the configuration admits. -/
theorem run_of_ok {env : Environment} (h : Config.ofEnvironment env = .ok config)
    (outside : Outside) (w : World) : ∃ status w', (run outside.host env).run w = (status, w') ∧
      Ends (outside.quietedBy config.threshold) config w w' (sessionResult outside config w)
        status := by
  obtain ⟨status, w', result, behind, hrun, hsession, hends⟩ :=
    exists_ends (outside.quietedBy config.threshold) config w
  have hresult : sessionResult outside config w = result := by
    rw [sessionResult, outside.host_quietedBy, hsession]
  refine ⟨status, w', ?_, hresult ▸ hends⟩
  rw [run, h, ← hrun, ← outside.host_quietedBy]

/-- **The status and the output match the verdict**, whatever the environment holds, the compiler
    answers and becomes of a write.  The status is 2 exactly if the environment is malformed, and
    then a line on the error stream is all that happens.  It is 0 exactly if the session has an
    outcome whose report passed, and then the file at the path that is asked for holds the encoded
    bytes; otherwise it is 1.  Printed is what there is to print about the outcome, which is nothing
    where a write failed.  An environment that asks for silence, whatever else it asks for, has
    nothing printed, no compiler asked and no record logged but errors, and the status is 0 unless a
    write fails. -/
theorem run_status_exact (outside : Outside) (env : Environment) (w : World) :
    ∃ status w', (run outside.host env).run w = (status, w') ∧
      (status.code = 2 ↔ env.Malformed) ∧
      (status.code = 2 → ∃ e, Config.ofEnvironment env = .error e ∧
        w' = { w with complaints := w.complaints ++ [e.message] }) ∧
      (status.code = 0 ↔ ∃ config outcome, Config.ofEnvironment env = .ok config ∧
        sessionResult outside config w = .ok outcome ∧ outcome.report.passed = true) ∧
      (status.code = 0 → ∃ encoded, Fixture.module.bind Module.encode = .ok encoded ∧
        ∀ config path, Config.ofEnvironment env = .ok config → config.output = some path →
          w'.files path = some encoded.bytes) ∧
      (status.code = 1 ↔ ∃ config, Config.ofEnvironment env = .ok config ∧
        ∀ outcome, sessionResult outside config w = .ok outcome →
          outcome.report.passed = false) ∧
      (∀ config, Config.ofEnvironment env = .ok config →
        w'.output = w.output ++ printed config (sessionResult outside config w)) ∧
      (∀ path data fault, (path, data) ∈ w.attempts w' → outside.fault? path data = some fault →
        status.code = 1 ∧ w'.output = w.output) ∧
      (Setting.quiet.Asks (env Setting.quiet.key) true → ¬ env.Malformed →
        w'.output = w.output ∧ w'.complaints = w.complaints ∧ w'.asked = w.asked ∧
        (∃ journal, w'.log = w.log ++ journal ∧ ∀ r ∈ journal, r.level = .error) ∧
        ((∀ path data, (path, data) ∈ w.attempts w' → outside.fault? path data = none) →
          status.code = 0)) := by
  cases hconfig : Config.ofEnvironment env with
  | error e =>
    -- an environment that is refused settles every clause by the status alone
    have hmalformed : env.Malformed := Config.exists_error_iff.mp ⟨e, hconfig⟩
    refine ⟨.misconfigured, _, run_of_error hconfig outside w, iff_of_true rfl hmalformed,
      fun _ => ⟨e, rfl, rfl⟩, iff_of_false (by decide) ?_, nofun, iff_of_false (by decide) ?_,
      nofun, fun path data fault hattempt => ?_, fun _ hwell => absurd hmalformed hwell⟩
    · rintro ⟨config, outcome, h, -⟩
      nomatch h
    · rintro ⟨config, h, -⟩
      nomatch h
    · rw [World.attempts, List.drop_length] at hattempt
      nomatch hattempt
  | ok config =>
    obtain ⟨status, w', hrun, hends⟩ := run_of_ok hconfig outside w
    -- an environment that is read: each clause is one about the end of its session
    have hwell : ¬ env.Malformed := by
      rw [← Config.exists_error_iff, hconfig]
      exact nofun
    refine ⟨status, w', hrun, iff_of_false hends.code_ne_two hwell,
      fun h => absurd h hends.code_ne_two, ?_, fun h => ⟨_, Fixture.encode_module, ?_⟩, ?_, ?_,
      fun path data fault hattempt hfault => hends.failed_of_fault hattempt hfault,
      fun hquiet _ => ?_⟩
    · rw [hends.code_eq_zero_iff]
      simp
    · intro _ path heq hpath
      obtain rfl := Except.ok.inj heq
      exact hends.files_eq h hpath
    · rw [hends.code_eq_one_iff]
      simp
    · intro _ heq
      obtain rfl := Except.ok.inj heq
      exact hends.output_eq
    · obtain ⟨hloud, hsilent⟩ := silent_of_asks hconfig hquiet
      exact hends.of_silent hloud hsilent

/-- Silence, with all levels and a file asked for. -/
def silentEnvironment : Environment := fun key =>
  if key = "WASM_FIXTURES_QUIET" then some " Yes"
  else if key = "WASM_FIXTURES_LOG" then some "trace"
  else if key = "WASM_FIXTURES_OUT" then some "panic.wasm" else none

/-- In silence a compiler that would object is not heard, and the file is written. -/
theorem run_status_exact_silent : ∃ status w',
    (run (Outside.host ⟨fun _ _ => ([], .ok []), fun _ _ => none, fun _ _ => none, fun _ => true⟩)
      silentEnvironment).run ⟨fun _ => none, [], [], [], "", []⟩ = (status, w') ∧
    status.code = 0 ∧ w'.output = "" ∧ w'.asked = [] ∧
    w'.files "panic.wasm" = some Fixture.built.write.bytes := by
  have hasked : Config.Holds silentEnvironment
      ⟨.upTo .trace, some "panic.wasm", false, true, "wat2wasm", 10000, true⟩ := by
    intro s
    cases s with
    | log => exact (by decide +kernel : "trace".toUpper = "TRACE")
    | output | validateOnly | noOracle | program | timeout => rfl
    | quiet => exact Config.flag?_eq_some_iff.mp (by decide +kernel)
  have hconfig := Config.ofEnvironment_eq_ok_iff.mpr ⟨_, hasked, rfl⟩
  have hwell : ¬ silentEnvironment.Malformed := by
    rintro ⟨s, hs⟩
    exact Setting.exists_asks_iff.mp ⟨_, hasked s⟩ hs
  obtain ⟨status, w', hrun, -, -, -, hfiles, -, -, -, hsilent⟩ :=
    run_status_exact
      ⟨fun _ _ => ([], .ok []), fun _ _ => none, fun _ _ => none, fun _ => true⟩
      silentEnvironment ⟨fun _ => none, [], [], [], "", []⟩
  obtain ⟨houtput, -, hunasked, -, hzero⟩ := hsilent (hasked .quiet) hwell
  have hstatus : status.code = 0 := hzero fun _ _ _ => rfl
  obtain ⟨encoded, hencoded, hfile⟩ := hfiles hstatus
  obtain rfl := Except.ok.inj (Fixture.encode_module.symm.trans hencoded)
  exact ⟨status, w', hrun, hstatus, houtput, hunasked, hfile _ _ hconfig rfl⟩

end CommandLine

end WasmBinary
