/-
  What a configuration says about the environment that it was read from.

  1. **Fields** — every setting has one variable and one field.  `Setting.Reads` says which texts
     give the field which value, and `Setting.Asks` what the variable asks for, set or not.  At most
     one value is asked for (`Setting.Asks.unique`), and none only where the variable is malformed.

  2. **Readers** — the three readers are one: what is not set has a fixed value, and a text is read
     or is at fault (`Reader.fromVariable`).  So each of them tells exactly what its variable asks
     for, and fails exactly if it is malformed (`Config.ReadsSetting`).

  3. **The whole** — the readers are run one after the other.  The run fails by the first variable
     that is malformed, since a reader is reached only behind readers that did not fail
     (`Config.FirstFault`).  Otherwise there is one configuration that holds what is asked for, and
     it is the answer, hushed if it is to be quiet (`Config.ofEnvironment_eq_ok_iff`).  Everything
     about fields that do not depend on one another is read off this: `ofEnvironment_exact`.
-/
import Mathlib.Logic.Function.Basic
import WasmBinary.Proofs.Config.Values

namespace WasmBinary

/-! ## Fields -/

namespace Setting

/-- What the field of a setting holds. -/
def Value : Setting → Type
  | log => Threshold
  | output => Option String
  | validateOnly | noOracle | quiet => Bool
  | program => String
  | timeout => Nat

/-- A text gives a value to the field of a setting. -/
def Reads : (s : Setting) → String → s.Value → Prop
  | log, text, t => Threshold.Names text t
  | output, text, path => path = if text = "" then none else some text
  | validateOnly, text, flag => Config.Flag text flag
  | noOracle, text, oracle => Config.Flag text (!oracle)
  | program, text, name => name = if text = "" then "wat2wasm" else text
  | timeout, text, n => Config.Word text n
  | quiet, text, flag => Config.Flag text flag

end Setting

/-- The field of a setting. -/
def Config.value (c : Config) : (s : Setting) → s.Value
  | .log => c.threshold
  | .output => c.output
  | .validateOnly => c.validateOnly
  | .noOracle => c.oracle
  | .program => c.program
  | .timeout => c.timeout
  | .quiet => c.quiet

namespace Setting

/-- A variable asks for a value: by its text, or for the value of a field that nothing is said
    about. -/
def Asks (s : Setting) : Option String → s.Value → Prop
  | none, x => x = ({} : Config).value s
  | some text, x => s.Reads text x

/-- The variable of a setting has a text that gives its field no value. -/
def Malformed (env : Environment) (s : Setting) : Prop :=
  ∃ text, env s.key = some text ∧ ∀ x, ¬ s.Reads text x

/-- The error for a text that gives no value. -/
def fault : Setting → String → ConfigError
  | log, text => .unknownLevel text
  | timeout, text => .notANumber text
  | s, text => .notABoolean s text

/-- Seven settings have seven different variables, so a variable belongs to one field at most. -/
theorem key_injective {s t : Setting} (h : s.key = t.key) : s = t := by
  cases s <;> cases t <;> first | rfl | exact absurd h (by decide)

/-- The error for a text names the setting whose variable holds it, whichever of the three kinds of
    errors it is. -/
theorem setting_fault (s : Setting) (text : String) : (s.fault text).setting = s := by
  cases s <;> rfl

/-- A text gives a field one value at most.  For each kind of field there is a reader that finds the
    value, so two values that a text gives are both the one that is found. -/
theorem Reads.unique {s : Setting} {text : String} {x y : s.Value} (hx : s.Reads text x)
    (hy : s.Reads text y) : x = y := by
  cases s with
  | log =>
    exact Option.some.inj ((Threshold.ofName?_eq_some_iff.mpr hx).symm.trans
      (Threshold.ofName?_eq_some_iff.mpr hy))
  | output | program => exact Eq.trans hx (Eq.symm hy)
  | validateOnly | quiet =>
    exact Option.some.inj ((Config.flag?_eq_some_iff.mpr hx).symm.trans
      (Config.flag?_eq_some_iff.mpr hy))
  | noOracle =>
    exact Bool.not_inj (Option.some.inj ((Config.flag?_eq_some_iff.mpr hx).symm.trans
      (Config.flag?_eq_some_iff.mpr hy)))
  | timeout =>
    exact Option.some.inj ((Config.word64?_eq_some_iff.mpr hx).symm.trans
      (Config.word64?_eq_some_iff.mpr hy))

/-- A variable asks for one value at most, whether it is set or not. -/
theorem Asks.unique {s : Setting} {text? : Option String} {x y : s.Value} (hx : s.Asks text? x)
    (hy : s.Asks text? y) : x = y := by
  cases text? with
  | none => exact Eq.trans hx (Eq.symm hy)
  | some text => exact Reads.unique hx hy

/-- A variable that is not malformed asks for a value. -/
theorem exists_asks_iff {env : Environment} {s : Setting} :
    (∃ x, s.Asks (env s.key) x) ↔ ¬ s.Malformed env := by
  rw [Malformed]
  cases env s.key with
  | none => simp [Asks]
  | some text => simp [Asks]

end Setting

/-! ## Readers -/

namespace Config

/-- Reads a variable: a fixed value where it is not set, and an error where the text is none. -/
def fromVariable {α : Type} (text? : Option String) (unset : α) (read? : String → Option α)
    (fault : String → ConfigError) : Except ConfigError α :=
  match text? with
  | none => .ok unset
  | some text =>
      match read? text with
      | some a => .ok a
      | none => .error (fault text)

/-- An answer is what the variable of a setting asks for, or tells that it is malformed. -/
structure ReadsSetting {α : Type} (env : Environment) (s : Setting) (field : α → s.Value)
    (answer : Except ConfigError α) : Prop where
  ok_iff : ∀ a, answer = .ok a ↔ s.Asks (env s.key) (field a)
  error_iff : ∀ e, answer = .error e ↔
    ∃ text, env s.key = some text ∧ (∀ x, ¬ s.Reads text x) ∧ e = s.fault text

section Readers

variable {α : Type} {env : Environment} {s : Setting} {field : α → s.Value}

/-- Reading by a variable tells what the variable asks for, if its reader finds just the values that
    texts give.  The field may hold something else than what is read, as long as either can be told
    from the other. -/
theorem readsSetting_fromVariable {unset : α} {read? : String → Option α}
    (hfield : Function.Bijective field) (hunset : field unset = ({} : Config).value s)
    (hread : ∀ text a, read? text = some a ↔ s.Reads text (field a)) :
    ReadsSetting env s field (fromVariable (env s.key) unset read? s.fault) := by
  have hnone : ∀ text, read? text = none ↔ ∀ x, ¬ s.Reads text x := by
    intro text
    -- every value of the field is what some answer is taken for
    rw [Option.eq_none_iff_forall_ne_some, hfield.surjective.forall]
    exact forall_congr' fun a => not_congr (hread text a)
  cases henv : env s.key with
  | none =>
    refine ⟨fun a => ?_, fun e => ?_⟩
    · rw [henv]
      show Except.ok unset = .ok a ↔ field a = ({} : Config).value s
      rw [← hunset, hfield.injective.eq_iff, Except.ok.injEq, eq_comm]
    · rw [henv]
      exact ⟨nofun, nofun⟩
  | some text =>
    refine ⟨fun a => ?_, fun e => ?_⟩
    · rw [henv]
      show _ ↔ s.Reads text (field a)
      rw [← hread]
      cases hvalue : read? text with
      | none => simp [fromVariable, hvalue]
      | some b => simp [fromVariable, hvalue]
    · rw [henv]
      simp only [Option.some.injEq, exists_eq_left', ← hnone]
      cases hvalue : read? text with
      | none => simp [fromVariable, hvalue, eq_comm]
      | some b => simp [fromVariable, hvalue]

end Readers

/-- Thresholds are read by their variable, as `fromVariable` reads. -/
theorem readThreshold_eq (env : Environment) (unset : Threshold) :
    readThreshold env unset
      = fromVariable (env Setting.log.key) unset Threshold.ofName? (Setting.fault .log) := by
  unfold readThreshold fromVariable
  cases env Setting.log.key with
  | none => rfl
  | some text =>
    cases h : Threshold.ofName? text with
    | none => simp only [h]; rfl
    | some threshold => simp only [h]

/-- So are time limits. -/
theorem readTimeout_eq (env : Environment) (unset : Nat) :
    readTimeout env unset
      = fromVariable (env Setting.timeout.key) unset word64? (Setting.fault .timeout) := by
  unfold readTimeout fromVariable
  cases env Setting.timeout.key with
  | none => rfl
  | some text =>
    cases h : word64? text with
    | none => simp only [h]; rfl
    | some timeout => simp only [h]

/-- And so are the three flags, all of which are off where nothing is said. -/
theorem readFlag_eq (env : Environment) (s : Setting) :
    readFlag env s = fromVariable (env s.key) false flag? (.notABoolean s) := by
  unfold readFlag fromVariable
  cases env s.key with
  | none => rfl
  | some text => cases h : flag? text <;> simp only [h]

/-- The reader of thresholds tells what the variable for the log asks for. -/
theorem readThreshold_reads (env : Environment) :
    ReadsSetting env .log id (readThreshold env ({} : Config).threshold) := by
  rw [readThreshold_eq]
  exact readsSetting_fromVariable Function.bijective_id rfl fun _ _ => Threshold.ofName?_eq_some_iff

/-- The reader of time limits tells what the variable for the time limit asks for. -/
theorem readTimeout_reads (env : Environment) :
    ReadsSetting env .timeout id (readTimeout env ({} : Config).timeout) := by
  rw [readTimeout_eq]
  exact readsSetting_fromVariable Function.bijective_id rfl fun _ _ => word64?_eq_some_iff

/-- A flag that the field takes as it is. -/
theorem readFlag_validateOnly_reads (env : Environment) :
    ReadsSetting env .validateOnly id (readFlag env .validateOnly) := by
  rw [readFlag_eq]
  exact readsSetting_fromVariable Function.bijective_id rfl fun _ _ => flag?_eq_some_iff

/-- Another flag that the field takes as it is; what follows from it is settled later. -/
theorem readFlag_quiet_reads (env : Environment) :
    ReadsSetting env .quiet id (readFlag env .quiet) := by
  rw [readFlag_eq]
  exact readsSetting_fromVariable Function.bijective_id rfl fun _ _ => flag?_eq_some_iff

/-- The field for the oracle holds the opposite of what its variable says, so that this is the one
    reader that does not read the value of its field itself. -/
theorem readFlag_noOracle_reads (env : Environment) :
    ReadsSetting env .noOracle not (readFlag env .noOracle) := by
  rw [readFlag_eq]
  refine readsSetting_fromVariable Bool.involutive_not.bijective rfl fun text flag => ?_
  show _ ↔ Flag text (!!flag)
  rw [Bool.not_not]
  exact flag?_eq_some_iff

/-- The output path is the text of its variable, unless that is empty. -/
theorem asks_output (env : Environment) :
    Setting.output.Asks (env Setting.output.key) (nonempty? env .output) := by
  rw [nonempty?]
  cases env Setting.output.key with
  | none => exact rfl
  | some text =>
    show Option.filter _ (some text) = if text = "" then none else some text
    by_cases h : text = "" <;> simp [h]

/-- The program is the text of its variable, or the standard one where that is empty. -/
theorem asks_program (env : Environment) :
    Setting.program.Asks (env Setting.program.key)
      ((nonempty? env .program).getD ({} : Config).program) := by
  rw [nonempty?]
  cases env Setting.program.key with
  | none => exact rfl
  | some text =>
    show (Option.filter _ (some text)).getD _ = if text = "" then "wat2wasm" else text
    by_cases h : text = "" <;> simp [Option.filter, h]

/-! ## The whole -/

/-- The settings whose variables can be malformed, in the order in which they are read. -/
def readInOrder : List Setting :=
  [.log, .validateOnly, .noOracle, .timeout, .quiet]

/-- The error for a malformed variable behind others that are not. -/
def FirstFault (env : Environment) (e : ConfigError) : List Setting → Prop
  | [] => False
  | s :: rest =>
      (∃ text, env s.key = some text ∧ (∀ x, ¬ s.Reads text x) ∧ e = s.fault text) ∨
        ¬ s.Malformed env ∧ FirstFault env e rest

/-- The first fault among settings splits them: those in front are not malformed, and the text of
    the one behind them gives no value. -/
theorem firstFault_iff {env : Environment} {e : ConfigError} {settings : List Setting} :
    FirstFault env e settings ↔ ∃ front s back text, settings = front ++ s :: back ∧
      (∀ t ∈ front, ¬ t.Malformed env) ∧ env s.key = some text ∧ (∀ x, ¬ s.Reads text x) ∧
      e = s.fault text := by
  induction settings with
  | nil => simp [FirstFault]
  | cons s rest ih =>
    rw [FirstFault, ih]
    constructor
    · rintro (⟨text, htext, hnone, he⟩ | ⟨hs, front, t, back, text, rfl, hfront, hlast⟩)
      · exact ⟨[], s, rest, text, rfl, nofun, htext, hnone, he⟩
      · exact ⟨s :: front, t, back, text, rfl, List.forall_mem_cons.mpr ⟨hs, hfront⟩, hlast⟩
    · rintro ⟨front, t, back, text, hsplit, hfront, hlast⟩
      cases front with
      | nil =>
        obtain ⟨rfl, rfl⟩ := List.cons.inj hsplit
        exact Or.inl ⟨text, hlast⟩
      | cons u front =>
        obtain ⟨rfl, rfl⟩ := List.cons.inj hsplit
        rw [List.forall_mem_cons] at hfront
        exact Or.inr ⟨hfront.1, front, t, back, text, rfl, hfront.2, hlast⟩

/-- There is a first fault as soon as there is a malformed variable, wherever it stands in the
    order. -/
theorem exists_firstFault_iff {env : Environment} {settings : List Setting} :
    (∃ e, FirstFault env e settings) ↔ ∃ s ∈ settings, s.Malformed env := by
  induction settings with
  | nil => simp [FirstFault]
  | cons s rest ih =>
    simp only [List.mem_cons, exists_eq_or_imp, ← ih]
    constructor
    · rintro ⟨e, ⟨text, htext, hnone, -⟩ | ⟨-, hrest⟩⟩
      · exact Or.inl ⟨text, htext, hnone⟩
      · exact Or.inr ⟨e, hrest⟩
    · intro h
      by_cases hs : s.Malformed env
      · obtain ⟨text, htext, hnone⟩ := hs
        exact ⟨_, Or.inl ⟨text, htext, hnone, rfl⟩⟩
      · obtain ⟨e, he⟩ := h.resolve_left hs
        exact ⟨e, Or.inr ⟨hs, he⟩⟩

/-- A reader in front of others: they are reached only where it does not fail. -/
theorem ReadsSetting.firstFault {α β : Type} {env : Environment} {s : Setting}
    {field : α → s.Value} {answer : Except ConfigError α} {next : α → Except ConfigError β}
    {e : ConfigError} {rest : List Setting} (h : ReadsSetting env s field answer)
    (hnext : ∀ a, next a = .error e ↔ FirstFault env e rest) :
    answer >>= next = .error e ↔ FirstFault env e (s :: rest) := by
  rw [FirstFault, ← h.error_iff]
  cases hanswer : answer with
  | error fault =>
    -- it fails, and then what is behind it is not asked for its faults
    obtain ⟨text, htext, hnone, -⟩ := (h.error_iff fault).mp hanswer
    have hmalformed : s.Malformed env := ⟨text, htext, hnone⟩
    show Except.error fault = .error e ↔ _
    simp [hmalformed]
  | ok a =>
    -- it does not fail, so the fault is that of what is behind it
    have hasked : ¬ s.Malformed env :=
      Setting.exists_asks_iff.mp ⟨_, (h.ok_iff a).mp hanswer⟩
    show next a = .error e ↔ _
    simp [hasked, hnext]

/-- An environment is refused by the first of its malformed variables.  Each reader is put in front
    of what is read behind it, the last one in front of nothing. -/
theorem ofEnvironment_eq_error_iff {env : Environment} {e : ConfigError} :
    ofEnvironment env = .error e ↔ FirstFault env e readInOrder := by
  refine (readThreshold_reads env).firstFault fun _ => ?_
  refine (readFlag_validateOnly_reads env).firstFault fun _ => ?_
  refine (readFlag_noOracle_reads env).firstFault fun _ => ?_
  refine (readTimeout_reads env).firstFault fun _ => ?_
  refine (readFlag_quiet_reads env).firstFault fun _ => ?_
  exact ⟨nofun, nofun⟩

/-- An answer behind another one is there only if both are. -/
theorem bind_eq_ok {α β : Type} {x : Except ConfigError α} {f : α → Except ConfigError β} {b : β} :
    x >>= f = .ok b ↔ ∃ a, x = .ok a ∧ f a = .ok b := by
  cases x with
  | error e => exact ⟨nofun, fun ⟨_, h, _⟩ => nomatch h⟩
  | ok a => simp [bind, Except.bind]

/-- What a configuration becomes that may ask for silence. -/
def settled (c : Config) : Config :=
  if c.quiet then c.hush else c

/-- A configuration holds what is asked for. -/
def Holds (env : Environment) (c : Config) : Prop :=
  ∀ s : Setting, s.Asks (env s.key) (c.value s)

/-- There is one configuration at most that holds what is asked for, since each of its fields is
    settled. -/
theorem Holds.unique {env : Environment} {c d : Config} (hc : c.Holds env) (hd : d.Holds env) :
    c = d := by
  have hvalue : ∀ s : Setting, c.value s = d.value s := fun s => (hc s).unique (hd s)
  obtain ⟨threshold, output, validateOnly, oracle, program, timeout, quiet⟩ := c
  rw [show d = ⟨d.value .log, d.value .output, d.value .validateOnly, d.value .noOracle,
    d.value .program, d.value .timeout, d.value .quiet⟩ from rfl]
  simp only [← hvalue]
  rfl

/-- What is read is asked for: each field by its own variable, and the silence comes on top of all
    of them. -/
theorem holds_of_ofEnvironment {env : Environment} {c : Config} (h : ofEnvironment env = .ok c) :
    ∃ asked : Config, asked.Holds env ∧ c = asked.settled := by
  obtain ⟨threshold, hthreshold, h⟩ := bind_eq_ok.mp h
  obtain ⟨validateOnly, hvalidateOnly, h⟩ := bind_eq_ok.mp h
  obtain ⟨noOracle, hnoOracle, h⟩ := bind_eq_ok.mp h
  obtain ⟨timeout, htimeout, h⟩ := bind_eq_ok.mp h
  obtain ⟨quiet, hquiet, h⟩ := bind_eq_ok.mp h
  refine ⟨⟨threshold, nonempty? env .output, validateOnly, !noOracle,
    (nonempty? env .program).getD ({} : Config).program, timeout, quiet⟩, fun s => ?_,
    (Except.ok.inj h).symm⟩
  cases s with
  | log => exact ((readThreshold_reads env).ok_iff _).mp hthreshold
  | output => exact asks_output env
  | validateOnly => exact ((readFlag_validateOnly_reads env).ok_iff _).mp hvalidateOnly
  | noOracle => exact ((readFlag_noOracle_reads env).ok_iff _).mp hnoOracle
  | program => exact asks_program env
  | timeout => exact ((readTimeout_reads env).ok_iff _).mp htimeout
  | quiet => exact ((readFlag_quiet_reads env).ok_iff _).mp hquiet

/-- What is asked for is what the answer holds, but for the silence. -/
theorem ofEnvironment_eq_ok_iff {env : Environment} {c : Config} :
    ofEnvironment env = .ok c ↔ ∃ asked : Config, asked.Holds env ∧ c = asked.settled := by
  refine ⟨holds_of_ofEnvironment, ?_⟩
  rintro ⟨asked, hasked, rfl⟩
  cases hanswer : ofEnvironment env with
  | error e =>
    -- a malformed variable asks for nothing, but something is asked for by each
    obtain ⟨s, -, hs⟩ := exists_firstFault_iff.mp ⟨e, ofEnvironment_eq_error_iff.mp hanswer⟩
    exact absurd hs (Setting.exists_asks_iff.mp ⟨_, hasked s⟩)
  | ok c =>
    obtain ⟨other, hother, rfl⟩ := holds_of_ofEnvironment hanswer
    rw [hasked.unique hother]

/-- Settling does not change whether a configuration is quiet. -/
theorem quiet_settled (c : Config) : c.settled.quiet = c.quiet := by
  unfold settled
  split <;> rfl

/-- A configuration that is not quiet holds just what is asked for. -/
theorem holds_of_loud {env : Environment} {c : Config} (h : ofEnvironment env = .ok c)
    (hloud : c.quiet = false) : c.Holds env := by
  obtain ⟨asked, hasked, rfl⟩ := holds_of_ofEnvironment h
  rw [quiet_settled] at hloud
  rw [settled, hloud]
  exact hasked

/-- A quiet one holds it but for what silence settles. -/
theorem hush_of_quiet {env : Environment} {c : Config} (h : ofEnvironment env = .ok c)
    (hquiet : c.quiet = true) : ∃ asked : Config, asked.Holds env ∧ c = asked.hush := by
  obtain ⟨asked, hasked, rfl⟩ := holds_of_ofEnvironment h
  rw [quiet_settled] at hquiet
  exact ⟨asked, hasked, by rw [settled, if_pos hquiet]⟩

end Config

/-! ## Two environments -/

/-- An environment without the variable of a setting. -/
def Environment.unset (env : Environment) (s : Setting) : Environment :=
  fun key => if key = s.key then none else env key

/-- Taking one variable away leaves every other one as it was. -/
theorem Environment.unset_of_ne {env : Environment} {s t : Setting} (h : t ≠ s) :
    env.unset s t.key = env t.key :=
  if_neg fun hkey => h (Setting.key_injective hkey)

theorem Environment.unset_self (env : Environment) (s : Setting) : env.unset s s.key = none :=
  if_pos rfl

namespace Config

variable {env env' : Environment}

/-- The first fault among settings depends on nothing but their own variables. -/
theorem firstFault_congr {e : ConfigError} {settings : List Setting}
    (h : ∀ s ∈ settings, env s.key = env' s.key) :
    FirstFault env e settings ↔ FirstFault env' e settings := by
  induction settings with
  | nil => rfl
  | cons s rest ih =>
    obtain ⟨hs, hrest⟩ := List.forall_mem_cons.mp h
    rw [FirstFault, FirstFault, ih hrest, hs, Setting.Malformed, Setting.Malformed, hs]

/-- Two environments are read alike that have the same texts where a text can be malformed, and ask
    for the same everywhere. -/
theorem ofEnvironment_congr (htexts : ∀ s ∈ readInOrder, env s.key = env' s.key)
    (hasks : ∀ (s : Setting) x, s.Asks (env s.key) x ↔ s.Asks (env' s.key) x) :
    ofEnvironment env = ofEnvironment env' := by
  cases h : ofEnvironment env with
  | error e =>
    rw [ofEnvironment_eq_error_iff, firstFault_congr htexts] at h
    exact (ofEnvironment_eq_error_iff.mpr h).symm
  | ok c =>
    obtain ⟨asked, hasked, rfl⟩ := holds_of_ofEnvironment h
    have hasked' : asked.Holds env' := fun s => (hasks s _).mp (hasked s)
    exact (ofEnvironment_eq_ok_iff.mpr ⟨asked, hasked', rfl⟩).symm

/-- Empty texts for a path or a program ask for what nothing asks for. -/
theorem ofEnvironment_empty {s : Setting} (hs : s = .output ∨ s = .program)
    (hempty : env s.key = some "") : ofEnvironment env = ofEnvironment (env.unset s) := by
  refine ofEnvironment_congr (fun t ht => ?_) fun t x => ?_
  · refine (Environment.unset_of_ne ?_).symm
    rintro rfl
    rcases hs with rfl | rfl <;> exact absurd ht (by decide)
  · by_cases hts : t = s
    · subst hts
      rw [hempty, env.unset_self]
      rcases hs with rfl | rfl <;> exact Iff.rfl
    · rw [Environment.unset_of_ne hts]

/-- What a quiet configuration holds: nothing is listed and no oracle asked, errors at most are
    logged, and all else is as it would be without silence. -/
structure Silent (env : Environment) (c : Config) : Prop where
  validateOnly : c.validateOnly = true
  oracle : c.oracle = false
  threshold : ∃ t, Setting.log.Asks (env Setting.log.key) t ∧
    c.threshold.rank = min t.rank (Threshold.upTo .error).rank
  output : Setting.output.Asks (env Setting.output.key) c.output
  program : Setting.program.Asks (env Setting.program.key) c.program
  timeout : Setting.timeout.Asks (env Setting.timeout.key) c.timeout
  loud : ∃ loud, ofEnvironment (env.unset .quiet) = .ok loud ∧ loud.quiet = false ∧
    c.output = loud.output ∧ c.program = loud.program ∧ c.timeout = loud.timeout

/-- **A quiet configuration is silent.**  It holds what is asked for but for the fields that silence
    settles, and the environment without the variable for silence is read as a configuration with
    the same path, program and time limit. -/
theorem silent_of_quiet {c : Config} (h : ofEnvironment env = .ok c) (hquiet : c.quiet = true) :
    c.Silent env := by
  obtain ⟨asked, hasked, rfl⟩ := hush_of_quiet h hquiet
  -- without the variable for silence, the same is asked for everywhere else
  have hloud : ({ asked with quiet := false } : Config).Holds (env.unset .quiet) := by
    intro s
    by_cases hs : s = .quiet
    · subst hs
      rw [env.unset_self]
      exact rfl
    · rw [Environment.unset_of_ne hs]
      cases s with
      | quiet => exact absurd rfl hs
      | log | output | validateOnly | noOracle | program | timeout => exact hasked _
  exact
    { validateOnly := rfl
      oracle := rfl
      threshold := ⟨asked.threshold, hasked .log, Threshold.rank_min _ _⟩
      output := hasked .output
      program := hasked .program
      timeout := hasked .timeout
      loud := ⟨_, ofEnvironment_eq_ok_iff.mpr ⟨_, hloud, rfl⟩, rfl, rfl, rfl, rfl⟩ }

/-- **Configurations are read in a fixed order, and field by field.**  Reading fails exactly if one
    of five variables is malformed, and tells the first of them in their order, whatever all others
    hold.  A configuration that is not quiet holds in each field what the field's own variable asks
    for and nothing else can change; empty texts for the path and the program ask for what is asked
    for without them, and there are no other variables.  A quiet one is silent, and the variables
    for its path, its program and its time limit are heard as if it were not. -/
theorem ofEnvironment_exact (env : Environment) :
    (∀ e, ofEnvironment env = .error e ↔ ∃ front s back text,
      [Setting.log, .validateOnly, .noOracle, .timeout, .quiet] = front ++ s :: back ∧
      (∀ t ∈ front, ¬ t.Malformed env) ∧ env s.key = some text ∧ (∀ x, ¬ s.Reads text x) ∧
      e = s.fault text ∧ e.message = "bad configuration: " ++ s.key ++ ": " ++ e.complaint) ∧
    ((∃ e, ofEnvironment env = .error e) ↔
      ∃ s ∈ [Setting.log, .validateOnly, .noOracle, .timeout, .quiet], s.Malformed env) ∧
    (∀ c, ofEnvironment env = .ok c → c.quiet = false →
      ∀ s : Setting, s.Asks (env s.key) (c.value s)) ∧
    (∀ env' c c', ofEnvironment env = .ok c → ofEnvironment env' = .ok c' →
      c.quiet = false → c'.quiet = false →
      (∀ s : Setting, env s.key = env' s.key → c.value s = c'.value s) ∧
      ∀ changed : Setting, (∀ key, key ≠ changed.key → env key = env' key) →
        ∀ s, s ≠ changed → c.value s = c'.value s) ∧
    (∀ s, s = .output ∨ s = .program → env s.key = some "" →
      ofEnvironment env = ofEnvironment (env.unset s)) ∧
    (∀ env', (∀ s : Setting, env s.key = env' s.key) → ofEnvironment env = ofEnvironment env') ∧
    (∀ c, ofEnvironment env = .ok c →
      (c.quiet = true ↔ Setting.quiet.Asks (env Setting.quiet.key) true)) ∧
    (∀ c, ofEnvironment env = .ok c → c.quiet = true → c.Silent env) := by
  -- without silence a field is settled by its own variable, whatever else the environments hold
  have hfield : ∀ env' c c', ofEnvironment env = .ok c → ofEnvironment env' = .ok c' →
      c.quiet = false → c'.quiet = false →
      ∀ s : Setting, env s.key = env' s.key → c.value s = c'.value s := by
    intro env' c c' hc hc' hloud hloud' s hs
    have hasks := holds_of_loud hc hloud s
    rw [hs] at hasks
    exact hasks.unique (holds_of_loud hc' hloud' s)
  refine ⟨fun e => ?_, ?_, fun c => holds_of_loud, fun env' c c' hc hc' hloud hloud' => ?_,
    fun s => ofEnvironment_empty, fun env' h => ?_, fun c hc => ?_, fun c => silent_of_quiet⟩
  · rw [ofEnvironment_eq_error_iff, firstFault_iff]
    constructor
    · rintro ⟨front, s, back, text, hsplit, hfront, htext, hnone, rfl⟩
      have hmessage : (s.fault text).message
          = "bad configuration: " ++ (s.fault text).setting.key ++ ": "
            ++ (s.fault text).complaint := rfl
      rw [Setting.setting_fault] at hmessage
      exact ⟨front, s, back, text, hsplit, hfront, htext, hnone, rfl, hmessage⟩
    · rintro ⟨front, s, back, text, hsplit, hfront, htext, hnone, he, -⟩
      exact ⟨front, s, back, text, hsplit, hfront, htext, hnone, he⟩
  · simp only [ofEnvironment_eq_error_iff]
    exact exists_firstFault_iff
  · refine ⟨hfield env' c c' hc hc' hloud hloud', fun changed hchanged s hs => ?_⟩
    refine hfield env' c c' hc hc' hloud hloud' s (hchanged s.key fun hkey => ?_)
    exact hs (Setting.key_injective hkey)
  · exact ofEnvironment_congr (fun s _ => h s) fun s x => by rw [h s]
  · -- silence settles other fields, but not the one that it is read from
    obtain ⟨asked, hasked, rfl⟩ := holds_of_ofEnvironment hc
    rw [quiet_settled]
    have hquiet := hasked .quiet
    exact ⟨fun h => h ▸ hquiet, fun h => hquiet.unique h⟩

/-- Asking for silence does not hide a number that is none. -/
example : ofEnvironment (fun key =>
    if key = "WASM_FIXTURES_QUIET" then some " Yes "
    else if key = "WAT2WASM_TIMEOUT_MS" then some "1s" else none) = .error (.notANumber "1s") := by
  cbv

end Config

end WasmBinary
