import JsonPatch.Proofs.CommandLine.Argument
import JsonPatch.Proofs.CommandLine.Result
import JsonPatch.Proofs.Session.Line

/-! # What a command reports

A command that is not stopped reports, and the report is a whole one.  The status is 0 exactly if
the library gives what is asked for, and then that is what is printed or written (`report_apply` up
to `report_check`).  Otherwise nothing is printed or written, and after the lines of the log there
is one message of the program (`IsFailure`).  `run_reports` puts this together with what stops the
program. -/

namespace JsonPatch.CommandLine

open Session (starting)

variable {c : Console}

/-! ### Lines of the log -/

/-- What a message of the program starts with. -/
def mark : String := "jsontools: "

/-- No line of the log is taken for a message of the program. -/
theorem not_mark_of_isTold {e : Log.Entry} (h : e.IsTold) :
    ¬ mark.toList <+: e.message.toList := by
  rintro ⟨rest, hrest⟩
  have hmark : e.message.toList.head? = some 'j' := by
    rw [← hrest]
    rfl
  rcases h.head? with hbrace | hword
  · cases hbrace.symm.trans hmark
  · cases hword.symm.trans hmark

theorem isTold_runCommand {s : Session} {command : Command} {e : Log.Entry}
    (h : e ∈ (runCommand c s command).entries) : e.IsTold := by
  cases command with
  | apply patch document predicates output =>
      unfold runCommand runApply at h
      dsimp only at h
      split at h
      · cases h
      · split at h
        · cases h
        · split at h
          · exact Session.isTold_run h
          · exact Session.isTold_run h
  | pointer path document =>
      unfold runCommand runPointer at h
      dsimp only at h
      split at h
      · cases h
      · split at h
        · cases h
        · split at h <;> cases h
  | check predicate document =>
      unfold runCommand runCheck at h
      dsimp only at h
      split at h
      · cases h
      · split at h
        · cases h
        · split at h <;> exact Patch.isTold_notes h

/-! ### Reports -/

/-- The log level is known: the one that is given, or else that of the environment. -/
def KnowsLevel (c : Console) (i : Invocation) : Prop :=
  ∃ threshold, Log.threshold i.givenLevel (Settings.ofEnvironment c.environment) = .ok threshold

/-- The report of a failure. Nothing is printed or written, and after the lines of the log there is
one message of the program. -/
structure IsFailure (r : Report) : Prop where
  status : r.status = 1
  output : r.output = ""
  written : r.written = none
  errors : ∃ (log : List String) (e : CommandError),
    (∀ line ∈ log, ¬ mark.toList <+: line.toList) ∧
    r.errors = String.join (log.map (· ++ "\n")) ++ mark ++ e.message ++ "\n"

/-- The messages of the log that are recorded at a threshold. -/
def recorded (threshold : Int) (entries : List Log.Entry) : List String :=
  (entries.filter fun e => Log.isRecorded threshold e.level).map (·.message)

theorem logText_eq (threshold : Int) (entries : List Log.Entry) :
    logText threshold entries = String.join ((recorded threshold entries).map (· ++ "\n")) := by
  rw [recorded, List.map_map]
  rfl

theorem isFailure_of_failed {log : List String} {e : CommandError} {r : Report}
    (hlog : ∀ line ∈ log, ¬ mark.toList <+: line.toList)
    (h : failed (String.join (log.map (· ++ "\n"))) e = .report r) : IsFailure r := by
  have hr : r.status = 1 ∧ r.output = "" ∧ r.written = none ∧
      r.errors = String.join (log.map (· ++ "\n")) ++ mark ++ e.message ++ "\n" := by
    unfold failed at h
    dsimp only at h
    split at h
    · split_ifs at h
      cases h
      exact ⟨rfl, rfl, rfl, rfl⟩
    · cases h
      exact ⟨rfl, rfl, rfl, rfl⟩
  obtain ⟨hstatus, houtput, hwritten, herrors⟩ := hr
  exact ⟨hstatus, houtput, hwritten, log, e, hlog, herrors⟩

/-- The outcome of an invocation whose log level is known. -/
def outcome (c : Console) (i : Invocation) : Outcome :=
  runCommand c (starting c.environment) i.command

theorem run_eq (c : Console) (i : Invocation) : run c i =
    match Log.threshold i.givenLevel (Settings.ofEnvironment c.environment) with
    | .error f => failed "" (.fault f)
    | .ok threshold =>
      match (outcome c i).result with
      | .ok r => .report { r with errors := logText threshold (outcome c i).entries }
      | .error e => failed (logText threshold (outcome c i).entries) e := by
  have hsettings : (starting c.environment).currentSettings.1 =
      Settings.ofEnvironment c.environment := rfl
  rw [← hsettings]
  rfl

/-- An invocation is stopped by its outcome, if its log level is known. -/
theorem run_stopped_iff {i : Invocation} {f : Fault} :
    (∃ log, run c i = .stopped f log) ↔ KnowsLevel c i ∧ Halts c i.command f := by
  rw [← runCommand_stops, run_eq, KnowsLevel]
  change _ ↔ _ ∧ (outcome c i).Stops f
  cases ht : Log.threshold i.givenLevel (Settings.ofEnvironment c.environment) with
  | error g =>
      dsimp only
      simp only [failed_eq_stopped, CommandError.stops_fault]
      constructor
      · rintro ⟨log, ⟨rfl, hf⟩, -⟩
        rw [threshold_reported ht] at hf
        cases hf
      · rintro ⟨⟨threshold, hthreshold⟩, -⟩
        cases hthreshold
  | ok threshold =>
      dsimp only
      unfold Outcome.Stops
      cases hr : (outcome c i).result with
      | ok r => simp
      | error e => simp [failed_eq_stopped]

/-- A report is that of a failure, or it is made of what a command with a known log level comes
to. -/
theorem report_cases {i : Invocation} {r : Report} (h : run c i = .report r) :
    (IsFailure r ∧ (KnowsLevel c i → ∃ e, (outcome c i).result = .error e)) ∨
      KnowsLevel c i ∧ ∃ r' errors, (outcome c i).result = .ok r' ∧ r = { r' with errors } := by
  rw [run_eq] at h
  cases ht : Log.threshold i.givenLevel (Settings.ofEnvironment c.environment) with
  | error g =>
      rw [ht] at h
      have hlog : ∀ line ∈ ([] : List String), ¬ mark.toList <+: line.toList := by simp
      refine .inl ⟨isFailure_of_failed hlog h, ?_⟩
      rintro ⟨threshold, hthreshold⟩
      cases ht.symm.trans hthreshold
  | ok threshold =>
      rw [ht] at h
      dsimp only at h
      cases hr : (outcome c i).result with
      | ok r' =>
          rw [hr] at h
          exact .inr ⟨⟨threshold, ht⟩, r', _, rfl, (Ending.report.inj h).symm⟩
      | error e =>
          rw [hr] at h
          dsimp only at h
          rw [logText_eq] at h
          refine .inl ⟨isFailure_of_failed (fun line hline => ?_) h, fun _ => ⟨e, rfl⟩⟩
          obtain ⟨entry, hentry, rfl⟩ := List.mem_map.mp hline
          exact not_mark_of_isTold (isTold_runCommand (List.mem_filter.mp hentry).1)

section

variable {i : Invocation} {r : Report} (h : run c i = .report r)
include h

/-- A patch is applied and the result goes where it should, or something is in the way and the
report is that of a failure. -/
theorem report_apply {patch document output : Argument} {predicates : Bool}
    (hcommand : i.command = .apply patch document predicates output) :
    (IsFailure r ∧ ¬ (KnowsLevel c i ∧ (∃ v, Applies c patch document predicates v) ∧
      IsWritable c output)) ∨
    KnowsLevel c i ∧ IsWritable c output ∧ r.status = 0 ∧
      ∃ v, Applies c patch document predicates v ∧ Lands c output (printed v) r := by
  have hresult : ∀ r', (outcome c i).result = .ok r' ↔
      ∃ v, Applies c patch document predicates v ∧ delivered c output v = .ok r' := by
    intro r'
    rw [outcome, hcommand]
    exact runApply_eq_ok
  rcases report_cases h with ⟨hfailure, herror⟩ | ⟨hknown, r', errors, hok, rfl⟩
  · refine .inl ⟨hfailure, ?_⟩
    rintro ⟨hknown, ⟨v, hv⟩, hwritable⟩
    obtain ⟨e, he⟩ := herror hknown
    obtain ⟨r', hdelivered⟩ := (isWritable_iff (v := v)).mp hwritable
    cases he.symm.trans ((hresult r').mpr ⟨v, hv, hdelivered⟩)
  · obtain ⟨v, hv, hdelivered⟩ := (hresult r').mp hok
    obtain ⟨hzero, hlands⟩ := lands_of_delivered hdelivered
    exact .inr ⟨hknown, isWritable_iff.mpr ⟨r', hdelivered⟩, hzero, v, hv, hlands.printed,
      hlands.written⟩

/-- A pointer is followed and the value is printed, or the report is that of a failure. -/
theorem report_pointer {path document : Argument} (hcommand : i.command = .pointer path document) :
    (IsFailure r ∧ ¬ (KnowsLevel c i ∧ ∃ v, Finds c path document v)) ∨
    KnowsLevel c i ∧ r.status = 0 ∧
      ∃ v, Finds c path document v ∧ r.output = printed v ∧ r.written = none := by
  have hresult : ∀ r', (outcome c i).result = .ok r' ↔
      ∃ v, Finds c path document v ∧ r' = { status := 0, output := printed v } := by
    intro r'
    rw [outcome, hcommand]
    exact runPointer_eq_ok
  rcases report_cases h with ⟨hfailure, herror⟩ | ⟨hknown, r', errors, hok, rfl⟩
  · refine .inl ⟨hfailure, ?_⟩
    rintro ⟨hknown, v, hv⟩
    obtain ⟨e, he⟩ := herror hknown
    cases he.symm.trans ((hresult _).mpr ⟨v, hv, rfl⟩)
  · obtain ⟨v, hv, rfl⟩ := (hresult r').mp hok
    exact .inr ⟨hknown, rfl, v, hv, rfl, rfl⟩

/-- A predicate is evaluated and its answer is printed, or the report is that of a failure. -/
theorem report_check {predicate document : Argument}
    (hcommand : i.command = .check predicate document) :
    (IsFailure r ∧ ¬ (KnowsLevel c i ∧ ∃ b, Answers c predicate document b)) ∨
    KnowsLevel c i ∧ ∃ b, Answers c predicate document b ∧ r.status = (answered b).status ∧
      r.output = (answered b).output ∧ r.written = none := by
  have hresult : ∀ r', (outcome c i).result = .ok r' ↔
      ∃ b, Answers c predicate document b ∧ r' = answered b := by
    intro r'
    rw [outcome, hcommand]
    exact runCheck_eq_ok
  rcases report_cases h with ⟨hfailure, herror⟩ | ⟨hknown, r', errors, hok, rfl⟩
  · refine .inl ⟨hfailure, ?_⟩
    rintro ⟨hknown, b, hb⟩
    obtain ⟨e, he⟩ := herror hknown
    cases he.symm.trans ((hresult _).mpr ⟨b, hb, rfl⟩)
  · obtain ⟨b, hb, rfl⟩ := (hresult r').mp hok
    refine .inr ⟨hknown, b, hb, rfl, rfl, ?_⟩
    cases b <;> rfl

end

theorem IsFailure.status_ne {r : Report} (h : IsFailure r) : r.status ≠ 0 := by
  rw [h.status]
  decide

/-- Evaluation has one answer. -/
theorem Answers.unique {predicate document : Argument} {a b : Bool}
    (ha : Answers c predicate document a) (hb : Answers c predicate document b) : a = b := by
  obtain ⟨d, doc, hd, hdoc, ha⟩ := ha
  obtain ⟨d', doc', hd', hdoc', hb⟩ := hb
  cases hd.symm.trans hd'
  cases hdoc.symm.trans hdoc'
  exact Except.ok.inj (ha.symm.trans hb)

/-- What the report of an invocation says. -/
structure Reports (c : Console) (i : Invocation) (r : Report) : Prop where
  status : r.status = 0 ∨ r.status = 1
  /-- When a patch has been applied, and where the result goes. -/
  applied : ∀ patch document predicates output,
    i.command = .apply patch document predicates output →
      (r.status = 0 ↔ KnowsLevel c i ∧ (∃ v, Applies c patch document predicates v) ∧
        IsWritable c output) ∧
      (r.status = 0 → ∃ v, Applies c patch document predicates v ∧ Lands c output (printed v) r)
  /-- When a pointer has been followed, and what is printed. -/
  followed : ∀ path document, i.command = .pointer path document →
    (r.status = 0 ↔ KnowsLevel c i ∧ ∃ v, Finds c path document v) ∧
    (r.status = 0 → ∃ v, Finds c path document v ∧ r.output = printed v ∧ r.written = none)
  /-- What a predicate has been evaluated to, and what is printed. -/
  checked : ∀ predicate document, i.command = .check predicate document →
    (r.status = 0 ↔ r.output = "true\n") ∧
    (r.status = 0 ↔ KnowsLevel c i ∧ Answers c predicate document true) ∧
    (r.status = 1 → r.output = "false\n" ∧ Answers c predicate document false ∨ IsFailure r)
  /-- If no predicate is evaluated, the status 1 is that of a failure. -/
  failed : r.status = 1 → (∀ predicate document, i.command ≠ .check predicate document) →
    IsFailure r

/-- If no predicate is evaluated, there is a status 0 or a failure. -/
theorem zero_or_failure {i : Invocation} {r : Report} (h : run c i = .report r)
    (hnot : ∀ predicate document, i.command ≠ .check predicate document) :
    r.status = 0 ∨ IsFailure r := by
  cases hcommand : i.command with
  | apply =>
      rcases report_apply h hcommand with ⟨hfailure, -⟩ | ⟨-, -, hzero, -⟩
      · exact .inr hfailure
      · exact .inl hzero
  | pointer =>
      rcases report_pointer h hcommand with ⟨hfailure, -⟩ | ⟨-, hzero, -⟩
      · exact .inr hfailure
      · exact .inl hzero
  | check predicate document => exact absurd hcommand (hnot predicate document)

theorem reports_of_run {i : Invocation} {r : Report} (h : run c i = .report r) :
    Reports c i r where
  status := by
    by_cases hnot : ∀ predicate document, i.command ≠ .check predicate document
    · exact (zero_or_failure h hnot).imp_right IsFailure.status
    · push Not at hnot
      obtain ⟨predicate, document, hcommand⟩ := hnot
      rcases report_check h hcommand with ⟨hfailure, -⟩ | ⟨-, b, -, hstatus, -⟩
      · exact .inr hfailure.status
      · rw [hstatus]
        cases b <;> decide
  applied patch document predicates output hcommand := by
    rcases report_apply h hcommand with ⟨hfailure, hnot⟩ | ⟨hknown, hwritable, hzero, hlands⟩
    · exact ⟨iff_of_false hfailure.status_ne hnot, fun hzero => absurd hzero hfailure.status_ne⟩
    · have ⟨v, hv, _⟩ := hlands
      exact ⟨iff_of_true hzero ⟨hknown, ⟨v, hv⟩, hwritable⟩, fun _ => hlands⟩
  followed path document hcommand := by
    rcases report_pointer h hcommand with ⟨hfailure, hnot⟩ | ⟨hknown, hzero, hfinds⟩
    · exact ⟨iff_of_false hfailure.status_ne hnot, fun hzero => absurd hzero hfailure.status_ne⟩
    · have ⟨v, hv, _⟩ := hfinds
      exact ⟨iff_of_true hzero ⟨hknown, v, hv⟩, fun _ => hfinds⟩
  checked predicate document hcommand := by
    rcases report_check h hcommand with ⟨hfailure, hnot⟩ | ⟨hknown, b, hb, hstatus, houtput, -⟩
    · have hprinted : r.output ≠ "true\n" := by
        rw [hfailure.output]
        decide
      exact ⟨iff_of_false hfailure.status_ne hprinted,
        iff_of_false hfailure.status_ne fun ⟨hknown, htrue⟩ => hnot ⟨hknown, true, htrue⟩,
        fun _ => .inr hfailure⟩
    · rw [hstatus, houtput]
      cases b with
      | true =>
          exact ⟨iff_of_true rfl rfl, iff_of_true rfl ⟨hknown, hb⟩, fun hone => by cases hone⟩
      | false =>
          have hfalse : ¬ (KnowsLevel c i ∧ Answers c predicate document true) := by
            rintro ⟨-, htrue⟩
            cases hb.unique htrue
          exact ⟨by decide, iff_of_false (by decide) hfalse, fun _ => .inl ⟨rfl, hb⟩⟩
  failed hone hnot := by
    refine (zero_or_failure h hnot).resolve_left fun hzero => ?_
    cases hone.symm.trans hzero

/-- The log level that stands if nothing asks for one. -/
theorem threshold_empty : Log.threshold .null (Settings.ofEnvironment []) = .ok 20 :=
  rfl

/-- A console with a document on standard input. -/
def documentOnInput (input : String) : Console where
  environment := []
  input := input
  content := fun name => .error (.missing name)
  destination := fun name => .error (.missing name)

/-- The JSON text of a descriptor with a pattern that asks for too many repetitions. -/
def hugeRepeatText : String :=
  "\x7b\"op\": \"matches\", \"path\": \"\", \"value\": \"a\x7b4294967295\x7d\"\x7d"

end JsonPatch.CommandLine
