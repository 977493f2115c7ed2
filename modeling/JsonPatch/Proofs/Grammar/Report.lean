import JsonPatch.Patch.Basic
import JsonPatch.Proofs.Grammar.Schema
import JsonPatch.Proofs.Json.Writable
import JsonPatch.Proofs.Pointer.Keys

/-! # The report on a patch document

The report has one entry for each flaw of an operation, and the entry starts with the path of the
offending value (`FlawAt.message_eq`).  So a document is accepted if all of its operations are well
formed, and then it also has the shape that is asked for without the schema
(`violations_report_flaws`).  An entry shows the offending value, and one that cannot be shown
keeps the whole report from being given (`reports_hugeNumber`). -/

namespace JsonPatch.Grammar

/-! ### Paths -/

theorem OperationAt.isPlain {ops : List Value} {place : List Key} {v : Value}
    (h : OperationAt ops place v) (hlow : ∀ i, .index i ∈ place → i < 10 ^ Value.indexDigitLimit) :
    ∀ k ∈ place, k.IsPlain := by
  induction h with
  | element _ =>
      intro k hk
      obtain rfl := List.mem_singleton.mp hk
      exact hlow _ hk
  | @nested ops items i members place v _ _ _ ih =>
      have hname : (Key.member "apply").IsPlain := by
        rw [Key.member_isPlain]
        decide
      have hindex : (Key.index i).IsPlain := hlow i List.mem_cons_self
      have hrest := ih fun j hj => hlow j (List.mem_cons_of_mem _ (List.mem_cons_of_mem _ hj))
      simp only [List.forall_mem_cons]
      exact ⟨hindex, hname, hrest⟩

theorem OperationAt.ne_nil {ops : List Value} {place : List Key} {v : Value}
    (h : OperationAt ops place v) : place ≠ [] := by
  cases h <;> simp

theorem memberKinds_isPlain : ∀ m ∈ ("op", Kind.string) :: memberKinds,
    (Key.member m.1).IsPlain := by
  simp only [Key.member_isPlain]
  decide

theorem Flaw.isPlain {v : Value} {way : List Key} {found : Value} {problem : Problem}
    (h : Flaw v way found problem) : ∀ k ∈ way, k.IsPlain := by
  have hop : (Key.member "op").IsPlain := memberKinds_isPlain _ List.mem_cons_self
  cases h with
  | notObject _ => simp
  | missingName _ => simp
  | nameNotText _ _ => simpa using hop
  | emptyName _ => simpa using hop
  | notOfKind listed _ _ => simpa using memberKinds_isPlain _ (List.mem_cons_of_mem _ listed)

/-- The entry of a violation is the path of its place and then the problem. -/
theorem Violation.message_eq {x : Violation} (hplain : ∀ k ∈ x.place, k.IsPlain)
    (hne : x.place ≠ []) :
    x.message = x.problem.message.map fun text => Segment.toPath x.keyTexts ++ ": " ++ text := by
  rw [Violation.message, Violation.keyTexts, ← Pointer.toPath_keyTexts hplain hne]

/-! ### Acceptance -/

theorem validate_eq_ok {whole : Bool} {ops : Value} :
    Patch.validate whole ops = .ok ops ↔ check whole ops = [] := by
  unfold Patch.validate
  cases check whole ops with
  | nil => exact iff_of_true rfl rfl
  | cons x rest =>
      dsimp only
      split
      · exact iff_of_false nofun nofun
      · exact iff_of_false nofun nofun

/-- A document is refused with a fault if there is no report on it. -/
theorem validate_eq_fault {whole : Bool} {ops : Value} {f : Fault} :
    Patch.validate whole ops = .error (.fault f) ↔ reports (check whole ops) = .error f := by
  unfold Patch.validate
  cases hc : check whole ops with
  | nil => exact iff_of_false nofun nofun
  | cons x rest =>
      dsimp only
      cases reports (x :: rest) with
      | ok entries => exact iff_of_false nofun nofun
      | error f' => simp

theorem shapeViolationsFrom_eq_nil {ops : List Value} (h : ∀ v ∈ ops, WellFormed v) (i : Nat) :
    shapeViolationsFrom i ops = [] := by
  induction ops generalizing i with
  | nil => rfl
  | cons v rest ih =>
      rw [List.forall_mem_cons] at h
      obtain ⟨members, rfl, ⟨name, hname, -⟩, -⟩ := h.1
      have hshape : shapeViolation i (.object members) = [] := by
        unfold shapeViolation
        dsimp only
        rw [hname]
      rw [shapeViolationsFrom, hshape, ih h.2, List.append_nil]

theorem violations_eq_nil {ops : List Value} :
    violations (.array ops) = [] ↔ ∀ place v, OperationAt ops place v → WellFormed v := by
  rw [List.eq_nil_iff_forall_not_mem]
  simp only [mem_violations_iff, wellFormed_iff]
  constructor
  · intro h place v hv way found problem hflaw
    exact h ⟨place ++ way, problem⟩ ⟨place, way, found, ⟨v, hv, hflaw⟩, rfl⟩
  · rintro h x ⟨place, way, found, ⟨v, hv, hflaw⟩, -⟩
    exact h place v hv way found x.problem hflaw

theorem shapeViolations_eq_nil {ops : List Value} (h : violations (.array ops) = []) :
    shapeViolations (.array ops) = [] := by
  refine shapeViolationsFrom_eq_nil (fun v hv => ?_) 0
  obtain ⟨i, hi⟩ := List.mem_iff_getElem?.mp hv
  exact violations_eq_nil.mp h [.index i] v (.element hi)

theorem named_of_shape {ops : List Value} {i : Nat} (h : shapeViolationsFrom i ops = []) :
    ∃ ds : List Members, ops = ds.map .object ∧
      ∀ d ∈ ds, ∃ name, Members.find? "op" d = some (.string name) := by
  induction ops generalizing i with
  | nil => exact ⟨[], rfl, by simp⟩
  | cons v rest ih =>
      obtain ⟨hv, hrest⟩ := List.append_eq_nil_iff.mp h
      obtain ⟨ds, rfl, hds⟩ := ih hrest
      unfold shapeViolation at hv
      split at hv
      · rename_i d
        split at hv
        · rename_i name hname
          exact ⟨d :: ds, rfl, List.forall_mem_cons.mpr ⟨⟨name, hname⟩, hds⟩⟩
        · cases hv
      · cases hv

/-- An accepted document is an array of objects, and each of them has a text for a name. -/
theorem named_of_check {whole : Bool} {ops : Value} (h : check whole ops = []) :
    ∃ ds : List Members, ops = .array (ds.map .object) ∧
      ∀ d ∈ ds, ∃ name, Members.find? "op" d = some (.string name) := by
  have hshape : shapeViolations ops = [] := by
    cases whole with
    | false => exact h
    | true =>
        have hnone : ∀ x, x ∉ listViolations [] ops := fun x hx =>
          List.eq_nil_iff_forall_not_mem.mp h x (mem_violations.mpr hx)
        cases ops with
        | array items => exact shapeViolations_eq_nil h
        | _ => exact absurd List.mem_cons_self (hnone _)
  cases ops with
  | array items =>
      obtain ⟨ds, rfl, hds⟩ := named_of_shape hshape
      exact ⟨ds, rfl, hds⟩
  | _ => cases hshape

/-- The entry of a flaw starts with a path that resolves to the offending value. -/
theorem FlawAt.message_eq {ops : List Value} {place way : List Key} {found : Value}
    {problem : Problem} (h : FlawAt ops place way found problem)
    (hlow : ∀ i, .index i ∈ place → i < 10 ^ Value.indexDigitLimit) :
    ∃ path, Violation.message ⟨place ++ way, problem⟩ =
        problem.message.map (fun text => path ++ ": " ++ text) ∧
      resolve (.array ops) (.string path) = .ok found := by
  have hfound := h.at?
  obtain ⟨v, hv, hflaw⟩ := h
  have hplain : ∀ k ∈ place ++ way, k.IsPlain := by
    intro k hk
    rcases List.mem_append.mp hk with hk | hk
    · exact hv.isPlain hlow k hk
    · exact hflaw.isPlain k hk
  have hne : place ++ way ≠ [] := List.append_ne_nil_of_left_ne_nil hv.ne_nil way
  exact ⟨_, Violation.message_eq (x := ⟨place ++ way, problem⟩) hplain hne,
    Pointer.resolve_of_at? hplain hfound⟩

/-! ### Values that cannot be shown -/

theorem shapeViolationsFrom_show_nothing {items : List Value} {i : Nat} {x : Violation}
    (hx : x ∈ shapeViolationsFrom i items) (found : Value) (kind : Kind) :
    x.problem ≠ .notOfKind found kind := by
  induction items generalizing i with
  | nil => cases hx
  | cons v rest ih =>
      rcases List.mem_append.mp hx with hx | hx
      · unfold shapeViolation at hx
        split at hx
        · split at hx
          · cases hx
          · obtain rfl := List.mem_singleton.mp hx
            exact nofun
        · obtain rfl := List.mem_singleton.mp hx
          exact nofun
      · exact ih hx

/-- The violations of the shape show no values. -/
theorem shapeViolations_show_nothing {ops : Value} {x : Violation} (hx : x ∈ shapeViolations ops)
    (found : Value) (kind : Kind) : x.problem ≠ .notOfKind found kind := by
  unfold shapeViolations at hx
  split at hx
  · exact shapeViolationsFrom_show_nothing hx found kind
  · obtain rfl := List.mem_singleton.mp hx
    exact nofun

/-- There is a flaw of a value that the report shows but that cannot be shown. -/
def HasUnshownFlaw (ops : List Value) : Prop :=
  ∃ place way found kind, FlawAt ops place way found (.notOfKind found kind) ∧
    Json.isWritable found = false

/-- The value that a problem shows is the offending one. -/
theorem Flaw.shows {v found w : Value} {way : List Key} {kind : Kind}
    (h : Flaw v way found (.notOfKind w kind)) : w = found := by
  cases h <;> rfl

/-- A violation has a report unless its problem is a value that cannot be shown. -/
theorem Violation.message_cases (x : Violation) :
    (∃ entry, x.message = .ok entry) ∨
      (∃ found kind, x.problem = .notOfKind found kind ∧ Json.isWritable found = false) ∧
        x.message = .error .hugeInteger := by
  unfold message
  cases x.problem with
  | notOfKind found kind =>
      cases hfound : Json.isWritable found with
      | true =>
          rw [Problem.message, Value.shown_of_isWritable hfound]
          exact .inl ⟨_, rfl⟩
      | false =>
          rw [Problem.message, Value.shown_of_not_isWritable hfound]
          exact .inr ⟨⟨found, kind, rfl, hfound⟩, rfl⟩
  | _ => exact .inl ⟨_, rfl⟩

theorem Violation.message_notOfKind {place : List Key} {found : Value} {kind : Kind}
    (h : Json.isWritable found = false) :
    message ⟨place, .notOfKind found kind⟩ = .error .hugeInteger := by
  rw [message, Problem.message, Value.shown_of_not_isWritable h]
  rfl

/-- Violations that all have a report are reported one by one. -/
theorem reports_eq_ok {violations : List Violation}
    (h : ∀ x ∈ violations, ∃ entry, x.message = .ok entry) :
    ∃ entries, reports violations = .ok entries ∧
      List.Forall₂ (fun x entry => x.message = .ok entry) violations entries := by
  induction violations with
  | nil => exact ⟨[], rfl, .nil⟩
  | cons x rest ih =>
      rw [List.forall_mem_cons] at h
      obtain ⟨entry, hentry⟩ := h.1
      obtain ⟨entries, hentries, hrest⟩ := ih h.2
      refine ⟨entry :: entries, ?_, .cons hentry hrest⟩
      unfold reports at hentries ⊢
      rw [List.mapM_cons, hentry, hentries]
      rfl

/-- One violation without a report is enough for there to be none. -/
theorem reports_eq_error {violations : List Violation} {x : Violation} (hx : x ∈ violations)
    (h : x.message = .error .hugeInteger) : reports violations = .error .hugeInteger := by
  induction violations with
  | nil => cases hx
  | cons y rest ih =>
      unfold reports at ih ⊢
      rw [List.mapM_cons]
      rcases y.message_cases with ⟨entry, hentry⟩ | ⟨-, hentry⟩
      · rcases List.mem_cons.mp hx with rfl | hx
        · rw [h] at hentry
          cases hentry
        · rw [hentry, ih hx]
          rfl
      · rw [hentry]
        rfl

theorem eq_hugeInteger_of_reports {violations : List Violation} {f : Fault}
    (h : reports violations = .error f) : f = .hugeInteger := by
  by_cases hall : ∀ x ∈ violations, ∃ entry, x.message = .ok entry
  · obtain ⟨entries, hentries, -⟩ := reports_eq_ok hall
    rw [hentries] at h
    cases h
  · push Not at hall
    obtain ⟨x, hx, hnone⟩ := hall
    obtain ⟨-, hmessage⟩ := x.message_cases.resolve_left (not_exists.mpr hnone)
    rw [reports_eq_error hx hmessage] at h
    exact (Except.error.inj h).symm

/-- Whether there is a report on a list of operations: there is none if a flaw is a value that
cannot be shown, and nothing else prevents it. -/
theorem reports_violations (ops : List Value) :
    (HasUnshownFlaw ops → reports (violations (.array ops)) = .error .hugeInteger) ∧
    (¬ HasUnshownFlaw ops → ∃ entries, reports (violations (.array ops)) = .ok entries ∧
      List.Forall₂ (fun x entry => x.message = .ok entry) (violations (.array ops)) entries) := by
  constructor
  · rintro ⟨place, way, found, kind, hflaw, hfound⟩
    have hx : ⟨place ++ way, .notOfKind found kind⟩ ∈ violations (.array ops) :=
      mem_violations_iff.mpr ⟨place, way, found, hflaw, rfl⟩
    exact reports_eq_error hx (Violation.message_notOfKind hfound)
  · intro hshown
    refine reports_eq_ok fun x hx => ?_
    rcases x.message_cases with hentry | ⟨⟨found, kind, hproblem, hfound⟩, -⟩
    · exact hentry
    · obtain ⟨place, way, found', ⟨v, hv, hflaw⟩, -⟩ := mem_violations_iff.mp hx
      rw [hproblem] at hflaw
      obtain rfl := hflaw.shows
      exact absurd ⟨place, way, found, kind, ⟨v, hv, hflaw⟩, hfound⟩ hshown

/-- What a report shows is a part of the document. -/
theorem exists_at?_of_mem_check {whole : Bool} {ops : Value} {x : Violation}
    (hx : x ∈ check whole ops) {found : Value} {kind : Kind}
    (hproblem : x.problem = .notOfKind found kind) : ∃ place, ops.at? place = some found := by
  cases whole with
  | true =>
      cases ops with
      | array items =>
          obtain ⟨place, way, found', ⟨v, hv, hflaw⟩, -⟩ := mem_violations_iff.mp hx
          rw [hproblem] at hflaw
          obtain rfl := hflaw.shows
          exact ⟨_, FlawAt.at? ⟨v, hv, hflaw⟩⟩
      | _ =>
          obtain rfl := List.mem_singleton.mp (mem_violations.mp hx)
          cases hproblem
          exact ⟨[], rfl⟩
  | false => exact absurd hproblem (shapeViolations_show_nothing hx found kind)

/-- There is a report on every document that can be written. -/
theorem exists_reports {ops : Value} (h : Json.isWritable ops = true) (whole : Bool) :
    ∃ entries, reports (check whole ops) = .ok entries := by
  have hentries : ∀ x ∈ check whole ops, ∃ entry, x.message = .ok entry := by
    intro x hx
    rcases x.message_cases with hentry | ⟨⟨found, kind, hproblem, hfound⟩, -⟩
    · exact hentry
    · obtain ⟨place, hplace⟩ := exists_at?_of_mem_check hx hproblem
      rw [Json.isWritable_at? h hplace] at hfound
      cases hfound
  obtain ⟨entries, hentries, -⟩ := reports_eq_ok hentries
  exact ⟨entries, hentries⟩

/-- The checker finds where a list of operations fails the schema of the grammar.  It finds the flaws
of all operations at every depth and nothing else, no two of them at one place, and so each of them
once.  If all values that the report shows can be shown, it has one entry for each flaw, and the
entry starts with a path that resolves to the offending value; if one of them cannot, there is no
report but a fault, also when a patch is to be built.  A list is accepted if all operations are well
formed, and then it has the shape that is asked for without the schema. -/
theorem violations_report_flaws (ops : List Value) :
    (∀ way reason, Schema.Fails schema schema (.array ops) way reason ↔
      ∃ x ∈ violations (.array ops), x.place = way ∧ x.problem.message = reason) ∧
    (∀ x, x ∈ violations (.array ops) ↔
      ∃ place way found, FlawAt ops place way found x.problem ∧ x.place = place ++ way) ∧
    ((violations (.array ops)).map (·.place)).Nodup ∧
    (∀ place way found problem place' way' found' problem',
      FlawAt ops place way found problem → FlawAt ops place' way' found' problem' →
        place ++ way = place' ++ way' →
          place = place' ∧ way = way' ∧ found = found' ∧ problem = problem') ∧
    (¬ HasUnshownFlaw ops → ∃ entries, reports (violations (.array ops)) = .ok entries ∧
      List.Forall₂ (fun x entry => x.message = .ok entry) (violations (.array ops)) entries) ∧
    (HasUnshownFlaw ops → reports (violations (.array ops)) = .error .hugeInteger ∧
      Patch.validate true (.array ops) = .error (.fault .hugeInteger)) ∧
    (∀ place way found problem, FlawAt ops place way found problem →
      (∀ i, .index i ∈ place → i < 10 ^ Value.indexDigitLimit) →
        ∃ path, Violation.message ⟨place ++ way, problem⟩ =
            problem.message.map (fun text => path ++ ": " ++ text) ∧
          resolve (.array ops) (.string path) = .ok found) ∧
    (Patch.validate true (.array ops) = .ok (.array ops) ↔
      ∀ place v, OperationAt ops place v → WellFormed v) ∧
    (Patch.validate true (.array ops) = .ok (.array ops) →
      Patch.validate false (.array ops) = .ok (.array ops)) := by
  have haccept : Patch.validate true (.array ops) = .ok (.array ops) ↔
      violations (.array ops) = [] := validate_eq_ok
  obtain ⟨hunshown, hshown⟩ := reports_violations ops
  refine ⟨fun way reason => fails_schema_iff, fun x => mem_violations_iff, nodup_violations ops,
    ?_, hshown, ?_, ?_, haccept.trans violations_eq_nil, ?_⟩
  · intro place way found problem place' way' found' problem' h h' heq
    exact h.inj h' heq
  · intro h
    exact ⟨hunshown h, validate_eq_fault.mpr (hunshown h)⟩
  · intro place way found problem h hlow
    exact h.message_eq hlow
  · intro h
    exact validate_eq_ok.mpr (shapeViolations_eq_nil (haccept.mp h))

/-- An operation under `apply` whose path is a number. -/
def nestedNumber : List Value :=
  [.object [("op", .string "or"), ("apply", .array
    [.object [("op", .string "defined"), ("path", .number (.int 7))]])]]

/-- The entry on that operation starts with a path to the number. -/
theorem violations_nestedNumber :
    reports (violations (.array nestedNumber)) =
        .ok ["/0/apply/0/path: 7 is not of type 'string'"] ∧
      resolve (.array nestedNumber) (.string "/0/apply/0/path") = .ok (.number (.int 7)) := by
  let x : Violation := ⟨[.index 0, .member "apply", .index 0] ++ [.member "path"],
    .notOfKind (.number (.int 7)) .string⟩
  have hflaw : FlawAt nestedNumber [.index 0, .member "apply", .index 0] [.member "path"]
      (.number (.int 7)) x.problem :=
    ⟨_, .nested rfl rfl (.element rfl), .notOfKind (by simp [memberKinds]) rfl (by decide)⟩
  have hlow : ∀ i, Key.index i ∈ [.index 0, .member "apply", .index 0] →
      i < 10 ^ Value.indexDigitLimit := by
    intro i hi
    obtain rfl : i = 0 := by simpa using hi
    exact Nat.pow_pos (by decide)
  obtain ⟨-, -, -, -, -, -, hmessage, -, -⟩ := violations_report_flaws nestedNumber
  obtain ⟨path, hpath, hresolve⟩ := hmessage _ _ _ _ hflaw hlow
  have hentries : violations (.array nestedNumber) = [x] := List.mergeSort_singleton x
  have hseven : Json.isWritable (.number (.int 7)) = true := by
    decide +kernel
  have hproblem : x.problem.message = .ok "7 is not of type 'string'" := by
    rw [Problem.message, Value.shown_of_isWritable hseven]
    exact congrArg Except.ok (by decide)
  have htext : x.message = .ok ("/0/apply/0/path" ++ ": " ++ "7 is not of type 'string'") := by
    rw [Violation.message, hproblem]
    exact congrArg Except.ok (by decide)
  obtain rfl : path = "/0/apply/0/path" := by
    rw [htext, hproblem] at hpath
    have h := Except.ok.inj hpath
    exact ((String.append_left_inj _).mp ((String.append_left_inj _).mp h)).symm
  refine ⟨?_, hresolve⟩
  unfold reports
  rw [hentries, List.mapM_cons, htext]
  exact congrArg Except.ok (by decide)

/-- The only element of a list is a number with too many digits to be shown. It is found to be no
object, but there is no entry on it. -/
theorem reports_hugeNumber :
    violations (.array [Json.hugeNumber]) = [⟨[.index 0], .notOfKind Json.hugeNumber .object⟩] ∧
      reports (violations (.array [Json.hugeNumber])) = .error .hugeInteger := by
  let x : Violation := ⟨[.index 0], .notOfKind Json.hugeNumber .object⟩
  have hfound : violations (.array [Json.hugeNumber]) = [x] := List.mergeSort_singleton x
  refine ⟨hfound, reports_eq_error (x := x) ?_
    (Violation.message_notOfKind Json.isWritable_hugeNumber)⟩
  rw [hfound]
  exact List.mem_cons_self

end JsonPatch.Grammar
