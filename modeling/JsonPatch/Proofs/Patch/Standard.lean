import JsonPatch.Patch.Run
import JsonPatch.Proofs.Grammar.Report
import JsonPatch.Proofs.Json.Reader
import JsonPatch.Proofs.Operation.Plan
import JsonPatch.Proofs.Operation.Registry
import JsonPatch.Proofs.Predicate.Answer

/-! # Standard patches

A patch built without operations or predicates of the host program has one of two registries: that
of the core operations, or that with a check for each built-in predicate beside them. -/

namespace JsonPatch

/-- The core operations and the checks of the built-in predicates. -/
def Registry.checked : Registry :=
  ⟨Registry.core.handlers ++ (Members.names PredicateSet.builtin.rules).map fun name =>
    (name, PredicateSet.builtin.check name)⟩

theorem merge_builtin :
    PredicateSet.builtin.asOperations.map Registry.core.merge = .ok Registry.checked := by
  rfl

/-- The path of the descriptor is a text, or there is none. -/
def Descriptor.HasTextPath (d : Descriptor) : Prop :=
  (∃ path, d.field "path" = .string path) ∨ d.field "path" = .null

/-! ### Core operations -/

/-- The core operations by name. -/
inductive Operation.Core : String → (Descriptor → Value → Operation.Step (Option Edit)) → Prop where
  | add : Core "add" Operation.add
  | remove : Core "remove" Operation.remove
  | replace : Core "replace" Operation.replace
  | move : Core "move" Operation.move
  | copy : Core "copy" Operation.copy
  | test : Core "test" Operation.test

namespace Operation

theorem mem_core {h : String × Handler} (hm : h ∈ core) :
    ∃ operation, Core h.1 operation ∧ h.2 = handler operation := by
  simp only [core, List.mem_cons, List.not_mem_nil, or_false] at hm
  rcases hm with rfl | rfl | rfl | rfl | rfl | rfl
  · exact ⟨_, .add, rfl⟩
  · exact ⟨_, .remove, rfl⟩
  · exact ⟨_, .replace, rfl⟩
  · exact ⟨_, .move, rfl⟩
  · exact ⟨_, .copy, rfl⟩
  · exact ⟨_, .test, rfl⟩

variable {name : String} {operation : Descriptor → Value → Step (Option Edit)}

theorem Core.settling (h : Core name operation) (d : Descriptor) (doc : Value) :
    Settling (operation d doc) := by
  cases h with
  | add => exact settling_add d doc
  | remove => exact settling_remove d doc
  | replace => exact settling_replace d doc
  | move => exact settling_move d doc
  | copy => exact settling_copy d doc
  | test => exact settling_test d doc

/-- Only the operation of that name plans a move. -/
theorem Core.name_of_move (h : Core name operation) {d : Descriptor} {doc : Value} {source : Slot}
    {target : Pointer} (he : operation d doc = .ok (some (.move source target))) :
    name = "move" := by
  cases h with
  | add =>
      obtain ⟨_, _, _, _, _, _, he⟩ := add_eq_ok.mp he
      cases he
  | remove =>
      obtain ⟨_, slot, _, _, _, he⟩ := remove_eq_ok.mp he
      cases slot <;> cases he
  | replace =>
      obtain ⟨_, _, _, _, _, _, he⟩ := replace_eq_ok.mp he
      cases he
  | move => rfl
  | copy =>
      obtain ⟨_, _, _, _, _, he⟩ := copy_eq_ok.mp he
      cases he
  | test =>
      have he := test_eq_ok he
      cases he

theorem field_of_pointerOf {d : Descriptor} {field : String} {p : Pointer}
    (h : pointerOf d field = .ok p) : ∃ path, d.field field = .string path := by
  obtain ⟨path, hpath, -⟩ := pointerOf_eq_ok.mp h
  exact ⟨path, by rw [Descriptor.field, hpath]; rfl⟩

theorem hasTextPath_of_targetOf {d : Descriptor} {p : Pointer} (h : targetOf d = .ok p) :
    d.HasTextPath := by
  unfold targetOf at h
  split_ifs at h with hpath
  · exact .inl (field_of_pointerOf h)
  · have habsent : Members.find? "path" d = none := by
      simpa [Members.has] using (not_or.mp fun hor => hpath (Bool.or_eq_true_iff.mpr hor)).1
    exact .inr (by rw [Descriptor.field, habsent]; rfl)

/-- A core operation is planned of a path that is a text; a target may be given without one. -/
theorem Core.hasTextPath (h : Core name operation) {d : Descriptor} {doc : Value} {e : Option Edit}
    (he : operation d doc = .ok e) : d.HasTextPath := by
  cases h with
  | add =>
      obtain ⟨_, _, _, hp, -⟩ := add_eq_ok.mp he
      exact .inl (field_of_pointerOf hp)
  | remove =>
      obtain ⟨_, _, hp, -⟩ := remove_eq_ok.mp he
      exact .inl (field_of_pointerOf hp)
  | replace =>
      obtain ⟨_, _, _, hp, -⟩ := replace_eq_ok.mp he
      exact .inl (field_of_pointerOf hp)
  | move =>
      obtain ⟨_, _, hplaces, -⟩ := move_eq_ok.mp he
      exact hasTextPath_of_targetOf hplaces.hasTarget
  | copy =>
      obtain ⟨_, _, _, hplaces, -⟩ := copy_eq_ok.mp he
      exact hasTextPath_of_targetOf hplaces.hasTarget
  | test =>
      obtain ⟨_, _, _, hp, -⟩ := test_succeeds he
      exact .inl (field_of_pointerOf hp)

/-- The handler of a core operation plans what the operation plans. -/
theorem handler_edit_eq_ok {d : Descriptor} {doc : Value} {e : Option Edit} :
    (handler operation (.object d) doc).edit = .ok e ↔ operation d doc = .ok e := by
  change (operation d doc).mapError Trouble.settle = .ok e ↔ _
  cases operation d doc with
  | ok e' => simp [Except.mapError]
  | error t => simp [Except.mapError]

end Operation

/-! ### Sources -/

namespace Source

/-- The source is a JSON text: a text, a byte string or a file. -/
def IsText : Source → Prop
  | file _ => True
  | brokenFile _ => True
  | value (.string _) => True
  | value (.bytes _) => True
  | value _ => False

theorem readText_eq_ok {text : List Char} {v : Value} :
    readText text = .ok v ↔ Json.read text = .ok v := by
  unfold readText
  cases Json.read text with
  | ok w => exact Iff.of_eq (by simp [Except.mapError])
  | error f => exact iff_of_false nofun nofun

/-- What a source gives that is a JSON text has been read from a text. -/
theorem exists_text {source : Source} (hs : source.IsText) {v : Value} (h : source.read = .ok v) :
    ∃ text, Json.read text = .ok v := by
  cases source with
  | file content => exact ⟨_, readText_eq_ok.mp h⟩
  | brokenFile cause => cases h
  | value w =>
      cases w with
      | string text => exact ⟨_, readText_eq_ok.mp h⟩
      | bytes content =>
          rw [read] at h
          split at h
          · exact ⟨_, readText_eq_ok.mp h⟩
          · cases h
      | _ => cases hs

theorem read_isJson (source : Source) (hs : source.IsText) {v : Value} (h : source.read = .ok v) :
    v.IsJson := by
  obtain ⟨text, htext⟩ := exists_text hs h
  exact Json.read_isJson htext

theorem read_isWritable (source : Source) (hs : source.IsText) {v : Value}
    (h : source.read = .ok v) : Json.isWritable v = true := by
  obtain ⟨text, htext⟩ := exists_text hs h
  exact Json.read_isWritable htext

end Source

/-! ### Building -/

namespace Patch

/-- The patch was built by the settings alone, without anything of a host program. -/
def IsStandard (p : Patch) : Prop :=
  ∃ settings withPredicates source, build { settings, withPredicates } source = .ok p

/-- A patch is built of a document that keeps to the grammar. -/
theorem build_of_assemble {o : Options} {source : Source} {ops : Value} {p : Patch}
    (hs : source.read = .ok ops) (hv : validate o.settings.validateSchema.isTruthy ops = .ok ops)
    (ha : assemble o (descriptors ops) = .ok p) : build o source = .ok p := by
  unfold build
  rw [hs]
  dsimp only
  rw [hv]
  dsimp only
  rw [ha]
  rfl

/-- The registry of a patch can be made if the predicates have names. -/
theorem exists_buildRegistry {o : Options} (h : "" ∉ Members.names o.predicates.rules) :
    ∃ registry, o.buildRegistry = .ok registry := by
  unfold Options.buildRegistry
  split_ifs
  · rw [PredicateSet.asOperations_eq_ok h]
    exact ⟨_, rfl⟩
  · exact ⟨_, rfl⟩

/-- The descriptor of a removal. -/
def removing (path : String) : Descriptor :=
  [("op", .string "remove"), ("path", .string path)]

/-- The descriptor of an addition. -/
def adding (path : String) (v : Value) : Descriptor :=
  [("op", .string "add"), ("path", .string path), ("value", v)]

/-- The descriptor of a move. -/
def moving (source target : String) : Descriptor :=
  [("op", .string "move"), ("from", .string source), ("path", .string target)]

/-- The descriptor of a copy. -/
def copying (source target : String) : Descriptor :=
  [("op", .string "copy"), ("from", .string source), ("path", .string target)]

/-- A patch of core operations under settings that check the grammar. -/
def ofCore (operations : List Descriptor) : Patch where
  operations
  settings :=
    { enablePredicates := .bool false, logOperations := .bool false, logLevel := "INFO",
      validateSchema := .bool true }
  withPredicates := false
  registry := Registry.core

theorem descriptors_map_object (operations : List Descriptor) :
    descriptors (.array (operations.map .object)) = operations := by
  induction operations with
  | nil => rfl
  | cons d rest ih => exact congrArg (d :: ·) ih

theorem ofCore_isStandard {operations : List Descriptor}
    (h : Grammar.check true (.array (operations.map .object)) = []) :
    (ofCore operations).IsStandard := by
  refine ⟨(ofCore operations).settings, .null, .value (.array (operations.map .object)),
    build_of_assemble rfl ?_ ?_⟩
  · change validate true _ = _
    rw [validate, h]
  · rw [descriptors_map_object]
    rfl

/-- What keeps to the grammar is left as it is. -/
theorem eq_of_validate {whole : Bool} {ops ops' : Value} (h : validate whole ops = .ok ops') :
    ops = ops' := by
  unfold validate at h
  split at h
  · exact Except.ok.inj h
  · split at h <;> cases h

/-- A patch has the descriptors of its document, and the settings and the registry of its options. -/
theorem build_eq_ok {o : Options} {source : Source} {p : Patch} (h : build o source = .ok p) :
    ∃ ops, source.read = .ok ops ∧
      validate o.settings.validateSchema.isTruthy ops = .ok ops ∧
      p.operations = descriptors ops ∧ p.settings = o.settings ∧
      o.buildRegistry = .ok p.registry := by
  unfold build at h
  split at h
  · cases h
  · rename_i ops hread
    split at h
    · cases h
    · rename_i ops' hv
      obtain rfl := eq_of_validate hv
      unfold assemble at h
      cases hr : o.buildRegistry with
      | error f => rw [hr] at h; cases h
      | ok registry =>
          rw [hr] at h
          cases h
          exact ⟨ops, hread, hv, rfl, rfl, rfl⟩

/-- The operations of a patch are the items of its document, and each has a name. -/
theorem operations_of_build {o : Options} {source : Source} {p : Patch}
    (h : build o source = .ok p) :
    source.read = .ok (.array (p.operations.map .object)) ∧
      ∀ d ∈ p.operations, ∃ n, d.field "op" = .string n := by
  obtain ⟨ops, hread, hvalid, hops, -⟩ := build_eq_ok h
  obtain ⟨ds, rfl, hds⟩ := Grammar.named_of_check (Grammar.validate_eq_ok.mp hvalid)
  rw [descriptors_map_object] at hops
  rw [hread, hops]
  refine ⟨rfl, fun d hd => ?_⟩
  obtain ⟨n, hn⟩ := hds d hd
  exact ⟨n, by rw [Descriptor.field, hn]; rfl⟩

theorem hasTextPath_of_wellFormed {d : Descriptor} (h : Grammar.WellFormed (.object d)) :
    d.HasTextPath := by
  obtain ⟨members, hd, -, hkinds⟩ := h
  cases hd
  unfold Descriptor.HasTextPath Descriptor.field
  cases hpath : Members.find? "path" d with
  | none => exact .inr rfl
  | some v => exact .inl (Grammar.kind?_eq_string.mp (hkinds "path" .string (by decide) v hpath))

/-- In a document that keeps to the whole grammar paths are texts. -/
theorem hasTextPath_of_valid {ds : List Descriptor}
    (h : validate true (.array (ds.map .object)) = .ok (.array (ds.map .object)))
    {d : Descriptor} (hd : d ∈ ds) : d.HasTextPath := by
  obtain ⟨i, hi⟩ := List.mem_iff_getElem?.mp (List.mem_map_of_mem hd)
  exact hasTextPath_of_wellFormed
    (Grammar.violations_eq_nil.mp (Grammar.validate_eq_ok.mp h) [.index i] _ (.element hi))

theorem hasTextPath_of_build {o : Options} {source : Source} {p : Patch}
    (h : build o source = .ok p) (hwhole : o.settings.validateSchema.isTruthy = true)
    {d : Descriptor} (hd : d ∈ p.operations) : d.HasTextPath := by
  obtain ⟨ops, hread, hvalid, -⟩ := build_eq_ok h
  obtain ⟨hitems, -⟩ := operations_of_build h
  obtain rfl := Except.ok.inj (hread.symm.trans hitems)
  rw [hwhole] at hvalid
  exact hasTextPath_of_valid hvalid hd

theorem IsStandard.exists_name {p : Patch} (hp : p.IsStandard) {d : Descriptor}
    (hd : d ∈ p.operations) : ∃ n, d.field "op" = .string n := by
  obtain ⟨settings, withPredicates, source, h⟩ := hp
  exact (operations_of_build h).2 d hd

theorem IsStandard.registry {p : Patch} (h : p.IsStandard) :
    p.registry = Registry.core ∨ p.registry = Registry.checked := by
  obtain ⟨settings, withPredicates, source, h⟩ := h
  obtain ⟨-, -, -, -, -, hr⟩ := build_eq_ok h
  unfold Options.buildRegistry at hr
  split_ifs at hr
  · rw [merge_builtin] at hr
    exact .inr (Except.ok.inj hr).symm
  · exact .inl (Except.ok.inj hr).symm

/-! ### Patches from text -/

/-- The patch was built of a JSON text by the settings alone. -/
def IsFromText (p : Patch) : Prop :=
  ∃ settings withPredicates source, source.IsText ∧
    build { settings, withPredicates } source = .ok p

theorem IsFromText.isStandard {p : Patch} (h : p.IsFromText) : p.IsStandard := by
  obtain ⟨settings, withPredicates, source, -, h⟩ := h
  exact ⟨settings, withPredicates, source, h⟩

theorem ofCore_isFromText {operations : List Descriptor} (text : String)
    (hread : Source.readText text.toList = .ok (.array (operations.map .object)))
    (h : Grammar.check true (.array (operations.map .object)) = []) :
    (ofCore operations).IsFromText := by
  refine ⟨(ofCore operations).settings, .null, .value (.string text), trivial,
    build_of_assemble hread ?_ ?_⟩
  · change validate true _ = _
    rw [validate, h]
  · rw [descriptors_map_object]
    rfl

/-- The descriptors of a patch from a text hold JSON values. -/
theorem IsFromText.isJson {p : Patch} (h : p.IsFromText) {d : Descriptor} (hd : d ∈ p.operations)
    (name : String) : (d.field name).IsJson := by
  obtain ⟨settings, withPredicates, source, hs, h⟩ := h
  obtain ⟨ops, hops, -, hp, -⟩ := build_eq_ok h
  rw [hp] at hd
  have hj := source.read_isJson hs hops
  cases ops with
  | array items =>
      obtain ⟨v, hv, hvd⟩ := List.mem_filterMap.mp hd
      have hv := Value.isJsonItems_iff.mp hj v hv
      cases v with
      | object members =>
          cases hvd
          unfold Descriptor.field
          cases hf : Members.find? name d with
          | none => rfl
          | some w => exact Value.isJson_find? hv hf
      | _ => cases hvd
  | _ => cases hd

/-! ### Handlers -/

/-- A handler of a standard patch is a core operation or the check of a built-in predicate. -/
theorem IsStandard.handler {p : Patch} (hp : p.IsStandard) {name : Value} {handler : Handler}
    (h : p.registry.get? name = some handler) :
    ∃ n, name = .string n ∧
      ((∃ operation, Operation.Core n operation ∧ handler = Operation.handler operation) ∨
        handler = PredicateSet.builtin.check n) := by
  cases name with
  | string n =>
      refine ⟨n, rfl, ?_⟩
      have hm := Members.mem_of_find? h
      rcases hp.registry with hr | hr <;> rw [hr] at hm
      · exact .inl (Operation.mem_core hm)
      · rcases List.mem_append.mp hm with hm | hm
        · exact .inl (Operation.mem_core hm)
        · obtain ⟨m, -, hm⟩ := List.mem_map.mp hm
          cases hm
          exact .inr rfl
  | _ => cases h

/-- No predicate has the name of a core operation. -/
theorem IsStandard.get?_core {p : Patch} (hp : p.IsStandard) {name : String}
    {operation : Descriptor → Value → Operation.Step (Option Edit)}
    (h : Operation.Core name operation) :
    p.registry.get? (.string name) = some (Operation.handler operation) := by
  rcases hp.registry with hr | hr <;> rw [hr] <;> cases h <;> rfl

end Patch
end JsonPatch
