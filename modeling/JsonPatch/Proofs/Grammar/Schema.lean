import JsonPatch.Proofs.Grammar.Violations
import JsonPatch.Proofs.Pointer.Lookup

/-! # The schema of the grammar

`Schema.Fails` is the meaning of the keywords of JSON Schema, draft 7, that the grammar needs: a
part of an instance fails a keyword, at a place below the instance and for a reason in words.  A
part that cannot be shown fails it, too, with a fault in place of the words.

* A keyword is about instances of one kind and says nothing of others.
* `$ref` leads to a part of the whole schema, and no keyword beside it counts.

`fails_schema_iff`: an instance fails the schema of the grammar exactly where, and for the reasons
that, the checker reports. -/

namespace JsonPatch

namespace Schema

/-- The value of a keyword of a schema. -/
def keyword? (name : String) (schema : Value) : Option Value :=
  schema.child? (.member name)

/-- An instance fails a schema, which is a part of the schema `root`: the way to the part of the
instance that fails, and the reason. -/
inductive Fails (root : Value) : Value → Value → List Key → Except Fault String → Prop
  /-- A reference is a path after a hash sign. -/
  | ref {schema target v : Value} {path : String} {way : List Key}
      {reason : Except Fault String}
      (keyword : keyword? "$ref" schema = some (.string ("#" ++ path)))
      (leads : Pointer.lookup path root = some target) (fails : Fails root target v way reason) :
      Fails root schema v way reason
  | type {schema v : Value} {kind : Kind} (alone : keyword? "$ref" schema = none)
      (keyword : keyword? "type" schema = some (.string kind.name)) (other : v.kind? ≠ some kind) :
      Fails root schema v [] (v.shown.map (· ++ " is not of type '" ++ kind.name ++ "'"))
  | required {schema : Value} {names : List Value} {name : String} {members : Members}
      (alone : keyword? "$ref" schema = none)
      (keyword : keyword? "required" schema = some (.array names))
      (listed : .string name ∈ names) (absent : Members.find? name members = none) :
      Fails root schema (.object members) [] (.ok (Text.quoted name ++ " is a required property"))
  | properties {schema sub v : Value} {schemas members : Members} {name : String} {way : List Key}
      {reason : Except Fault String} (alone : keyword? "$ref" schema = none)
      (keyword : keyword? "properties" schema = some (.object schemas))
      (listed : Members.find? name schemas = some sub)
      (found : Members.find? name members = some v) (fails : Fails root sub v way reason) :
      Fails root schema (.object members) (.member name :: way) reason
  | items {schema sub v : Value} {items : List Value} {i : Nat} {way : List Key}
      {reason : Except Fault String} (alone : keyword? "$ref" schema = none)
      (keyword : keyword? "items" schema = some sub)
      (item : items[i]? = some v) (fails : Fails root sub v way reason) :
      Fails root schema (.array items) (.index i :: way) reason
  | minLength {schema : Value} {least : Nat} {s : String} (alone : keyword? "$ref" schema = none)
      (keyword : keyword? "minLength" schema = some (.number (.int least)))
      (short : s.length < least) :
      Fails root schema (.string s) []
        (.ok (Text.quoted s ++ if least = 1 then " should be non-empty" else " is too short"))

variable {root schema v : Value} {way : List Key} {reason : Except Fault String}

/-- An instance fails a reference where it fails what the reference leads to. -/
theorem fails_ref {path : String} {target : Value}
    (h : keyword? "$ref" schema = some (.string ("#" ++ path)))
    (hleads : Pointer.lookup path root = some target) :
    Fails root schema v way reason ↔ Fails root target v way reason := by
  constructor
  · intro hfails
    cases hfails with
    | ref keyword leads fails =>
        rw [h] at keyword
        have htext := Value.string.inj (Option.some.inj keyword)
        obtain rfl := (String.append_right_inj _).mp htext
        rw [hleads] at leads
        cases leads
        exact fails
    | type alone _ _ | required alone _ _ _ | properties alone _ _ _ _ | items alone _ _ _
    | minLength alone _ _ =>
        rw [h] at alone
        cases alone
  · exact .ref h hleads

/-- A schema without a reference fails by one of its keywords. -/
theorem fails_alone (h : keyword? "$ref" schema = none) : Fails root schema v way reason ↔
    (∃ kind, keyword? "type" schema = some (.string kind.name) ∧ v.kind? ≠ some kind ∧ way = [] ∧
      reason = v.shown.map (· ++ " is not of type '" ++ kind.name ++ "'")) ∨
    (∃ names name members, keyword? "required" schema = some (.array names) ∧
      .string name ∈ names ∧ v = .object members ∧ Members.find? name members = none ∧ way = [] ∧
      reason = .ok (Text.quoted name ++ " is a required property")) ∨
    (∃ schemas name sub members w rest, keyword? "properties" schema = some (.object schemas) ∧
      Members.find? name schemas = some sub ∧ v = .object members ∧
      Members.find? name members = some w ∧ way = .member name :: rest ∧
      Fails root sub w rest reason) ∨
    (∃ sub items i w rest, keyword? "items" schema = some sub ∧ v = .array items ∧
      items[i]? = some w ∧ way = .index i :: rest ∧ Fails root sub w rest reason) ∨
    ∃ (least : Nat) (s : String), keyword? "minLength" schema = some (.number (.int least)) ∧
      v = .string s ∧ s.length < least ∧ way = [] ∧
      reason =
        .ok (Text.quoted s ++ if least = 1 then " should be non-empty" else " is too short") := by
  constructor
  · intro hfails
    cases hfails with
    | ref keyword _ _ =>
        rw [h] at keyword
        cases keyword
    | type _ keyword other => exact .inl ⟨_, keyword, other, rfl, rfl⟩
    | required _ keyword listed absent =>
        exact .inr (.inl ⟨_, _, _, keyword, listed, rfl, absent, rfl, rfl⟩)
    | properties _ keyword listed found fails =>
        exact .inr (.inr (.inl ⟨_, _, _, _, _, _, keyword, listed, rfl, found, rfl, fails⟩))
    | items _ keyword item fails =>
        exact .inr (.inr (.inr (.inl ⟨_, _, _, _, _, keyword, rfl, item, rfl, fails⟩)))
    | minLength _ keyword short =>
        exact .inr (.inr (.inr (.inr ⟨_, _, keyword, rfl, short, rfl, rfl⟩)))
  · rintro (⟨kind, hk, hother, rfl, rfl⟩ |
      ⟨names, name, members, hk, hlisted, rfl, habsent, rfl, rfl⟩ |
      ⟨schemas, name, sub, members, w, rest, hk, hlisted, rfl, hfound, rfl, hfails⟩ |
      ⟨sub, items, i, w, rest, hk, rfl, hitem, rfl, hfails⟩ | ⟨least, s, hk, rfl, hshort, rfl, rfl⟩)
    · exact .type h hk hother
    · exact .required h hk hlisted habsent
    · exact .properties h hk hlisted hfound hfails
    · exact .items h hk hitem hfails
    · exact .minLength h hk hshort

end Schema

namespace Grammar

open Schema (keyword? Fails)

/-! ### The parts of the schema -/

/-- The schema of the values of a kind. -/
def ofKind (kind : Kind) : Value :=
  .object [("type", .string kind.name)]

/-- The reference to the schema of an operation. -/
def reference : Value :=
  .object [("$ref", .string "#/definitions/operation")]

/-- The schema of a name. -/
def nameSchema : Value :=
  .object [("type", .string Kind.string.name), ("minLength", .number (.int 1))]

/-- The schema of a list of operations. -/
def listSchema : Value :=
  .object [("type", .string Kind.array.name), ("items", reference)]

/-- The schemas of the members of an operation. -/
def memberSchemas : Members := [
  ("op", nameSchema),
  ("path", ofKind .string),
  ("from", ofKind .string),
  ("to", ofKind .string),
  ("ignore_case", ofKind .boolean),
  ("apply", listSchema)]

/-- The schema of an operation. -/
def operationSchema : Value :=
  .object [
    ("type", .string Kind.object.name),
    ("required", .array [.string "op"]),
    ("properties", .object memberSchemas)]

theorem lookup_operationSchema :
    Pointer.lookup "/definitions/operation" schema = some operationSchema := by
  rfl

theorem message_notOfKind (v : Value) (kind : Kind) : (Problem.notOfKind v kind).message =
    v.shown.map (· ++ " is not of type '" ++ kind.name ++ "'") :=
  rfl

theorem name_inj {k k' : Kind} : k.name = k'.name ↔ k = k' := by
  constructor
  · cases k <;> cases k' <;> decide
  · rintro rfl
    rfl

/-! ### What fails them -/

variable {v : Value} {way : List Key} {reason : Except Fault String}

theorem fails_reference :
    Fails schema reference v way reason ↔ Fails schema operationSchema v way reason :=
  Schema.fails_ref rfl lookup_operationSchema

/-- A value fails a kind by not being of it. -/
theorem fails_ofKind {kind : Kind} : Fails schema (ofKind kind) v way reason ↔
    v.kind? ≠ some kind ∧ way = [] ∧ reason = (Problem.notOfKind v kind).message := by
  have halone : keyword? "$ref" (ofKind kind) = none := rfl
  rw [Schema.fails_alone halone]
  simp [ofKind, keyword?, Value.child?, Members.find?, name_inj, message_notOfKind]

theorem fails_nameSchema : Fails schema nameSchema v way reason ↔
    (v.kind? ≠ some .string ∧ way = [] ∧ reason = (Problem.notOfKind v .string).message) ∨
      v = .string "" ∧ way = [] ∧ reason = Problem.emptyName.message := by
  have halone : keyword? "$ref" nameSchema = none := rfl
  have hquoted : .ok (Text.quoted "" ++ " should be non-empty") = Problem.emptyName.message :=
    congrArg Except.ok (by decide)
  rw [Schema.fails_alone halone]
  simp [nameSchema, keyword?, Value.child?, Members.find?, name_inj, message_notOfKind]
  refine or_congr_right ⟨?_, ?_⟩
  · rintro ⟨least, hleast, s, rfl, hs, rfl, rfl⟩
    obtain rfl : least = 1 := by omega
    obtain rfl : s = "" := String.length_eq_zero_iff.mp (by omega)
    exact ⟨rfl, rfl, hquoted⟩
  · rintro ⟨rfl, rfl, rfl⟩
    exact ⟨1, rfl, "", rfl, by decide, rfl, hquoted.symm⟩

/-- A value fails the list of operations by not being a list, or in one of the operations. -/
theorem fails_list {list : Value} (alone : keyword? "$ref" list = none)
    (type : keyword? "type" list = some (.string Kind.array.name))
    (items : keyword? "items" list = some reference) (required : keyword? "required" list = none)
    (properties : keyword? "properties" list = none)
    (minLength : keyword? "minLength" list = none) :
    Fails schema list v way reason ↔
      (v.kind? ≠ some .array ∧ way = [] ∧ reason = (Problem.notOfKind v .array).message) ∨
      ∃ items i w rest, v = .array items ∧ items[i]? = some w ∧ way = .index i :: rest ∧
        Fails schema operationSchema w rest reason := by
  rw [Schema.fails_alone alone]
  simp [type, items, required, properties, minLength, name_inj, message_notOfKind, fails_reference]

theorem exists_memberSchema {P : String → Value → Prop} :
    (∃ name sub, Members.find? name memberSchemas = some sub ∧ P name sub) ↔
      P "op" nameSchema ∨ P "path" (ofKind .string) ∨ P "from" (ofKind .string) ∨
        P "to" (ofKind .string) ∨ P "ignore_case" (ofKind .boolean) ∨ P "apply" listSchema := by
  constructor
  · rintro ⟨name, sub, hfind, h⟩
    have hmem := Members.mem_of_find? hfind
    simp only [memberSchemas, List.mem_cons, Prod.mk.injEq, List.not_mem_nil, or_false] at hmem
    rcases hmem with ⟨rfl, rfl⟩ | ⟨rfl, rfl⟩ | ⟨rfl, rfl⟩ | ⟨rfl, rfl⟩ | ⟨rfl, rfl⟩ | ⟨rfl, rfl⟩ <;>
      simp [h]
  · rintro (h | h | h | h | h | h)
    · exact ⟨_, _, rfl, h⟩
    · exact ⟨_, _, rfl, h⟩
    · exact ⟨_, _, rfl, h⟩
    · exact ⟨_, _, rfl, h⟩
    · exact ⟨_, _, rfl, h⟩
    · exact ⟨_, _, rfl, h⟩

/-- A value fails the schema of an operation by not being an object, for want of a name, or in a
member. -/
theorem fails_operation : Fails schema operationSchema v way reason ↔
    (v.kind? ≠ some .object ∧ way = [] ∧ reason = (Problem.notOfKind v .object).message) ∨
    ∃ members, v = .object members ∧
      ((Members.find? "op" members = none ∧ way = [] ∧ reason = Problem.missingName.message) ∨
      ∃ name sub, Members.find? name memberSchemas = some sub ∧ ∃ w rest,
        Members.find? name members = some w ∧ way = .member name :: rest ∧
          Fails schema sub w rest reason) := by
  have halone : keyword? "$ref" operationSchema = none := rfl
  have hquoted : .ok (Text.quoted "op" ++ " is a required property") =
      Problem.missingName.message :=
    congrArg Except.ok (by decide)
  rw [Schema.fails_alone halone]
  simp only [operationSchema, keyword?, Value.child?, Members.find?, String.reduceEq, if_false,
    if_true, Option.some.injEq, Value.string.injEq, Value.array.injEq, Value.object.injEq, name_inj,
    exists_eq_left', ← hquoted, reduceCtorEq, false_and, exists_false, or_false]
  refine or_congr Iff.rfl ?_
  constructor
  · rintro (⟨names, name, members, rfl, hlisted, rfl, hname, rfl, rfl⟩ |
      ⟨schemas, name, sub, members, w, rest, rfl, hsub, rfl, hw, rfl, hfails⟩)
    · obtain rfl : name = "op" := by simpa using hlisted
      exact ⟨members, rfl, .inl ⟨hname, rfl, rfl⟩⟩
    · exact ⟨members, rfl, .inr ⟨name, sub, hsub, w, rest, hw, rfl, hfails⟩⟩
  · rintro ⟨members, rfl, ⟨hname, rfl, rfl⟩ | ⟨name, sub, hsub, w, rest, hw, rfl, hfails⟩⟩
    · exact .inl ⟨_, "op", members, rfl, by simp, rfl, hname, rfl, rfl⟩
    · exact .inr ⟨_, name, sub, members, w, rest, rfl, hsub, rfl, hw, rfl, hfails⟩

/-! ### The checker and the schema -/

/-- A violation of the list is at this place below another one and says this. -/
def Says (l : List Violation) (base way : List Key) (reason : Except Fault String) :
    Prop :=
  ∃ x ∈ l, x.place = base ++ way ∧ x.problem.message = reason

theorem says_append {l l' : List Violation} {base : List Key} :
    Says (l ++ l') base way reason ↔ Says l base way reason ∨ Says l' base way reason := by
  simp only [Says, List.mem_append, or_and_right, exists_or]

/-- What a list says at a place, if all in it lies under one key there. -/
theorem says_below {l : List Violation} {base : List Key} {k : Key}
    (h : ∀ x ∈ l, (base ++ [k]) <+: x.place) : Says l base way reason ↔
      ∃ rest, way = k :: rest ∧ Says l (base ++ [k]) rest reason := by
  constructor
  · rintro ⟨x, hx, hplace, hreason⟩
    obtain ⟨rest, hrest⟩ := h x hx
    rw [← hrest, List.append_assoc] at hplace
    exact ⟨rest, (List.append_cancel_left hplace).symm, x, hx, hrest.symm, hreason⟩
  · rintro ⟨rest, rfl, x, hx, hplace, hreason⟩
    refine ⟨x, hx, ?_, hreason⟩
    rw [hplace, List.append_assoc, List.singleton_append]

theorem says_singleton {x : Violation} : Says [x] x.place way reason ↔
    way = [] ∧ reason = x.problem.message := by
  simp only [Says, List.mem_singleton, exists_eq_left, List.self_eq_append_right]
  exact and_congr_right fun _ => eq_comm

variable {base : List Key} {members : Members}

theorem says_nameViolation : Says (nameViolation base members) base way reason ↔
    (Members.find? "op" members = none ∧ way = [] ∧ reason = Problem.missingName.message) ∨
    ∃ w rest, Members.find? "op" members = some w ∧ way = .member "op" :: rest ∧
      Fails schema nameSchema w rest reason := by
  simp only [Says, mem_nameViolation, fails_nameSchema]
  constructor
  · rintro ⟨x, ⟨hop, rfl⟩ | ⟨hop, rfl⟩ | ⟨w, hop, hkind, rfl⟩, hplace, rfl⟩
    · exact .inl ⟨hop, List.self_eq_append_right.mp hplace, rfl⟩
    · exact .inr ⟨_, [], hop, (List.append_cancel_left hplace).symm, .inr ⟨rfl, rfl, rfl⟩⟩
    · exact .inr ⟨w, [], hop, (List.append_cancel_left hplace).symm, .inl ⟨hkind, rfl, rfl⟩⟩
  · rintro (⟨hop, rfl, rfl⟩ | ⟨w, rest, hop, rfl, ⟨hkind, rfl, rfl⟩ | ⟨rfl, rfl, rfl⟩⟩)
    · exact ⟨_, .inl ⟨hop, rfl⟩, (List.append_nil base).symm, rfl⟩
    · exact ⟨_, .inr (.inr ⟨w, hop, hkind, rfl⟩), rfl, rfl⟩
    · exact ⟨_, .inr (.inl ⟨hop, rfl⟩), rfl, rfl⟩

theorem says_kindViolation {name : String} {kind : Kind} :
    Says (kindViolation base members name kind) base way reason ↔
      ∃ w rest, Members.find? name members = some w ∧ way = .member name :: rest ∧
        Fails schema (ofKind kind) w rest reason := by
  simp only [Says, mem_kindViolation, fails_ofKind]
  constructor
  · rintro ⟨x, ⟨w, hw, hkind, rfl⟩, hplace, rfl⟩
    exact ⟨w, [], hw, (List.append_cancel_left hplace).symm, hkind, rfl, rfl⟩
  · rintro ⟨w, rest, hw, rfl, hkind, rfl, rfl⟩
    exact ⟨_, ⟨w, hw, hkind, rfl⟩, rfl, rfl⟩

/-- What the checker says of a list of operations, if it says of each of them where it fails. -/
theorem says_listViolations {list : Value} (hlist : ∀ v way reason, Fails schema list v way reason ↔
      (v.kind? ≠ some .array ∧ way = [] ∧ reason = (Problem.notOfKind v .array).message) ∨
      ∃ items i w rest, v = .array items ∧ items[i]? = some w ∧ way = .index i :: rest ∧
        Fails schema operationSchema w rest reason)
    (h : ∀ items, v = .array items → ∀ w ∈ items, ∀ base way reason,
      Says (operationViolations base w) base way reason ↔
        Fails schema operationSchema w way reason) :
    Says (listViolations base v) base way reason ↔ Fails schema list v way reason := by
  rw [hlist]
  by_cases hv : v.kind? = some .array
  · obtain ⟨items, rfl⟩ := kind?_eq_array.mp hv
    have hitems : Says (listViolations base (.array items)) base way reason ↔
        ∃ i w, items[i]? = some w ∧ Says (operationViolations (base ++ [.index i]) w) base way
          reason := by
      simp only [listViolations, Says, mem_itemViolations, Nat.zero_add]
      constructor
      · rintro ⟨x, ⟨i, w, hw, hx⟩, hsays⟩
        exact ⟨i, w, hw, x, hx, hsays⟩
      · rintro ⟨i, w, hw, x, hx, hsays⟩
        exact ⟨x, ⟨i, w, hw, hx⟩, hsays⟩
    rw [hitems]
    constructor
    · rintro ⟨i, w, hw, hsays⟩
      obtain ⟨rest, hway, hsays⟩ := (says_below fun x => isPrefix_of_mem).mp hsays
      have hfails := (h items rfl w (List.mem_of_getElem? hw) _ _ _).mp hsays
      exact .inr ⟨items, i, w, rest, rfl, hw, hway, hfails⟩
    · rintro (⟨hkind, -⟩ | ⟨items', i, w, rest, hitems, hw, hway, hfails⟩)
      · exact absurd hv hkind
      · cases hitems
        have hsays := (h items rfl w (List.mem_of_getElem? hw) (base ++ [.index i]) _ _).mpr hfails
        exact ⟨i, w, hw, (says_below fun x => isPrefix_of_mem).mpr ⟨rest, hway, hsays⟩⟩
  · have hviolations : listViolations base v = [⟨base, .notOfKind v .array⟩] := by
      cases v with
      | array items => exact absurd rfl hv
      | _ => rfl
    rw [hviolations]
    constructor
    · intro hsays
      exact .inl ⟨hv, says_singleton.mp hsays⟩
    · rintro (⟨-, hsays⟩ | ⟨items, i, w, rest, rfl, -⟩)
      · exact says_singleton.mpr hsays
      · exact absurd rfl hv

theorem fails_listSchema (v : Value) (way : List Key) (reason : Except Fault String) :
    Fails schema listSchema v way reason ↔
      (v.kind? ≠ some .array ∧ way = [] ∧ reason = (Problem.notOfKind v .array).message) ∨
      ∃ items i w rest, v = .array items ∧ items[i]? = some w ∧ way = .index i :: rest ∧
        Fails schema operationSchema w rest reason :=
  fails_list rfl rfl rfl rfl rfl rfl

theorem fails_schema (v : Value) (way : List Key) (reason : Except Fault String) :
    Fails schema schema v way reason ↔
      (v.kind? ≠ some .array ∧ way = [] ∧ reason = (Problem.notOfKind v .array).message) ∨
      ∃ items i w rest, v = .array items ∧ items[i]? = some w ∧ way = .index i :: rest ∧
        Fails schema operationSchema w rest reason :=
  fails_list rfl rfl rfl rfl rfl rfl

theorem says_nestedViolations (h : ∀ items, nested? members = some items → ∀ w ∈ items,
      ∀ base way reason, Says (operationViolations base w) base way reason ↔
        Fails schema operationSchema w way reason) :
    Says (nestedViolations base members) base way reason ↔ ∃ w rest,
      Members.find? "apply" members = some w ∧ way = .member "apply" :: rest ∧
        Fails schema listSchema w rest reason := by
  rw [nestedViolations_eq]
  cases hf : Members.find? "apply" members with
  | none => simp [Says]
  | some w =>
      have hlist : ∀ rest, Says (listViolations (base ++ [.member "apply"]) w)
          (base ++ [.member "apply"]) rest reason ↔ Fails schema listSchema w rest reason := by
        intro rest
        refine says_listViolations fails_listSchema ?_
        rintro items rfl
        exact h items (nested?_of_find? hf)
      rw [says_below fun x => isPrefix_of_mem_list]
      simp [hlist]

/-- The checker says of an operation where it fails its schema, and why. -/
theorem says_operationViolations (v : Value) : ∀ base way reason,
    Says (operationViolations base v) base way reason ↔
      Fails schema operationSchema v way reason := by
  induction v using descriptorInduction with
  | other v hv =>
      intro base way reason
      have hkind := kind?_ne_object hv
      rw [operationViolations_other hkind, fails_operation]
      constructor
      · intro hsays
        exact .inl ⟨hkind, says_singleton.mp hsays⟩
      · rintro (⟨-, hsays⟩ | ⟨members, rfl, -⟩)
        · exact says_singleton.mpr hsays
        · exact absurd rfl hkind
  | object members ih =>
      intro base way reason
      have hobject : (Value.object members).kind? = some .object := rfl
      rw [operationViolations, fails_operation]
      simp only [says_append, says_nameViolation, says_kindViolation, says_nestedViolations ih,
        exists_memberSchema, hobject, ne_eq, not_true_eq_false, false_and, false_or,
        Value.object.injEq, exists_eq_left', or_assoc]

/-- The checker reports where a document fails the schema of the grammar, and why. -/
theorem fails_schema_iff {ops : Value} : Fails schema schema ops way reason ↔
    ∃ x ∈ violations ops, x.place = way ∧ x.problem.message = reason := by
  simp only [mem_violations]
  exact (says_listViolations fails_schema fun _ _ w _ => says_operationViolations w).symm

end Grammar
end JsonPatch
