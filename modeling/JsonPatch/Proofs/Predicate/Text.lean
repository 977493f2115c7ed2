import Mathlib.Data.List.Infix
import JsonPatch.Proofs.Predicate.Location

/-! # Predicates of texts

`contains`, `starts` and `ends` hold iff the text at the path and the given one, both in upper case
if case is ignored, are in a relation of lists (`TextTest.answer_iff`): the given text is a part, a
beginning or an end of the other one.  A text is put in upper case character by character, so what
is put around a part stays around it, however long the form of a character is; hence all three
relations survive upper case (`TextTest.Relates.uppercase`). -/

namespace JsonPatch.Predicate

variable {d d' : Members} {doc : Value}

/-- A text is a part of another one iff it is found there. -/
theorem occursIn_iff {part text : List Char} : occursIn part text = true ↔ part <:+: text := by
  induction text with
  | nil => rw [occursIn, List.isEmpty_iff, List.infix_nil]
  | cons c rest ih =>
      rw [occursIn, Bool.or_eq_true, List.isPrefixOf_iff_prefix, ih, List.infix_cons_iff]

/-! ### Comparisons of texts -/

/-- A text as the descriptor has it compared. -/
def folded (d : Members) (s : String) : List Char :=
  if ignoresCase d then Text.uppercase s.toList else s.toList

theorem folded_ignoring (h : ignoresCase d = true) (s : String) :
    folded d s = Text.uppercase s.toList :=
  if_pos h

theorem folded_exact (h : ignoresCase d = false) (s : String) : folded d s = s.toList :=
  if_neg (h ▸ Bool.false_ne_true)

/-- The text at the path and the text that it is compared with. -/
structure Texts (d : Members) (doc : Value) (text expected : String) : Prop where
  target : target? d doc = .ok (some (.string text))
  argument : argument d "value" = .string expected

/-- A comparison is true iff there are two texts that compare so. -/
theorem compareTexts_eq_true {compare : List Char → List Char → Bool} :
    compareTexts compare d doc = .ok true ↔
      ∃ text expected, Texts d doc text expected ∧
        compare (folded d text) (folded d expected) = true := by
  constructor
  · intro h
    rw [compareTexts] at h
    cases ht : target? d doc with
    | error f =>
        rw [ht] at h
        cases h
    | ok found =>
        rw [ht] at h
        have htrue := Except.ok.inj h
        dsimp only at htrue
        split at htrue
        · rename_i text expected ha
          refine ⟨text, expected, ⟨ht, ha⟩, ?_⟩
          unfold folded
          split_ifs at htrue ⊢ <;> exact htrue
        · cases htrue
  · rintro ⟨text, expected, ⟨ht, ha⟩, h⟩
    rw [compareTexts, ht, ha]
    refine congrArg Except.ok ?_
    unfold folded at h
    dsimp only
    split_ifs at h ⊢ <;> exact h

/-! ### The three predicates -/

/-- The predicates that compare two texts. -/
inductive TextTest
  | contains
  | starts
  | ends

namespace TextTest

/-- The name of the predicate. -/
def name : TextTest → String
  | contains => "contains"
  | starts => "starts"
  | ends => "ends"

/-- What the predicate says of a text and a given one. -/
def Relates : TextTest → List Char → List Char → Prop
  | contains, text, part => part <:+: text
  | starts, text, part => part <+: text
  | ends, text, part => part <:+ text

theorem Relates.uppercase {t : TextTest} {text part : List Char} (h : t.Relates text part) :
    t.Relates (Text.uppercase text) (Text.uppercase part) := by
  cases t with
  | contains => exact List.IsInfix.flatMap h Text.upper
  | starts => exact List.IsPrefix.flatMap h Text.upper
  | ends => exact List.IsSuffix.flatMap h Text.upper

theorem Relates.isInfix {t : TextTest} {text part : List Char} (h : t.Relates text part) :
    part <:+: text := by
  cases t with
  | contains => exact h
  | starts => exact List.IsPrefix.isInfix h
  | ends => exact List.IsSuffix.isInfix h

/-- The built-in rule of the name compares texts by the relation. -/
theorem rule (t : TextTest) : ∃ compare : List Char → List Char → Bool,
    Members.find? t.name PredicateSet.builtin.rules = some (.test (compareTexts compare)) ∧
      ∀ text part, compare text part = true ↔ t.Relates text part := by
  cases t with
  | contains => exact ⟨fun text part => occursIn part text, rfl, fun _ _ => occursIn_iff⟩
  | starts =>
      exact ⟨fun text part => part.isPrefixOf text, rfl, fun _ _ => List.isPrefixOf_iff_prefix⟩
  | ends =>
      exact ⟨fun text part => part.isSuffixOf text, rfl, fun _ _ => List.isSuffixOf_iff_suffix⟩

/-- The predicate holds iff there are two texts in its relation. -/
theorem answer_iff (t : TextTest) (hop : Members.find? "op" d = some (.string t.name)) :
    answer d doc = .ok true ↔ ∃ text expected, Texts d doc text expected ∧
      t.Relates (folded d text) (folded d expected) := by
  obtain ⟨compare, hrule, hcompare⟩ := t.rule
  simp only [← hcompare]
  rw [← compareTexts_eq_true]
  obtain ⟨hok, herror⟩ := answer_of_test hrule hop (plain_compareTexts compare d doc)
  cases hf : compareTexts compare d doc with
  | ok b => rw [hok b hf]
  | error g =>
      -- a fault makes the predicate false, so neither side holds
      rw [herror g hf]
      constructor <;> rintro ⟨⟩

end TextTest

/-! ### Ignoring case, and parts -/

/-- Two descriptors compare what is at one path with one value. -/
structure SameTexts (d d' : Members) : Prop where
  path : Members.find? "path" d' = Members.find? "path" d
  value : argument d' "value" = argument d "value"

theorem SameTexts.texts (h : SameTexts d d') {text expected : String}
    (htexts : Texts d doc text expected) : Texts d' doc text expected where
  target := by
    have hpointer : pointerOf d' = pointerOf d := by rw [pointerOf, h.path, ← pointerOf]
    rw [target?, hpointer, ← target?]
    exact htexts.target
  argument := h.value.trans htexts.argument

/-- Whatever the document, the path and the value are: a predicate of texts that holds also holds if
case is ignored, and where any of the three holds, `contains` holds at the same setting. -/
theorem ignoring_case_widens (hsame : SameTexts d d') (t : TextTest)
    (hop : Members.find? "op" d = some (.string t.name)) (htrue : answer d doc = .ok true) :
    (Members.find? "op" d' = some (.string t.name) → ignoresCase d = false →
      ignoresCase d' = true → answer d' doc = .ok true) ∧
    (Members.find? "op" d' = some (.string "contains") → ignoresCase d' = ignoresCase d →
      answer d' doc = .ok true) := by
  obtain ⟨text, expected, htexts, hrelates⟩ := (t.answer_iff hop).mp htrue
  constructor
  · intro hop' hexact hignoring
    refine (t.answer_iff hop').mpr ⟨text, expected, hsame.texts htexts, ?_⟩
    rw [folded_exact hexact, folded_exact hexact] at hrelates
    rw [folded_ignoring hignoring, folded_ignoring hignoring]
    exact hrelates.uppercase
  · intro hop' hsetting
    refine (TextTest.contains.answer_iff hop').mpr ⟨text, expected, hsame.texts htexts, ?_⟩
    have hfolded : folded d' = folded d := by
      funext s
      rw [folded, hsetting, ← folded]
    rw [hfolded]
    exact hrelates.isInfix

/-- A beginning with a character whose upper-case form is two characters. -/
theorem ignoring_case_widens_eszett :
    let doc : Value := .string "Straße"
    let rest : Members := [("path", .string ""), ("value", .string "Straß")]
    let d : Members := ("op", .string "starts") :: rest
    let ignoring : Members := ("op", .string "starts") :: ("ignore_case", .bool true) :: rest
    let part : Members := ("op", .string "contains") :: rest
    answer d doc = .ok true ∧ answer ignoring doc = .ok true ∧ answer part doc = .ok true := by
  intro doc rest d ignoring part
  have htrue : answer d doc = .ok true :=
    (TextTest.starts.answer_iff rfl).mpr ⟨"Straße", "Straß", ⟨rfl, rfl⟩, ['e'], rfl⟩
  have hsame : SameTexts d ignoring := ⟨rfl, rfl⟩
  have hpart : SameTexts d part := ⟨rfl, rfl⟩
  exact ⟨htrue, (ignoring_case_widens hsame .starts rfl htrue).1 rfl rfl rfl,
    (ignoring_case_widens hpart .starts rfl htrue).2 rfl rfl⟩

end JsonPatch.Predicate
