import JsonPatch.Proofs.Json.Numeral

/-! # The grammar of JSON text

`Spells` says which texts spell a value, and `ComesTo` which texts come, after a correct beginning,
to an integer with too many digits where a value should stand.  Both are relations between texts:
where a part starts and, for `Spells`, what stands after it.  The items of an array and the members
of an object are one kind of part, which differ in the brackets and in what stands before each
value. -/

namespace JsonPatch.Json

/-! ### Values without brackets -/

/-- A string, a word or a number. -/
inductive Scalar : List Char → List Char → Prop where
  | string {s rest : List Char} (h : StringBody s rest) : Scalar ('"' :: s) rest
  | word {w : List Char × Value} (hw : w ∈ words) (rest : List Char) : Scalar (w.1 ++ rest) rest
  | number {s rest : List Char} (h : Numeral s rest) : Scalar s rest

/-- What words start with. -/
theorem word_head {w : List Char × Value} (hw : w ∈ words) {c : Char} {s t : List Char}
    (h : w.1 ++ s = c :: t) : c ∈ ['n', 't', 'f', 'N', 'I', '-'] := by
  simp only [words, List.mem_cons, List.not_mem_nil, or_false] at hw
  rcases hw with rfl | rfl | rfl | rfl | rfl | rfl <;> cases h <;> decide

/-- No word starts as a number does. -/
theorem not_integer_word {w : List Char × Value} (hw : w ∈ words) {n : Nat}
    {s rest : List Char} : ¬ Integer n (w.1 ++ s) rest := by
  intro h
  obtain ⟨c, hc, hdigit⟩ := h.head
  simp only [words, List.mem_cons, List.not_mem_nil, or_false] at hw
  rcases hw with rfl | rfl | rfl | rfl | rfl | rfl <;> cases hc <;> cases hdigit

/-- No word starts with another one. -/
theorem eq_of_prefix_word : ∀ w ∈ words, ∀ w' ∈ words, w.1 <+: w'.1 → w.1 = w'.1 := by
  decide

theorem scalar_quote_iff {s rest : List Char} : Scalar ('"' :: s) rest ↔ StringBody s rest := by
  refine ⟨fun h => ?_, .string⟩
  generalize ht : '"' :: s = t at h
  cases h with
  | string h =>
      cases ht
      exact h
  | word hw => exact absurd (word_head hw ht.symm) (by decide)
  | number h =>
      obtain ⟨n, u, hi⟩ := h.exists_integer
      exact absurd (ht ▸ hi) (not_integer_cons (by decide) (by decide))

theorem scalar_word_iff {w : List Char × Value} (hw : w ∈ words) {s rest : List Char} :
    Scalar (w.1 ++ s) rest ↔ s = rest := by
  constructor
  · intro h
    generalize ht : w.1 ++ s = t at h
    cases h with
    | string h => exact absurd (word_head hw ht) (by decide)
    | word hw' rest =>
        -- Of two words that both stand here, the shorter one starts the longer one.
        have he := List.prefix_or_prefix_of_prefix ⟨s, rfl⟩ ⟨rest, ht.symm⟩
        have he := he.elim (eq_of_prefix_word _ hw _ hw')
          fun h => (eq_of_prefix_word _ hw' _ hw h).symm
        rw [he] at ht
        exact List.append_cancel_left ht
    | number h =>
        obtain ⟨n, u, hi⟩ := h.exists_integer
        exact absurd (ht ▸ hi) (not_integer_word hw)
  · rintro rfl
    exact .word hw s

theorem Scalar.suffix {s rest : List Char} (h : Scalar s rest) : rest <:+ s := by
  cases h with
  | string h => exact h.suffix.trans (List.suffix_cons _ _)
  | word => exact List.suffix_append _ _
  | number h => exact h.suffix

/-- The brackets and the byte order mark: no value without brackets starts with one of them. -/
def structural : List Char := ['[', ']', '\x7b', '\x7d', '\ufeff']

theorem not_integer_structural {c : Char} (hc : c ∈ structural) {n : Nat} {s rest : List Char} :
    ¬ Integer n (c :: s) rest := by
  simp only [structural, List.mem_cons, List.not_mem_nil, or_false] at hc
  rcases hc with rfl | rfl | rfl | rfl | rfl <;> exact not_integer_cons (by decide) (by decide)

theorem not_scalar_structural {c : Char} (hc : c ∈ structural) {s rest : List Char} :
    ¬ Scalar (c :: s) rest := by
  intro h
  generalize ht : c :: s = t at h
  cases h with
  | string =>
      cases ht
      exact absurd hc (by decide)
  | word hw =>
      have hmem := word_head hw ht.symm
      simp only [structural, List.mem_cons, List.not_mem_nil, or_false] at hc
      rcases hc with rfl | rfl | rfl | rfl | rfl <;> exact absurd hmem (by decide)
  | number h =>
      obtain ⟨n, u, hi⟩ := h.exists_integer
      exact not_integer_structural hc (ht ▸ hi)

/-! ### Parts of a text -/

/-- The brackets of arrays and those of objects. -/
inductive Bracket where
  | square
  | curly

namespace Bracket

def opening : Bracket → Char
  | square => '['
  | curly => '\x7b'

def closing : Bracket → Char
  | square => ']'
  | curly => '\x7d'

theorem opening_injective {b b' : Bracket} (h : b.opening = b'.opening) : b = b' := by
  cases b <;> cases b' <;> cases h <;> rfl

/-- What stands before each value in brackets: nothing in an array, a name and a colon in an
object. -/
inductive Lead : Bracket → List Char → List Char → Prop where
  | item (s : List Char) : Lead square s s
  | member {s t u rest : List Char} (hname : StringBody s t) (hcolon : Gap t (':' :: u))
    (hgap : Gap u rest) : Lead curly ('"' :: s) rest

theorem Lead.suffix {b : Bracket} {s rest : List Char} (h : b.Lead s rest) : rest <:+ s := by
  cases h with
  | item => exact List.suffix_rfl
  | member hname hcolon hgap =>
      have hu := (List.suffix_cons _ _).trans hcolon.suffix
      exact ((hgap.suffix.trans hu).trans hname.suffix).trans (List.suffix_cons _ _)

end Bracket

/-- A value, or all that stands in brackets, with the closing one. -/
inductive Part where
  | value
  | items (b : Bracket)

/-- A part is spelled from the start of the first text up to the second one. -/
inductive Spells : Part → List Char → List Char → Prop where
  | scalar {s rest : List Char} (h : Scalar s rest) : Spells .value s rest
  | empty (b : Bracket) {s rest : List Char} (hgap : Gap s (b.closing :: rest)) :
    Spells .value (b.opening :: s) rest
  | filled (b : Bracket) {s t rest : List Char} (hgap : Gap s t) (h : Spells (.items b) t rest) :
    Spells .value (b.opening :: s) rest
  | last {b : Bracket} {s t u rest : List Char} (hlead : b.Lead s t) (hv : Spells .value t u)
    (hend : Gap u (b.closing :: rest)) : Spells (.items b) s rest
  | more {b : Bracket} {s t u v w rest : List Char} (hlead : b.Lead s t) (hv : Spells .value t u)
    (hcomma : Gap u (',' :: v)) (hgap : Gap v w) (h : Spells (.items b) w rest) :
    Spells (.items b) s rest

/-- Reading a part from the start of the text comes to an integer of `n` digits, which are too
many. -/
inductive ComesTo (n : Nat) : Part → List Char → Prop where
  | integer {s rest : List Char} (h : LongInteger n s rest) : ComesTo n .value s
  | inside (b : Bracket) {s t : List Char} (hgap : Gap s t) (h : ComesTo n (.items b) t) :
    ComesTo n .value (b.opening :: s)
  | here {b : Bracket} {s t : List Char} (hlead : b.Lead s t) (h : ComesTo n .value t) :
    ComesTo n (.items b) s
  | later {b : Bracket} {s t u v w : List Char} (hlead : b.Lead s t) (hv : Spells .value t u)
    (hcomma : Gap u (',' :: v)) (hgap : Gap v w) (h : ComesTo n (.items b) w) :
    ComesTo n (.items b) s

theorem Spells.suffix {part : Part} {s rest : List Char} (h : Spells part s rest) :
    rest <:+ s := by
  induction h with
  | scalar h => exact h.suffix
  | empty b hgap => exact ((List.suffix_cons _ _).trans hgap.suffix).trans (List.suffix_cons _ _)
  | filled b hgap _ ih => exact (ih.trans hgap.suffix).trans (List.suffix_cons _ _)
  | last hlead _ hend ih =>
      exact (((List.suffix_cons _ _).trans hend.suffix).trans ih).trans hlead.suffix
  | more hlead _ hcomma hgap _ ihv ih =>
      have hw := (hgap.suffix.trans (List.suffix_cons _ _)).trans hcomma.suffix
      exact ((ih.trans hw).trans ihv).trans hlead.suffix

/-! ### What values start with -/

theorem Bracket.opening_mem (b : Bracket) : b.opening ∈ structural := by
  cases b <;> decide

/-- No value starts with a closing bracket or a byte order mark. -/
theorem not_spells_outside {c : Char} (hc : c ∈ structural) (hne : ∀ b : Bracket, b.opening ≠ c)
    {s rest : List Char} : ¬ Spells .value (c :: s) rest := by
  intro h
  generalize ht : c :: s = t at h
  cases h with
  | scalar h => exact not_scalar_structural hc (ht ▸ h)
  | empty b => exact hne b (List.cons.inj ht).1.symm
  | filled b => exact hne b (List.cons.inj ht).1.symm

theorem not_comesTo_outside {c : Char} (hc : c ∈ structural) (hne : ∀ b : Bracket, b.opening ≠ c)
    {n : Nat} {s : List Char} : ¬ ComesTo n .value (c :: s) := by
  intro h
  generalize ht : c :: s = t at h
  cases h with
  | integer h => exact not_integer_structural hc (ht ▸ h.integer)
  | inside b => exact hne b (List.cons.inj ht).1.symm

/-- The bracket that a text opens. -/
def Bracket.opened? : List Char → Option Bracket
  | '[' :: _ => some square
  | '\x7b' :: _ => some curly
  | _ => none

theorem opened?_eq_some {s : List Char} {b : Bracket} :
    Bracket.opened? s = some b ↔ ∃ t, s = b.opening :: t := by
  constructor
  · intro h
    unfold Bracket.opened? at h
    split at h <;> cases h <;> exact ⟨_, rfl⟩
  · rintro ⟨t, rfl⟩
    cases b <;> rfl

/-- A value without a bracket at its start has none at all. -/
theorem spells_iff_scalar {s rest : List Char} (h : Bracket.opened? s = none) :
    Spells .value s rest ↔ Scalar s rest := by
  refine ⟨fun hs => ?_, .scalar⟩
  cases hs with
  | scalar hs => exact hs
  | empty b => rw [opened?_eq_some.mpr ⟨_, rfl⟩] at h; cases h
  | filled b => rw [opened?_eq_some.mpr ⟨_, rfl⟩] at h; cases h

theorem comesTo_iff_longInteger {n : Nat} {s : List Char} (h : Bracket.opened? s = none) :
    ComesTo n .value s ↔ ∃ rest, LongInteger n s rest := by
  constructor
  · intro hs
    cases hs with
    | integer hs => exact ⟨_, hs⟩
    | inside b => rw [opened?_eq_some.mpr ⟨_, rfl⟩] at h; cases h
  · rintro ⟨rest, hs⟩
    exact .integer hs

/-! ### What stands in brackets -/

/-- What follows a value in brackets: the closing one, or a comma and the other values. -/
def Continues (b : Bracket) (s rest : List Char) : Prop :=
  Gap s (b.closing :: rest) ∨ ∃ v w, Gap s (',' :: v) ∧ Gap v w ∧ Spells (.items b) w rest

/-- A comma follows and then values among which the integer is. -/
def ContinuesTo (n : Nat) (b : Bracket) (s : List Char) : Prop :=
  ∃ v w, Gap s (',' :: v) ∧ Gap v w ∧ ComesTo n (.items b) w

theorem spells_items_iff {b : Bracket} {s rest : List Char} :
    Spells (.items b) s rest ↔
      ∃ t, b.Lead s t ∧ ∃ u, Spells .value t u ∧ Continues b u rest := by
  constructor
  · intro h
    cases h with
    | last hlead hv hend => exact ⟨_, hlead, _, hv, .inl hend⟩
    | more hlead hv hcomma hgap h => exact ⟨_, hlead, _, hv, .inr ⟨_, _, hcomma, hgap, h⟩⟩
  · rintro ⟨t, hlead, u, hv, hend | ⟨v, w, hcomma, hgap, h⟩⟩
    · exact .last hlead hv hend
    · exact .more hlead hv hcomma hgap h

theorem comesTo_items_iff {n : Nat} {b : Bracket} {s : List Char} :
    ComesTo n (.items b) s ↔ ∃ t, b.Lead s t ∧
      (ComesTo n .value t ∨ ∃ u, Spells .value t u ∧ ContinuesTo n b u) := by
  constructor
  · intro h
    cases h with
    | here hlead h => exact ⟨_, hlead, .inl h⟩
    | later hlead hv hcomma hgap h => exact ⟨_, hlead, .inr ⟨_, hv, _, _, hcomma, hgap, h⟩⟩
  · rintro ⟨t, hlead, h | ⟨u, hv, v, w, hcomma, hgap, h⟩⟩
    · exact .here hlead h
    · exact .later hlead hv hcomma hgap h

/-- Brackets close at once, or all that stands in them follows. -/
theorem spells_opening_iff {b : Bracket} {s rest : List Char} :
    Spells .value (b.opening :: s) rest ↔
      ∃ t, Gap s t ∧ (t = b.closing :: rest ∨ Spells (.items b) t rest) := by
  constructor
  · intro h
    generalize hs : b.opening :: s = s' at h
    cases h with
    | scalar h => exact absurd (hs ▸ h) (not_scalar_structural b.opening_mem)
    | empty b' hgap =>
        obtain ⟨hb, rfl⟩ := List.cons.inj hs
        cases Bracket.opening_injective hb
        exact ⟨_, hgap, .inl rfl⟩
    | filled b' hgap h =>
        obtain ⟨hb, rfl⟩ := List.cons.inj hs
        cases Bracket.opening_injective hb
        exact ⟨_, hgap, .inr h⟩
  · rintro ⟨t, hgap, rfl | h⟩
    · exact .empty b hgap
    · exact .filled b hgap h

theorem comesTo_opening_iff {n : Nat} {b : Bracket} {s : List Char} :
    ComesTo n .value (b.opening :: s) ↔ ∃ t, Gap s t ∧ ComesTo n (.items b) t := by
  constructor
  · intro h
    generalize hs : b.opening :: s = s' at h
    cases h with
    | integer h => exact absurd (hs ▸ h.integer) (not_integer_structural b.opening_mem)
    | inside b' hgap h =>
        obtain ⟨hb, rfl⟩ := List.cons.inj hs
        cases Bracket.opening_injective hb
        exact ⟨_, hgap, h⟩
  · rintro ⟨t, hgap, h⟩
    exact .inside b hgap h

/-- Nothing stands in brackets that close at once. -/
theorem lead_closing {b : Bracket} {s t : List Char} (h : b.Lead (b.closing :: s) t) :
    b = .square ∧ t = ']' :: s := by
  generalize hs : b.closing :: s = s' at h
  cases h with
  | item => exact ⟨rfl, hs.symm⟩
  | member => cases hs

theorem not_spells_closing {b : Bracket} {s rest : List Char} :
    ¬ Spells (.items b) (b.closing :: s) rest := by
  rw [spells_items_iff]
  rintro ⟨t, hlead, u, hv, -⟩
  obtain ⟨rfl, rfl⟩ := lead_closing hlead
  exact not_spells_outside (by decide) (by rintro (_ | _) <;> decide) hv

theorem not_comesTo_closing {n : Nat} {b : Bracket} {s : List Char} :
    ¬ ComesTo n (.items b) (b.closing :: s) := by
  rw [comesTo_items_iff]
  rintro ⟨t, hlead, h⟩
  obtain ⟨rfl, rfl⟩ := lead_closing hlead
  rcases h with h | ⟨u, hv, -⟩
  · exact not_comesTo_outside (by decide) (by rintro (_ | _) <;> decide) h
  · exact not_spells_outside (by decide) (by rintro (_ | _) <;> decide) hv

/-! ### Whole texts -/

/-- The text spells a value, between white space. -/
def IsSpelled (text : List Char) : Prop :=
  ∃ s t, Gap text s ∧ Spells .value s t ∧ Gap t []

/-- The text comes to an integer of `n` digits, which are too many. -/
def ComesToLong (n : Nat) (text : List Char) : Prop :=
  ∃ s, Gap text s ∧ ComesTo n .value s

/-- A text with a byte order mark neither spells a value nor comes to an integer. -/
theorem gap_byteOrderMark {s t : List Char} (h : Gap ('\ufeff' :: s) t) : t = '\ufeff' :: s := by
  have hc : Gap (Cursor.mk ('\ufeff' :: s) 0).rest t := h
  exact (gap_iff.mp hc).symm

theorem opening_ne_byteOrderMark (b : Bracket) : b.opening ≠ '\ufeff' := by
  cases b <;> decide

theorem not_isSpelled_byteOrderMark {s : List Char} : ¬ IsSpelled ('\ufeff' :: s) := by
  rintro ⟨t, u, hgap, h, -⟩
  rw [gap_byteOrderMark hgap] at h
  exact not_spells_outside (by decide) opening_ne_byteOrderMark h

theorem not_comesToLong_byteOrderMark {n : Nat} {s : List Char} :
    ¬ ComesToLong n ('\ufeff' :: s) := by
  rintro ⟨t, hgap, h⟩
  rw [gap_byteOrderMark hgap] at h
  exact not_comesTo_outside (by decide) opening_ne_byteOrderMark h

/-- A text of more ones than are read. -/
theorem comesToLong_ones {n : Nat} (h : digitLimit < n) :
    ComesToLong n (List.replicate n '1') := by
  have hone : ∀ c ∈ (List.replicate n '1').head?, c = '1' := fun c hc =>
    List.eq_of_mem_replicate (List.mem_of_head? hc)
  have hrun : Run Text.isAsciiDigit (List.replicate n '1') (List.replicate n '1') [] :=
    ⟨(List.append_nil _).symm, fun c hc => List.eq_of_mem_replicate hc ▸ rfl, nofun⟩
  have hne : List.replicate n '1' ≠ [] := by
    rw [List.ne_nil_iff_length_pos, List.length_replicate]
    exact Nat.zero_lt_of_lt h
  have hzero : (List.replicate n '1').head? ≠ some '0' := fun hc => absurd (hone _ hc) (by decide)
  have hwhole := Whole.digits hzero ⟨hrun, hne⟩
  rw [List.length_replicate] at hwhole
  refine ⟨_, ⟨[], rfl, nofun, fun c hc => hone c hc ▸ rfl⟩, .integer ⟨.plain hwhole, h, ?_, ?_⟩⟩
  · exact not_fraction_iff.mpr rfl
  · exact not_exponent_iff.mpr rfl

end JsonPatch.Json
