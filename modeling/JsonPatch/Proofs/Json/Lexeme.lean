import JsonPatch.Json.Reader
import Mathlib.Data.List.TakeWhile
import Mathlib.Tactic.Common

/-! # The lexemes of JSON text

What white space and strings look like in a text, without a word on how they are read: a relation
between the text where the lexeme starts and the text that stands after it.  What consists of
characters of one kind goes as far as it can, so at most one text stands after a lexeme.

A reader decides two questions, which text stands after a part and which integer of too many digits
it comes to (`Decides`).  Steps that decide their questions do so one after the other
(`Decides.bind`); reading a string is such a step (`decides_readString`). -/

namespace JsonPatch.Json

/-! ### Outcomes of reading -/

/-- A reader ends where the part that it reads does, and it stops at an integer of too many digits
exactly if it comes to one.  `ends` holds of the text after the part, `long` of the number of
digits. -/
structure Decides (r : Except Stop Cursor) (ends : List Char → Prop) (long : Nat → Prop) :
    Prop where
  ends_iff : ∀ rest, ends rest ↔ ∃ position, r = .ok ⟨rest, position⟩
  long_iff : ∀ n, long n ↔ r = .error (.longNumber n)

namespace Decides

variable {r : Except Stop Cursor} {f : Cursor → Except Stop Cursor} {ends ends' : List Char → Prop}
  {long long' : Nat → Prop}

theorem congr (h : Decides r ends long) (he : ∀ rest, ends' rest ↔ ends rest)
    (hl : ∀ n, long' n ↔ long n) : Decides r ends' long' :=
  ⟨fun rest => (he rest).trans (h.ends_iff rest), fun n => (hl n).trans (h.long_iff n)⟩

theorem of_eq_ok (h : Decides r ends long) {c : Cursor} (hr : r = .ok c) : ends c.rest :=
  (h.ends_iff _).mpr ⟨c.position, hr⟩

/-- Reading ends here. -/
theorem ok {c : Cursor} (he : ∀ rest, ends rest ↔ c.rest = rest) (hl : ∀ n, ¬ long n) :
    Decides (.ok c) ends long := by
  refine ⟨fun rest => (he rest).trans ⟨?_, ?_⟩, fun n => ⟨fun h => absurd h (hl n), nofun⟩⟩
  · rintro rfl
    exact ⟨c.position, rfl⟩
  · rintro ⟨position, h⟩
    cases h
    rfl

/-- Reading fails here. -/
theorem problem {p : Problem} {position : Nat} (he : ∀ rest, ¬ ends rest) (hl : ∀ n, ¬ long n) :
    Decides (.error (.problem p position)) ends long :=
  ⟨fun rest => ⟨fun h => absurd h (he rest), nofun⟩, fun n => ⟨fun h => absurd h (hl n), nofun⟩⟩

/-- Reading comes to an integer with too many digits here. -/
theorem tooLong {k : Nat} (he : ∀ rest, ¬ ends rest) (hl : ∀ n, long n ↔ n = k) :
    Decides (.error (.longNumber k)) ends long := by
  refine ⟨fun rest => ⟨fun h => absurd h (he rest), nofun⟩, fun n => (hl n).trans ⟨?_, ?_⟩⟩
  · rintro rfl
    rfl
  · rintro ⟨⟩
    rfl

/-- A reader that gets somewhere has read its part. -/
theorem ends_of_ok {c : Cursor} (h : Decides (.ok c) ends long) (rest : List Char) :
    ends rest ↔ c.rest = rest := by
  refine (h.ends_iff rest).trans ⟨?_, ?_⟩
  · rintro ⟨position, hc⟩
    cases hc
    rfl
  · rintro rfl
    exact ⟨c.position, rfl⟩

/-- One reader after the other. -/
theorem bind (h : Decides r ends long) (ends' : List Char → List Char → Prop)
    (long' : List Char → Nat → Prop)
    (hf : ∀ c, r = .ok c → Decides (f c) (ends' c.rest) (long' c.rest)) :
    Decides (r.bind f) (fun rest => ∃ t, ends t ∧ ends' t rest)
      fun n => long n ∨ ∃ t, ends t ∧ long' t n := by
  cases r with
  | error e =>
      have hends : ∀ t, ¬ ends t := fun t ht => by
        obtain ⟨_, he⟩ := (h.ends_iff t).mp ht
        cases he
      refine ⟨fun rest => ⟨?_, nofun⟩, fun n => ⟨?_, fun he => .inl ((h.long_iff n).mpr ?_)⟩⟩
      · rintro ⟨t, ht, -⟩
        exact absurd ht (hends t)
      · rintro (hn | ⟨t, ht, -⟩)
        · rw [(h.long_iff n).mp hn]
          rfl
        · exact absurd ht (hends t)
      · cases he
        rfl
  | ok c =>
      have hlong : ∀ n, ¬ long n := fun n hn => by
        cases (h.long_iff n).mp hn
      refine (hf c rfl).congr (fun rest => ?_) fun n => ?_
      · simp only [h.ends_of_ok, exists_eq_left']
      · simp only [h.ends_of_ok, hlong, false_or, exists_eq_left']

end Decides

/-! ### Runs -/

/-- A text starts with `run`, whose characters are of one kind, and goes on with another one. -/
structure Run (kind : Char → Bool) (run s rest : List Char) : Prop where
  split : s = run ++ rest
  kind_of_mem : ∀ c ∈ run, kind c = true
  stops : ∀ c ∈ rest.head?, kind c = false

theorem run_iff {kind : Char → Bool} {run s rest : List Char} :
    Run kind run s rest ↔ run = s.takeWhile kind ∧ rest = s.drop (s.takeWhile kind).length := by
  constructor
  · rintro ⟨rfl, hkind, hstops⟩
    have hrest : rest.takeWhile kind = [] := by
      cases rest with
      | nil => rfl
      | cons c rest => simp [hstops c rfl]
    rw [List.takeWhile_append_of_pos hkind, hrest, List.append_nil, List.drop_left]
    exact ⟨rfl, rfl⟩
  · rintro ⟨rfl, rfl⟩
    have hrest : s.drop (s.takeWhile kind).length = s.dropWhile kind :=
      (congrArg (List.drop _) List.takeWhile_append_dropWhile.symm).trans List.drop_left
    rw [hrest]
    refine ⟨List.takeWhile_append_dropWhile.symm, fun c hc => List.mem_takeWhile_imp hc, ?_⟩
    intro c hc
    have h := List.head?_dropWhile_not kind s
    rw [hc] at h
    exact h

theorem Cursor.length_advance_le (c : Cursor) (n : Nat) :
    (c.advance n).rest.length ≤ c.rest.length :=
  (List.drop_suffix n c.rest).length_le

theorem Cursor.rest_advance {c : Cursor} (s : List Char) {t : List Char} (h : c.rest = s ++ t) :
    (c.advance s.length).rest = t := by
  rw [advance, h, List.drop_left]

/-! ### White space -/

/-- All the white space at the start of a text. -/
def Gap (s rest : List Char) : Prop :=
  ∃ run, Run Cursor.isSpace run s rest

theorem gap_iff {c : Cursor} {rest : List Char} : Gap c.rest rest ↔ c.skipSpace.rest = rest := by
  simp only [Gap, run_iff, exists_eq_left]
  exact eq_comm

theorem Gap.suffix {s rest : List Char} : Gap s rest → rest <:+ s
  | ⟨run, h⟩ => ⟨run, h.split.symm⟩

theorem Cursor.skipSpace_suffix (c : Cursor) : c.skipSpace.rest <:+ c.rest :=
  List.drop_suffix _ _

theorem decides_skipSpace (c : Cursor) : Decides (.ok c.skipSpace) (Gap c.rest) fun _ => False :=
  .ok (fun _ => gap_iff) fun _ => id

/-! ### Strings -/

/-- The inside of a string and its closing quote. -/
inductive StringBody : List Char → List Char → Prop where
  | close (rest : List Char) : StringBody ('"' :: rest) rest
  | plain {c : Char} {s rest : List Char} (hquote : c ≠ '"') (hslash : c ≠ '\\')
    (hcontrol : ¬ c.val < 0x20) (h : StringBody s rest) : StringBody (c :: s) rest
  | escape {e : Char} {s rest : List Char} (he : (escaped? e).isSome) (h : StringBody s rest) :
    StringBody ('\\' :: e :: s) rest
  | unicode {d₁ d₂ d₃ d₄ : Char} {s rest : List Char}
    (hd : (hexNumber? [d₁, d₂, d₃, d₄]).isSome) (h : StringBody s rest) :
    StringBody ('\\' :: 'u' :: d₁ :: d₂ :: d₃ :: d₄ :: s) rest

namespace StringBody

variable {s rest : List Char}

theorem suffix (h : StringBody s rest) : rest <:+ s := by
  induction h with
  | close rest => exact List.suffix_cons _ _
  | plain _ _ _ _ ih => exact ih.trans (List.suffix_cons _ _)
  | escape _ _ ih => exact ih.trans ⟨[_, _], rfl⟩
  | unicode _ _ ih => exact ih.trans ⟨[_, _, _, _, _, _], rfl⟩

theorem nil_iff : StringBody [] rest ↔ False :=
  ⟨nofun, nofun⟩

theorem quote_iff : StringBody ('"' :: s) rest ↔ s = rest := by
  constructor
  · intro h
    cases h with
    | close => rfl
    | plain hquote => exact absurd rfl hquote
  · rintro rfl
    exact .close s

theorem plain_iff {c : Char} (hquote : c ≠ '"') (hslash : c ≠ '\\') :
    StringBody (c :: s) rest ↔ ¬ c.val < 0x20 ∧ StringBody s rest := by
  constructor
  · intro h
    cases h with
    | close => exact absurd rfl hquote
    | plain _ _ hcontrol h => exact ⟨hcontrol, h⟩
    | escape => exact absurd rfl hslash
    | unicode => exact absurd rfl hslash
  · rintro ⟨hcontrol, h⟩
    exact .plain hquote hslash hcontrol h

theorem slash_iff : StringBody ['\\'] rest ↔ False := by
  refine ⟨fun h => ?_, nofun⟩
  cases h with
  | plain _ hslash => exact absurd rfl hslash

theorem escape_iff {e : Char} (hu : e ≠ 'u') :
    StringBody ('\\' :: e :: s) rest ↔ (escaped? e).isSome ∧ StringBody s rest := by
  constructor
  · intro h
    cases h with
    | plain _ hslash => exact absurd rfl hslash
    | escape he h => exact ⟨he, h⟩
    | unicode => exact absurd rfl hu
  · rintro ⟨he, h⟩
    exact .escape he h

theorem unicode_iff : StringBody ('\\' :: 'u' :: s) rest ↔
    ∃ d₁ d₂ d₃ d₄ t, s = d₁ :: d₂ :: d₃ :: d₄ :: t ∧ (hexNumber? [d₁, d₂, d₃, d₄]).isSome ∧
      StringBody t rest := by
  constructor
  · intro h
    cases h with
    | plain _ hslash => exact absurd rfl hslash
    | escape he => cases he
    | unicode hd h => exact ⟨_, _, _, _, _, rfl, hd, h⟩
  · rintro ⟨d₁, d₂, d₃, d₄, t, rfl, hd, h⟩
    exact .unicode hd h

/-- An escape by code needs the text after it. -/
theorem unicode_iff_of_hex {d₁ d₂ d₃ d₄ : Char} {code : Nat}
    (hd : hexNumber? [d₁, d₂, d₃, d₄] = some code) :
    StringBody ('\\' :: 'u' :: d₁ :: d₂ :: d₃ :: d₄ :: s) rest ↔ StringBody s rest := by
  rw [unicode_iff]
  constructor
  · rintro ⟨_, _, _, _, t, he, -, h⟩
    cases he
    exact h
  · intro h
    exact ⟨_, _, _, _, s, rfl, hd ▸ rfl, h⟩

theorem not_unicode_of_hex {d₁ d₂ d₃ d₄ : Char} (hd : hexNumber? [d₁, d₂, d₃, d₄] = none) :
    ¬ StringBody ('\\' :: 'u' :: d₁ :: d₂ :: d₃ :: d₄ :: s) rest := by
  rw [unicode_iff]
  rintro ⟨_, _, _, _, t, he, hsome, -⟩
  cases he
  rw [hd] at hsome
  cases hsome

end StringBody

/-- What is taken for the second half of a pair is an escape by code of its own. -/
theorem lowSurrogate_cases (high : Nat) (c : Cursor) :
    (∃ p position, lowSurrogate high c = .error (.problem p position) ∧
        ∀ rest, ¬ StringBody c.rest rest) ∨
      lowSurrogate high c = .ok none ∨
      ∃ code, lowSurrogate high c = .ok (some code) ∧
        ∀ rest, StringBody c.rest rest ↔ StringBody (c.advance 6).rest rest := by
  unfold lowSurrogate
  split
  · rename_i d₁ d₂ d₃ d₄ x t hc
    split
    · rename_i hd
      refine .inl ⟨_, _, rfl, fun rest => ?_⟩
      rw [hc]
      exact StringBody.not_unicode_of_hex hd
    · rename_i low hd
      split_ifs
      · refine .inr (.inr ⟨_, rfl, fun rest => ?_⟩)
        have ht : (c.advance 6).rest = x :: t :=
          Cursor.rest_advance ['\\', 'u', d₁, d₂, d₃, d₄] hc
        rw [ht, hc]
        exact StringBody.unicode_iff_of_hex hd
      · exact .inr (.inl rfl)
  · exact .inr (.inl rfl)

/-- An escape by code, or a pair of them, is read, or there is none. -/
theorem hexEscape_cases (c : Cursor) :
    (∃ p position, hexEscape c = .error (.problem p position) ∧
        ∀ rest, ¬ StringBody ('\\' :: 'u' :: c.rest) rest) ∨
      ∃ code after, hexEscape c = .ok (code, after) ∧ after.rest.length ≤ c.rest.length ∧
        ∀ rest, StringBody ('\\' :: 'u' :: c.rest) rest ↔ StringBody after.rest rest := by
  unfold hexEscape
  split
  · rename_i d₁ d₂ d₃ d₄ x t hc
    have hlength : (c.advance 4).rest.length ≤ c.rest.length := c.length_advance_le 4
    split
    · rename_i hd
      refine .inl ⟨_, _, rfl, fun rest => ?_⟩
      rw [hc]
      exact StringBody.not_unicode_of_hex hd
    · rename_i code hd
      have hone : ∀ rest, StringBody ('\\' :: 'u' :: c.rest) rest ↔
          StringBody (c.advance 4).rest rest := fun rest => by
        have ht : (c.advance 4).rest = x :: t := Cursor.rest_advance [d₁, d₂, d₃, d₄] hc
        rw [ht, hc]
        exact StringBody.unicode_iff_of_hex hd
      dsimp only
      split_ifs
      · rcases lowSurrogate_cases code (c.advance 4) with
          ⟨p, position, hlow, hnone⟩ | hlow | ⟨pair, hlow, hpair⟩
        · rw [hlow]
          exact .inl ⟨_, _, rfl, fun rest h => hnone rest ((hone rest).mp h)⟩
        · rw [hlow]
          exact .inr ⟨_, _, rfl, hlength, hone⟩
        · rw [hlow]
          refine .inr ⟨_, _, rfl, ?_, fun rest => (hone rest).trans (hpair rest)⟩
          exact ((c.advance 4).length_advance_le 6).trans hlength
      · exact .inr ⟨_, _, rfl, hlength, hone⟩
  · rename_i hshort
    refine .inl ⟨_, _, rfl, fun rest h => ?_⟩
    obtain ⟨d₁, d₂, d₃, d₄, t, ht, -, h⟩ := StringBody.unicode_iff.mp h
    cases t with
    | nil => cases h
    | cons x t => exact hshort _ _ _ _ _ _ ht

/-- Reading a string ends behind its closing quote. -/
theorem decides_readString (start : Nat) {fuel : Nat} {c : Cursor} (hfuel : c.rest.length < fuel)
    (done : List Char) : Decides ((readString start fuel c done).map (·.2)) (StringBody c.rest)
      fun _ => False := by
  induction fuel generalizing c done with
  | zero => cases hfuel
  | succ fuel ih =>
      rw [readString]
      split
      · rename_i hc
        exact .problem (fun rest => hc ▸ StringBody.nil_iff.mp) fun _ => id
      · rename_i t hc
        have ht : (c.advance 1).rest = t := Cursor.rest_advance ['"'] hc
        refine .ok (fun rest => ?_) fun _ => id
        rw [ht, hc]
        exact StringBody.quote_iff
      · rename_i hc
        exact .problem (fun rest => hc ▸ StringBody.slash_iff.mp) fun _ => id
      · rename_i t hc
        have ht : (c.advance 2).rest = t := Cursor.rest_advance ['\\', 'u'] hc
        have hescape := hexEscape_cases (c.advance 2)
        rw [ht, ← hc] at hescape
        rcases hescape with ⟨p, position, he, hnone⟩ | ⟨code, after, he, hlength, h⟩
        · rw [he]
          exact .problem hnone fun _ => id
        · rw [he]
          rw [hc, List.length_cons, List.length_cons] at hfuel
          exact (ih (by omega) _).congr h fun _ => Iff.rfl
      · rename_i e t hu hc
        have ht : (c.advance 2).rest = t := Cursor.rest_advance ['\\', e] hc
        have hescape : ∀ rest, StringBody c.rest rest ↔
            (escaped? e).isSome ∧ StringBody t rest := fun rest => by
          rw [hc]
          exact StringBody.escape_iff hu
        split
        · rename_i x he
          rw [hc, List.length_cons, List.length_cons] at hfuel
          refine (ih (by rw [ht]; omega) _).congr (fun rest => ?_) fun _ => Iff.rfl
          rw [hescape, ht, he]
          exact and_iff_right rfl
        · rename_i he
          refine .problem (fun rest h => ?_) fun _ => id
          rw [hescape, he] at h
          cases h.1
      · rename_i x t hquote hlone _ hslash hc
        have ht : (c.advance 1).rest = t := Cursor.rest_advance [x] hc
        have hne : x ≠ '\\' := by
          rintro rfl
          cases t with
          | nil => exact hlone rfl rfl
          | cons e t => exact hslash e t rfl rfl
        have hplain : ∀ rest, StringBody c.rest rest ↔ ¬ x.val < 0x20 ∧ StringBody t rest :=
          fun rest => by
            rw [hc]
            exact StringBody.plain_iff hquote hne
        split_ifs with hcontrol
        · exact .problem (fun rest h => ((hplain rest).mp h).1 hcontrol) fun _ => id
        · rw [hc, List.length_cons] at hfuel
          refine (ih (by rw [ht]; omega) _).congr (fun rest => ?_) fun _ => Iff.rfl
          rw [hplain, ht]
          exact and_iff_right hcontrol

end JsonPatch.Json
