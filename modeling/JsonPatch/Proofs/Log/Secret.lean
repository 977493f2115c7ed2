import JsonPatch.Log.Redaction
import Mathlib.Data.List.Infix
import Mathlib.Data.List.TakeWhile
import Mathlib.Tactic.Common

/-! # Secrets in a text

A secret is a stretch of a text: a bearer token (`IsBearer`) or an e-mail address (`IsAddress`).
The searches of the redaction look at one character of a token and at one before the sign of an
address, at two letters and no more of a top domain; they find a secret exactly where there is one
all the same (`hasBearer_iff`, `hasAddress_iff`). -/

namespace JsonPatch.Redaction

/-- A bearer token: the word in any case, white space, and characters of the token. -/
def IsBearer (s : List Char) : Prop :=
  ∃ word gap token, s = word ++ gap ++ token ∧ word.map Char.toLower = bearerWord ∧
    gap ≠ [] ∧ (∀ c ∈ gap, Text.isBlank c = true) ∧
    token ≠ [] ∧ ∀ c ∈ token, isTokenChar c = true

/-- An e-mail address: a name, the sign, a domain, a dot, and two letters or more. -/
def IsAddress (s : List Char) : Prop :=
  ∃ name domain top, s = name ++ '@' :: (domain ++ '.' :: top) ∧
    name ≠ [] ∧ (∀ c ∈ name, isLocalChar c = true) ∧
    domain ≠ [] ∧ (∀ c ∈ domain, isDomainChar c = true) ∧
    2 ≤ top.length ∧ ∀ c ∈ top, isLetter c = true

/-- There is a bearer token in the text. -/
def HasBearer (s : String) : Prop := ∃ part, part <:+: s.toList ∧ IsBearer part

/-- There is an e-mail address in the text. -/
def HasAddress (s : String) : Prop := ∃ part, part <:+: s.toList ∧ IsAddress part

/-- There is neither a bearer token nor an e-mail address in the text. -/
def IsClean (s : String) : Prop := ¬ HasBearer s ∧ ¬ HasAddress s

theorem anyTail_iff {p : List Char → Bool} {s : List Char} :
    anyTail p s = true ↔ ∃ t, t <:+ s ∧ p t = true := by
  induction s with
  | nil => simp [anyTail]
  | cons c rest ih =>
      rw [anyTail, Bool.or_eq_true, ih]
      simp only [List.suffix_cons_iff, or_and_right, exists_or, exists_eq_left]

/-- A search for beginnings finds what occurs anywhere. -/
theorem anyTail_iff_occurs {p : List Char → Bool} {q : List Char → Prop}
    (h : ∀ t, p t = true ↔ ∃ part, part <+: t ∧ q part) (s : List Char) :
    anyTail p s = true ↔ ∃ part, part <:+: s ∧ q part := by
  rw [anyTail_iff]
  constructor
  · rintro ⟨t, ht, hp⟩
    obtain ⟨part, hpart, hq⟩ := (h t).mp hp
    exact ⟨part, List.infix_iff_prefix_suffix.mpr ⟨t, hpart, ht⟩, hq⟩
  · rintro ⟨part, hpart, hq⟩
    obtain ⟨t, hbegins, ht⟩ := List.infix_iff_prefix_suffix.mp hpart
    exact ⟨t, ht, (h t).mpr ⟨part, hbegins, hq⟩⟩

theorem isBlank_of_isLetterOrDigit {c : Char} (h : isLetterOrDigit c = true) :
    Text.isBlank c = false := by
  simp only [isLetterOrDigit, isLetter, Bool.or_eq_true, Bool.and_eq_true, decide_eq_true_eq,
    Char.le_def, UInt32.le_iff_toNat_le] at h
  have hrange : 48 ≤ c.val.toNat ∧ c.val.toNat ≤ 122 := by
    rcases h with (h | h) | h
    · change 65 ≤ c.val.toNat ∧ c.val.toNat ≤ 90 at h
      omega
    · change 97 ≤ c.val.toNat ∧ c.val.toNat ≤ 122 at h
      omega
    · change 48 ≤ c.val.toNat ∧ c.val.toNat ≤ 57 at h
      omega
  have hlow : c.val < 0x80 := by
    change c.val.toNat < 128
    omega
  have hhigh : ¬ (c.val ≤ 0x0d) ∧ ¬ (c.val ≤ 0x20) := by
    change ¬ (c.val.toNat ≤ 13) ∧ ¬ (c.val.toNat ≤ 32)
    omega
  rw [Text.isBlank, if_pos hlow, decide_eq_false hhigh.1, decide_eq_false hhigh.2, Bool.and_false,
    Bool.and_false, Bool.or_false]

theorem isBlank_of_isTokenChar {c : Char} (h : isTokenChar c = true) : Text.isBlank c = false := by
  rw [isTokenChar, Bool.or_eq_true, Bool.or_eq_true] at h
  rcases h with (h | h) | h
  · exact isBlank_of_isLetterOrDigit h
  · have hother : ['.', '_', '-'].all (!Text.isBlank ·) = true := by decide
    have hc := List.all_eq_true.mp hother c (List.contains_iff_mem.mp h)
    rwa [Bool.not_eq_true'] at hc
  · have hother : asciiLookalikes.all (!Text.isBlank ·) = true := by decide
    have hc := List.all_eq_true.mp hother c (List.contains_iff_mem.mp h)
    rwa [Bool.not_eq_true'] at hc

theorem startsWithToken_iff {s : List Char} : startsWithToken s = true ↔
    ∃ gap c rest, s = gap ++ c :: rest ∧ gap ≠ [] ∧ (∀ b ∈ gap, Text.isBlank b = true) ∧
      isTokenChar c = true := by
  unfold startsWithToken
  constructor
  · intro h
    cases hs : s.dropWhile Text.isBlank with
    | nil => simp [hs] at h
    | cons c rest =>
        simp only [hs, Bool.and_eq_true] at h
        refine ⟨s.takeWhile Text.isBlank, c, rest, ?_, ?_, ?_, h.2⟩
        · rw [← hs, List.takeWhile_append_dropWhile]
        · cases s with
          | nil => cases hs
          | cons b more =>
              have hb : Text.isBlank b = true := h.1
              simp [hb]
        · exact fun b hb => List.mem_takeWhile_imp hb
  · rintro ⟨gap, c, rest, rfl, hne, hgap, hc⟩
    have hend : ¬ Text.isBlank c = true := by
      rw [isBlank_of_isTokenChar hc]
      exact Bool.false_ne_true
    rw [List.dropWhile_append_of_pos hgap, List.dropWhile_cons_of_neg hend]
    obtain ⟨b, more, rfl⟩ := List.exists_cons_of_ne_nil hne
    simp [hgap b List.mem_cons_self, hc]

theorem startsWithBearer_iff (s : List Char) :
    startsWithBearer s = true ↔ ∃ part, part <+: s ∧ IsBearer part := by
  rw [startsWithBearer, Bool.and_eq_true, beq_iff_eq, startsWithToken_iff]
  constructor
  · rintro ⟨hword, gap, c, rest, hs, hne, hgap, hc⟩
    refine ⟨s.take bearerWord.length ++ gap ++ [c], ⟨rest, ?_⟩,
      _, gap, [c], rfl, hword, hne, hgap, by simp, by simpa using hc⟩
    calc s.take bearerWord.length ++ gap ++ [c] ++ rest
        = s.take bearerWord.length ++ s.drop bearerWord.length := by simp [hs]
      _ = s := List.take_append_drop _ s
  · rintro ⟨part, ⟨more, rfl⟩, word, gap, token, rfl, hword, hne, hgap, htoken, hall⟩
    have hlength : word.length = bearerWord.length := by
      rw [← hword, List.length_map]
    obtain ⟨c, rest, rfl⟩ := List.exists_cons_of_ne_nil htoken
    have hdrop : (word ++ gap ++ (c :: rest) ++ more).drop bearerWord.length =
        gap ++ c :: (rest ++ more) := by
      rw [← hlength]
      simp
    have htake : (word ++ gap ++ (c :: rest) ++ more).take bearerWord.length = word := by
      rw [← hlength]
      simp
    rw [htake, hdrop]
    exact ⟨hword, gap, c, rest ++ more, rfl, hne, hgap, hall c List.mem_cons_self⟩

/-- The search finds a bearer token exactly if there is one. -/
theorem hasBearer_iff {s : String} : hasBearer s.toList = true ↔ HasBearer s :=
  anyTail_iff_occurs startsWithBearer_iff s.toList

theorem startsWithLetters_iff {s : List Char} : startsWithLetters s = true ↔
    ∃ top, top <+: s ∧ 2 ≤ top.length ∧ ∀ c ∈ top, isLetter c = true := by
  constructor
  · intro h
    match s, h with
    | c :: d :: rest, h =>
        rw [startsWithLetters, Bool.and_eq_true] at h
        exact ⟨[c, d], ⟨rest, rfl⟩, le_refl 2, by simpa using h⟩
  · rintro ⟨top, ⟨more, rfl⟩, hlength, hall⟩
    match top, hlength with
    | c :: d :: rest, _ =>
        rw [List.cons_append, List.cons_append, startsWithLetters, Bool.and_eq_true]
        exact ⟨hall c (by simp), hall d (by simp)⟩

theorem hasTopDomain_iff {s : List Char} : hasTopDomain s = true ↔
    ∃ body top, body ++ '.' :: top <+: s ∧ (∀ c ∈ body, isDomainChar c = true) ∧
      2 ≤ top.length ∧ ∀ c ∈ top, isLetter c = true := by
  induction s with
  | nil => simp [hasTopDomain]
  | cons c rest ih =>
      rw [hasTopDomain, Bool.or_eq_true, Bool.and_eq_true, Bool.and_eq_true, beq_iff_eq, ih,
        startsWithLetters_iff]
      constructor
      · rintro (⟨rfl, top, htop, hlong, hletters⟩ | ⟨hc, body, top, hbody, hall, htop⟩)
        · exact ⟨[], top, List.cons_prefix_cons.mpr ⟨rfl, htop⟩, by simp, hlong, hletters⟩
        · exact ⟨c :: body, top, List.cons_prefix_cons.mpr ⟨rfl, hbody⟩,
            List.forall_mem_cons.mpr ⟨hc, hall⟩, htop⟩
      · rintro ⟨body, top, hbegins, hall, htop⟩
        cases body with
        | nil =>
            obtain ⟨rfl, htail⟩ := List.cons_prefix_cons.mp hbegins
            exact .inl ⟨rfl, top, htail, htop⟩
        | cons b body =>
            obtain ⟨rfl, htail⟩ := List.cons_prefix_cons.mp hbegins
            rw [List.forall_mem_cons] at hall
            exact .inr ⟨hall.1, body, top, htail, hall.2, htop⟩

/-- The end of an address: its last character before the sign, and what follows. -/
def IsAddressEnd (s : List Char) : Prop :=
  ∃ c domain top, s = c :: '@' :: (domain ++ '.' :: top) ∧ isLocalChar c = true ∧
    domain ≠ [] ∧ (∀ c ∈ domain, isDomainChar c = true) ∧
    2 ≤ top.length ∧ ∀ c ∈ top, isLetter c = true

theorem startsWithAddress_iff (s : List Char) :
    startsWithAddress s = true ↔ ∃ part, part <+: s ∧ IsAddressEnd part := by
  constructor
  · intro h
    unfold startsWithAddress at h
    split at h
    · rename_i c d rest
      simp only [Bool.and_eq_true] at h
      obtain ⟨⟨hc, hd⟩, h⟩ := h
      obtain ⟨body, top, hbegins, hall, htop⟩ := hasTopDomain_iff.mp h
      refine ⟨c :: '@' :: (d :: body ++ '.' :: top), ?_, c, d :: body, top, rfl, hc, by simp,
        List.forall_mem_cons.mpr ⟨hd, hall⟩, htop⟩
      simpa using hbegins
    · cases h
  · rintro ⟨part, ⟨more, rfl⟩, c, domain, top, rfl, hc, hdomain, hall, htop⟩
    obtain ⟨d, body, rfl⟩ := List.exists_cons_of_ne_nil hdomain
    rw [List.forall_mem_cons] at hall
    have htail : hasTopDomain (body ++ '.' :: (top ++ more)) = true :=
      hasTopDomain_iff.mpr ⟨body, top, ⟨more, by simp⟩, hall.2, htop⟩
    simp [startsWithAddress, hc, hall.1, htail]

theorem isAddressEnd_infix_iff {s : List Char} :
    (∃ part, part <:+: s ∧ IsAddressEnd part) ↔ ∃ part, part <:+: s ∧ IsAddress part := by
  constructor
  · rintro ⟨part, hpart, c, domain, top, rfl, hc, hrest⟩
    exact ⟨_, hpart, [c], domain, top, rfl, by simp, by simpa using hc, hrest⟩
  · rintro ⟨part, hpart, name, domain, top, rfl, hname, hall, hrest⟩
    obtain ⟨before, c, rfl⟩ := (List.eq_nil_or_concat' name).resolve_left hname
    refine ⟨c :: '@' :: (domain ++ '.' :: top), ?_, c, domain, top, rfl, hall c (by simp), hrest⟩
    refine List.IsInfix.trans ?_ hpart
    exact ⟨before, [], by simp⟩

/-- The search finds an e-mail address exactly if there is one. -/
theorem hasAddress_iff {s : String} : hasAddress s.toList = true ↔ HasAddress s :=
  (anyTail_iff_occurs startsWithAddress_iff s.toList).trans isAddressEnd_infix_iff

end JsonPatch.Redaction
