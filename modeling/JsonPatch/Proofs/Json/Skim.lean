import JsonPatch.Proofs.Json.Spelling

/-! # The reader and the grammar

The reader of JSON text keeps to the grammar: a text gives a value exactly if it spells one
(`read_isOk_iff`), and it is refused for an integer exactly if it comes to one that is too long
(`read_longNumber_iff`).

`skim` does what the reader does but for the values (`skims`).  Without them the items of an array
and the members of an object are read alike, so one case stands for both.  The fuel carries the
induction: what is in brackets is read with less of it, and it is enough if it exceeds twice the
length of the text (`decides_skim`). -/

namespace JsonPatch.Json

/-! ### Reading without values -/

theorem head?_ne_some {s : List Char} {c : Char} (h : ∀ t, s = c :: t → False) :
    s.head? ≠ some c := fun he => by
  obtain ⟨t, ht⟩ := List.head?_eq_some_iff.mp he
  exact h t ht

/-- Read over a string, a word or a number. -/
def skimScalar (c : Cursor) : Except Stop Cursor :=
  if c.rest.head? = some '"' then
    (readString c.position (c.rest.length + 1) (c.advance 1) []).map (·.2)
  else
    match words.find? fun w => w.1.isPrefixOf c.rest with
    | some (word, _) => .ok (c.advance word.length)
    | none => (readNumber c).map (·.2)

/-- Read over what stands before a value in brackets. -/
def Bracket.skimLead (b : Bracket) (c : Cursor) : Except Stop Cursor :=
  match b with
  | square => .ok c
  | curly =>
    if c.rest.head? = some '"' then
      ((readString c.position (c.rest.length + 1) (c.advance 1) []).map (·.2)).bind fun c =>
        let after := c.skipSpace
        if after.rest.head? = some ':' then .ok (after.advance 1).skipSpace
        else .error (.problem .expectingColon after.position)
    else .error (.problem .expectingName c.position)

/-- Read over what follows a value in brackets, where `more` reads over the other values. -/
def Bracket.skimNext (b : Bracket) (more : Cursor → Except Stop Cursor) (c : Cursor) :
    Except Stop Cursor :=
  let after := c.skipSpace
  if after.rest.head? = some b.closing then .ok (after.advance 1)
  else if after.rest.head? = some ',' then more (after.advance 1).skipSpace
  else .error (.problem .expectingComma after.position)

/-- Read over a part. -/
def skim : Nat → Part → Cursor → Except Stop Cursor
  | 0, .items .curly, c => .error (.problem .expectingName c.position)
  | 0, _, c => .error (.problem .expectingValue c.position)
  | fuel + 1, .value, c =>
    match Bracket.opened? c.rest with
    | none => skimScalar c
    | some b =>
      let inner := (c.advance 1).skipSpace
      if inner.rest.head? = some b.closing then .ok (inner.advance 1)
      else skim fuel (.items b) inner
  | fuel + 1, .items b, c =>
    (b.skimLead c).bind fun c => (skim fuel .value c).bind (b.skimNext (skim fuel (.items b)))

section Next

variable {b : Bracket} {more : Cursor → Except Stop Cursor} {c : Cursor} {t : List Char}

theorem Bracket.closing_ne_comma : b.closing ≠ ',' := by
  cases b <;> decide

theorem skimNext_close (h : c.skipSpace.rest = b.closing :: t) :
    b.skimNext more c = .ok (c.skipSpace.advance 1) :=
  if_pos (List.head?_eq_some_iff.mpr ⟨t, h⟩)

theorem skimNext_comma (h : c.skipSpace.rest = ',' :: t) :
    b.skimNext more c = more (c.skipSpace.advance 1).skipSpace := by
  have hclose : c.skipSpace.rest.head? ≠ some b.closing := by
    rw [h]
    exact fun he => Bracket.closing_ne_comma (Option.some.inj he).symm
  exact (if_neg hclose).trans (if_pos (List.head?_eq_some_iff.mpr ⟨t, h⟩))

theorem skimNext_other (hclose : ∀ t, c.skipSpace.rest = b.closing :: t → False)
    (hcomma : ∀ t, c.skipSpace.rest = ',' :: t → False) :
    b.skimNext more c = .error (.problem .expectingComma c.skipSpace.position) :=
  (if_neg (head?_ne_some hclose)).trans (if_neg (head?_ne_some hcomma))

end Next

/-- The reader ends where `skim` does, and it stops at the same place for the same reason. -/
structure Skims (fuel : Nat) : Prop where
  value : ∀ c, (readValue fuel c).map (·.2) = skim fuel .value c
  items : ∀ c done, (readItems fuel c done).map (·.2) = skim fuel (.items .square) c
  members : ∀ c done, (readMembers fuel c done).map (·.2) = skim fuel (.items .curly) c

theorem skims_zero : Skims 0 :=
  ⟨fun _ => rfl, fun _ _ => rfl, fun _ _ => rfl⟩

/-- The cases are those of the reader: a string, an object, an array, and words and numbers. -/
theorem readValue_skims {fuel : Nat} (ih : Skims fuel) (c : Cursor) :
    (readValue (fuel + 1) c).map (·.2) = skim (fuel + 1) .value c := by
  rw [readValue, skim]
  split
  · rename_i t hc
    rw [hc]
    change _ = skimScalar c
    rw [skimScalar, if_pos (List.head?_eq_some_iff.mpr ⟨t, hc⟩), hc]
    split <;> rename_i hr <;> rw [hr] <;> rfl
  · rename_i t hc
    rw [hc]
    change _ = ite _ _ _
    dsimp only
    split
    · rename_i u hu
      rw [hu]
      rfl
    · rename_i hu
      rw [if_neg (head?_ne_some (c := Bracket.curly.closing) hu), ← ih.members _ []]
      split <;> rename_i hr <;> rw [hr] <;> rfl
  · rename_i t hc
    rw [hc]
    change _ = ite _ _ _
    dsimp only
    split
    · rename_i u hu
      rw [hu]
      rfl
    · rename_i hu
      rw [if_neg (head?_ne_some (c := Bracket.square.closing) hu), ← ih.items _ []]
      split <;> rename_i hr <;> rw [hr] <;> rfl
  · rename_i hquote hcurly hsquare
    have hopened : Bracket.opened? c.rest = none := by
      unfold Bracket.opened?
      split
      · rename_i hc
        exact absurd hc (hsquare _)
      · rename_i hc
        exact absurd hc (hcurly _)
      · rfl
    rw [hopened]
    dsimp only
    rw [skimScalar, if_neg (head?_ne_some hquote)]
    cases words.find? fun w => w.1.isPrefixOf c.rest with
    | some w => rfl
    | none =>
        dsimp only
        split <;> rename_i hr <;> rw [hr] <;> rfl

theorem readItems_skims {fuel : Nat} (ih : Skims fuel) (c : Cursor) (done : List Value) :
    (readItems (fuel + 1) c done).map (·.2) = skim (fuel + 1) (.items .square) c := by
  rw [readItems, skim]
  change _ = Except.bind (skim fuel .value c) _
  rw [← ih.value]
  split
  · rename_i hr
    rw [hr]
    rfl
  · rename_i v after hr
    rw [hr]
    change _ = Bracket.skimNext .square (skim fuel (.items .square)) after
    dsimp only
    split
    · rename_i hclose
      rw [skimNext_close hclose]
      rfl
    · rename_i hcomma
      rw [skimNext_comma hcomma, ih.items]
    · rename_i hclose hcomma
      rw [skimNext_other hclose hcomma]
      rfl

theorem readMembers_skims {fuel : Nat} (ih : Skims fuel) (c : Cursor) (done : Members) :
    (readMembers (fuel + 1) c done).map (·.2) = skim (fuel + 1) (.items .curly) c := by
  rw [readMembers, skim, Bracket.skimLead]
  split
  · rename_i t hc
    rw [if_pos (List.head?_eq_some_iff.mpr ⟨t, hc⟩)]
    split
    · rename_i hr
      rw [hr]
      rfl
    · rename_i name after hr
      rw [hr]
      change _ = Except.bind (ite _ _ _) _
      dsimp only
      split
      · rename_i hcolon
        rw [if_pos (List.head?_eq_some_iff.mpr ⟨_, hcolon⟩)]
        change _ = Except.bind (skim fuel .value _) _
        rw [← ih.value]
        split
        · rename_i hr
          rw [hr]
          rfl
        · rename_i v after hr
          rw [hr]
          change _ = Bracket.skimNext .curly (skim fuel (.items .curly)) after
          split
          · rename_i hclose
            rw [skimNext_close hclose]
            rfl
          · rename_i hcomma
            rw [skimNext_comma hcomma, ih.members]
          · rename_i hclose hcomma
            rw [skimNext_other hclose hcomma]
            rfl
      · rename_i hcolon
        rw [if_neg (head?_ne_some hcolon)]
        rfl
  · rename_i hquote
    rw [if_neg (head?_ne_some hquote)]
    rfl

theorem skims : ∀ fuel, Skims fuel
  | 0 => skims_zero
  | fuel + 1 =>
      have ih := skims fuel
      ⟨readValue_skims ih, readItems_skims ih, readMembers_skims ih⟩

/-! ### Values without brackets -/

/-- A quoted string is read over, here or as a name. -/
theorem decides_quoted {c : Cursor} {s : List Char} (hc : c.rest = '"' :: s) :
    Decides ((readString c.position (c.rest.length + 1) (c.advance 1) []).map (·.2)) (StringBody s)
      fun _ => False := by
  have hs : (c.advance 1).rest = s := Cursor.rest_advance ['"'] hc
  have hfuel : (c.advance 1).rest.length < c.rest.length + 1 :=
    Nat.lt_succ_of_le (c.length_advance_le 1)
  exact hs ▸ decides_readString c.position hfuel []

theorem decides_skimScalar (c : Cursor) : Decides (skimScalar c) (Scalar c.rest)
    fun n => ∃ rest, LongInteger n c.rest rest := by
  unfold skimScalar
  split
  · rename_i hquote
    obtain ⟨s, hc⟩ := List.head?_eq_some_iff.mp hquote
    refine (decides_quoted hc).congr (fun rest => ?_) fun n => iff_false_intro ?_
    · rw [hc]
      exact scalar_quote_iff
    · rintro ⟨rest, hl⟩
      rw [hc] at hl
      exact not_integer_cons (by decide) (by decide) hl.integer
  · rename_i hquote
    split
    · rename_i word v hw
      have hprefix : word.isPrefixOf c.rest = true :=
        List.find?_some (p := fun w : List Char × Value => w.1.isPrefixOf c.rest) hw
      obtain ⟨s, hc⟩ := List.isPrefixOf_iff_prefix.mp hprefix
      have hw := List.mem_of_find?_eq_some hw
      refine .ok (fun rest => ?_) fun n => ?_
      · rw [Cursor.advance, ← hc, List.drop_left]
        exact scalar_word_iff hw
      · rintro ⟨rest, hl⟩
        rw [← hc] at hl
        exact not_integer_word hw hl.integer
    · rename_i hw
      rw [List.find?_eq_none] at hw
      refine (decides_readNumber c).congr (fun rest => ⟨fun h => ?_, .number⟩) fun n => Iff.rfl
      generalize hc : c.rest = s at h
      cases h with
      | string h => exact absurd (List.head?_eq_some_iff.mpr ⟨_, hc⟩) hquote
      | word hmem =>
          refine absurd ?_ (hw _ hmem)
          rw [hc]
          exact List.isPrefixOf_iff_prefix.mpr (List.prefix_append _ _)
      | number h => exact h

/-! ### Parts -/

theorem decides_skimLead (b : Bracket) (c : Cursor) :
    Decides (b.skimLead c) (b.Lead c.rest) fun _ => False := by
  cases b with
  | square =>
      refine .ok (fun rest => ⟨?_, ?_⟩) fun _ => id
      · rintro ⟨⟩
        rfl
      · rintro rfl
        exact .item _
  | curly =>
      unfold Bracket.skimLead
      dsimp only
      split
      · rename_i hquote
        obtain ⟨s, hc⟩ := List.head?_eq_some_iff.mp hquote
        refine ((decides_quoted hc).bind (fun t rest => ∃ u, Gap t (':' :: u) ∧ Gap u rest)
          (fun _ _ => False) fun after _ => ?_).congr (fun rest => ?_) fun n => ?_
        · split
          · rename_i hcolon
            obtain ⟨u, hu⟩ := List.head?_eq_some_iff.mp hcolon
            have hrest : (after.skipSpace.advance 1).rest = u := Cursor.rest_advance [_] hu
            refine (decides_skipSpace _).congr (fun rest => ?_) fun _ => Iff.rfl
            simp [gap_iff, hu, hrest]
          · rename_i hcolon
            refine .problem ?_ fun _ => id
            rintro rest ⟨u, hu, -⟩
            exact hcolon (List.head?_eq_some_iff.mpr ⟨u, gap_iff.mp hu⟩)
        · rw [hc]
          constructor
          · rintro (_ | ⟨hname, hcolon, hgap⟩)
            exact ⟨_, hname, _, hcolon, hgap⟩
          · rintro ⟨t, hname, u, hcolon, hgap⟩
            exact .member hname hcolon hgap
        · simp
      · rename_i hquote
        refine .problem (fun rest h => ?_) fun _ => id
        generalize hc : c.rest = s at h
        cases h
        exact hquote (List.head?_eq_some_iff.mpr ⟨_, hc⟩)

/-- How much fuel reading a part takes. -/
def Part.fuel (part : Part) (length : Nat) : Nat :=
  match part with
  | value => 2 * length + 1
  | items _ => 2 * length + 2

/-- With enough fuel, reading a part ends where the part does, and it stops at the integer that the
part comes to. -/
def IsExact (fuel : Nat) : Prop :=
  ∀ part (c : Cursor), part.fuel c.rest.length ≤ fuel →
    Decides (skim fuel part c) (Spells part c.rest) fun n => ComesTo n part c.rest

theorem decides_skim_value {fuel : Nat} (ih : IsExact fuel) {c : Cursor}
    (hfuel : 2 * c.rest.length ≤ fuel) :
    Decides (skim (fuel + 1) .value c) (Spells .value c.rest) fun n => ComesTo n .value c.rest := by
  rw [skim]
  cases hb : Bracket.opened? c.rest with
  | none =>
      exact (decides_skimScalar c).congr (fun _ => spells_iff_scalar hb)
        fun _ => comesTo_iff_longInteger hb
  | some b =>
      obtain ⟨s, hs⟩ := opened?_eq_some.mp hb
      have hrest : (c.advance 1).rest = s := Cursor.rest_advance [_] hs
      have hgap : ∀ t, Gap s t ↔ (c.advance 1).skipSpace.rest = t := fun t => hrest ▸ gap_iff
      have hends : ∀ rest, Spells .value c.rest rest ↔
          (c.advance 1).skipSpace.rest = b.closing :: rest ∨
            Spells (.items b) (c.advance 1).skipSpace.rest rest := fun rest => by
        simp only [hs, spells_opening_iff, hgap, exists_eq_left']
      have hlong : ∀ n, ComesTo n .value c.rest ↔
          ComesTo n (.items b) (c.advance 1).skipSpace.rest := fun n => by
        simp only [hs, comesTo_opening_iff, hgap, exists_eq_left']
      -- The opening bracket is what pays for the fuel that the items take more than a value.
      have hlength : (c.advance 1).skipSpace.rest.length < c.rest.length := by
        have h := (c.advance 1).skipSpace_suffix.length_le
        rw [hrest] at h
        rw [hs]
        exact Nat.lt_succ_of_le h
      dsimp only
      split
      · rename_i hclose
        obtain ⟨t, ht⟩ := List.head?_eq_some_iff.mp hclose
        have hafter : ((c.advance 1).skipSpace.advance 1).rest = t := Cursor.rest_advance [_] ht
        refine .ok (fun rest => ?_) fun n => ?_
        -- No item starts with a closing bracket, so this is the only way to go on.
        · rw [hends, ht, hafter]
          simp [not_spells_closing]
        · rw [hlong, ht]
          exact not_comesTo_closing
      · rename_i hclose
        refine (ih (.items b) _ ?_).congr (fun rest => ?_) hlong
        · change 2 * _ + 2 ≤ fuel
          omega
        · rw [hends]
          exact or_iff_right fun h => hclose (List.head?_eq_some_iff.mpr ⟨_, h⟩)

theorem decides_skimNext {fuel : Nat} (ih : IsExact fuel) (b : Bracket) {c : Cursor}
    (hfuel : 2 * c.rest.length ≤ fuel) :
    Decides (b.skimNext (skim fuel (.items b)) c) (Continues b c.rest)
      fun n => ContinuesTo n b c.rest := by
  by_cases hclose : ∃ t, c.skipSpace.rest = b.closing :: t
  · obtain ⟨t, ht⟩ := hclose
    have hafter : (c.skipSpace.advance 1).rest = t := Cursor.rest_advance [_] ht
    rw [skimNext_close ht]
    refine .ok (fun rest => ?_) fun n => ?_
    · simp [Continues, gap_iff, ht, Bracket.closing_ne_comma, hafter]
    · simp [ContinuesTo, gap_iff, ht, Bracket.closing_ne_comma]
  · by_cases hcomma : ∃ t, c.skipSpace.rest = ',' :: t
    · obtain ⟨t, ht⟩ := hcomma
      have hafter : (c.skipSpace.advance 1).rest = t := Cursor.rest_advance [_] ht
      have hgap : ∀ w, Gap t w ↔ (c.skipSpace.advance 1).skipSpace.rest = w := fun w =>
        hafter ▸ gap_iff
      have hlength : (c.skipSpace.advance 1).skipSpace.rest.length < c.rest.length := by
        have hv := (c.skipSpace.advance 1).skipSpace_suffix.length_le
        have hc := c.skipSpace_suffix.length_le
        rw [hafter] at hv
        rw [ht, List.length_cons] at hc
        omega
      rw [skimNext_comma ht]
      refine (ih (.items b) _ ?_).congr (fun rest => ?_) fun n => ?_
      · change 2 * _ + 2 ≤ fuel
        omega
      · simp [Continues, gap_iff, ht, hgap, Bracket.closing_ne_comma.symm]
      · simp [ContinuesTo, gap_iff, ht, hgap]
    · rw [skimNext_other (fun t ht => hclose ⟨t, ht⟩) fun t ht => hcomma ⟨t, ht⟩]
      refine .problem ?_ ?_
      · rintro rest (h | ⟨v, w, h, -⟩)
        · exact hclose ⟨rest, gap_iff.mp h⟩
        · exact hcomma ⟨v, gap_iff.mp h⟩
      · rintro n ⟨v, w, h, -⟩
        exact hcomma ⟨v, gap_iff.mp h⟩

theorem decides_skim_items {fuel : Nat} (ih : IsExact fuel) {b : Bracket} {c : Cursor}
    (hfuel : 2 * c.rest.length + 1 ≤ fuel) :
    Decides (skim (fuel + 1) (.items b) c) (Spells (.items b) c.rest)
      fun n => ComesTo n (.items b) c.rest := by
  have hvalue : ∀ lead, b.skimLead c = .ok lead →
      Decides (skim fuel .value lead) (Spells .value lead.rest)
        fun n => ComesTo n .value lead.rest := fun lead hlead => by
    have hlength := ((decides_skimLead b c).of_eq_ok hlead).suffix.length_le
    refine ih .value lead ?_
    change 2 * _ + 1 ≤ fuel
    omega
  have hafter : ∀ lead, b.skimLead c = .ok lead → ∀ after, skim fuel .value lead = .ok after →
      2 * after.rest.length ≤ fuel := fun lead hlead after hafter => by
    have hlength := ((decides_skimLead b c).of_eq_ok hlead).suffix.length_le
    have hlength' := ((hvalue lead hlead).of_eq_ok hafter).suffix.length_le
    omega
  rw [skim]
  refine ((decides_skimLead b c).bind (fun t rest => ∃ u, Spells .value t u ∧ Continues b u rest)
    (fun t n => ComesTo n .value t ∨ ∃ u, Spells .value t u ∧ ContinuesTo n b u)
    fun lead hlead => (hvalue lead hlead).bind (Continues b) (fun u n => ContinuesTo n b u)
      fun after hskim => decides_skimNext ih b (hafter lead hlead after hskim)).congr
    (fun rest => spells_items_iff) fun n => ?_
  rw [comesTo_items_iff, false_or]

theorem decides_skim : ∀ fuel, IsExact fuel
  | 0, .value, _, hfuel => absurd hfuel (by simp [Part.fuel])
  | 0, .items _, _, hfuel => absurd hfuel (by simp [Part.fuel])
  | _ + 1, .value, _, hfuel => decides_skim_value (decides_skim _) (Nat.le_of_succ_le_succ hfuel)
  | _ + 1, .items _, _, hfuel => decides_skim_items (decides_skim _) (Nat.le_of_succ_le_succ hfuel)

/-! ### Whole texts -/

/-- The reader gives a value exactly if the text spells one, and it stops at an integer exactly if
the text comes to one that is too long. -/
theorem readAll_spec (text : List Char) :
    ((∃ v, readAll text = .ok v) ↔ IsSpelled text) ∧
      ∀ n, readAll text = .error (.longNumber n) ↔ ComesToLong n text := by
  unfold readAll
  split
  · rename_i hmark
    obtain ⟨s, rfl⟩ := List.head?_eq_some_iff.mp (eq_of_beq hmark)
    exact ⟨⟨nofun, fun h => absurd h not_isSpelled_byteOrderMark⟩,
      fun n => ⟨nofun, fun h => absurd h not_comesToLong_byteOrderMark⟩⟩
  · generalize hc : Cursor.skipSpace ⟨text, 0⟩ = c
    have hgap : ∀ s, Gap text s ↔ c.rest = s := fun s => hc ▸ gap_iff (c := ⟨text, 0⟩)
    have hlength : c.rest.length ≤ text.length :=
      hc ▸ (Cursor.skipSpace_suffix ⟨text, 0⟩).length_le
    have hfuel : Part.value.fuel c.rest.length ≤ 2 * text.length + 2 := by
      change 2 * _ + 1 ≤ _
      omega
    have hskim := decides_skim _ .value c hfuel
    rw [← (skims _).value] at hskim
    have hspelled : IsSpelled text ↔ ∃ t, Spells .value c.rest t ∧ Gap t [] := by
      simp only [IsSpelled, hgap, exists_and_left, exists_eq_left']
    have hlong : ∀ n, ComesToLong n text ↔ ComesTo n .value c.rest := fun n => by
      simp only [ComesToLong, hgap, exists_eq_left']
    cases hr : readValue (2 * text.length + 2) c with
    | error e =>
        rw [hr] at hskim
        refine ⟨⟨nofun, fun h => ?_⟩, fun n => ?_⟩
        · obtain ⟨t, ht, -⟩ := hspelled.mp h
          obtain ⟨_, he⟩ := (hskim.ends_iff t).mp ht
          cases he
        · rw [hlong, hskim.long_iff]
          constructor <;> rintro ⟨⟩ <;> rfl
    | ok p =>
        obtain ⟨v, after⟩ := p
        rw [hr] at hskim
        have hend : ∀ t, Spells .value c.rest t ↔ after.rest = t := hskim.ends_of_ok
        have hnot : ∀ n, ¬ ComesToLong n text := fun n h => by
          cases (hskim.long_iff n).mp ((hlong n).mp h)
        have hspelled : IsSpelled text ↔ after.skipSpace.rest = [] := by
          simp only [hspelled, hend, gap_iff.symm, exists_eq_left']
        dsimp only
        split
        · rename_i hempty
          exact ⟨⟨fun _ => hspelled.mpr (List.isEmpty_iff.mp hempty), fun _ => ⟨v, rfl⟩⟩,
            fun n => ⟨nofun, fun h => absurd h (hnot n)⟩⟩
        · rename_i hempty
          exact ⟨⟨nofun, fun h => absurd (List.isEmpty_iff.mpr (hspelled.mp h)) hempty⟩,
            fun n => ⟨nofun, fun h => absurd h (hnot n)⟩⟩

/-- The reader gives a value exactly if the text spells one. -/
theorem read_isOk_iff {text : List Char} : (∃ v, read text = .ok v) ↔ IsSpelled text := by
  rw [← (readAll_spec text).1]
  unfold read
  cases readAll text with
  | ok v => exact ⟨fun _ => ⟨v, rfl⟩, fun _ => ⟨v, rfl⟩⟩
  | error stop => cases stop <;> exact ⟨nofun, nofun⟩

/-- The reader refuses a text for the digits of an integer exactly if the text comes to one with so
many. -/
theorem read_longNumber_iff {text : List Char} {n : Nat} :
    read text = .error (.longNumber n) ↔ ComesToLong n text := by
  rw [← (readAll_spec text).2 n]
  unfold read
  cases readAll text with
  | ok v => exact ⟨nofun, nofun⟩
  | error stop =>
      cases stop with
      | problem p position => exact ⟨nofun, nofun⟩
      | longNumber k => constructor <;> rintro ⟨⟩ <;> rfl

end JsonPatch.Json
