import JsonPatch.Pointer.Basic
import Mathlib.Data.List.Basic
import Mathlib.Tactic.Common

/-! # Paths and their segments

A path is the text of a list of segments: writing the segments and reading the path back are
inverse to each other.

* `unescape_eq_decode`: the two replacements that read a segment do the same as one pass from left
  to right, whatever the text.
* `decode_escape` and `escape_decode`: reading undoes writing, and writing undoes reading where each
  tilde begins an escape (`Escaped`).
* `split_flatten` and `flatten_split`: the same for the slashes between segments.
* `path_codec` puts these together. -/

namespace JsonPatch.Segment

/-! ### One pass -/

/-- A character stays if no pair starts with it. -/
theorem replacePair_cons {a b c x : Char} {l : List Char} (h : x = a → l.head? ≠ some b) :
    replacePair a b c (x :: l) = x :: replacePair a b c l := by
  cases l with
  | nil => rfl
  | cons y rest =>
      have hxy : ¬ (x = a ∧ y = b) := fun ⟨hx, hy⟩ => h hx (congrArg some hy)
      rw [replacePair, if_neg hxy]

/-- The first character comes from the text or from a pair. -/
theorem head?_replacePair (a b c : Char) (l : List Char) :
    (replacePair a b c l).head? = l.head? ∨ (replacePair a b c l).head? = some c := by
  cases l with
  | nil => exact .inl rfl
  | cons x l =>
      cases l with
      | nil => exact .inl rfl
      | cons y rest =>
          rw [replacePair]
          split_ifs
          · exact .inr rfl
          · exact .inl rfl

theorem decode_cons {c : Char} {l : List Char}
    (h : c = '~' → l.head? ≠ some '0' ∧ l.head? ≠ some '1') : decode (c :: l) = c :: decode l := by
  conv_lhs => unfold decode
  split
  · rename_i he
    cases he
  · rename_i rest he
    cases he
    exact absurd rfl (h rfl).2
  · rename_i rest he
    cases he
    exact absurd rfl (h rfl).1
  · rename_i he
    cases he
    rfl

/-- The replacements do not meet: the first one makes slashes only, so no new escape appears. -/
theorem replacePair_replacePair (l : List Char) :
    replacePair '~' '0' '~' (replacePair '~' '1' '/' l) = decode l := by
  fun_induction decode l with
  | case1 => rfl
  | case2 rest ih =>
      rw [replacePair, if_pos ⟨rfl, rfl⟩, replacePair_cons (by simp), ih]
  | case3 rest ih =>
      have hstays : replacePair '~' '1' '/' ('~' :: '0' :: rest) =
          '~' :: '0' :: replacePair '~' '1' '/' rest := by
        rw [replacePair_cons (by simp), replacePair_cons (by simp)]
      rw [hstays, replacePair, if_pos ⟨rfl, rfl⟩, ih]
  | case4 c rest h₁ h₀ ih =>
      have hone : c = '~' → rest.head? ≠ some '1' := by
        rintro rfl hr
        obtain ⟨rest', rfl⟩ := List.head?_eq_some_iff.mp hr
        exact h₁ rest' rfl rfl
      have hzero : c = '~' → rest.head? ≠ some '0' := by
        rintro rfl hr
        obtain ⟨rest', rfl⟩ := List.head?_eq_some_iff.mp hr
        exact h₀ rest' rfl rfl
      rw [replacePair_cons hone, replacePair_cons, ih]
      intro hc
      rcases head?_replacePair '~' '1' '/' rest with hr | hr
      · rw [hr]
        exact hzero hc
      · simp [hr]

/-- Reading a segment is one pass from left to right, also where a tilde stands for itself. -/
theorem unescape_eq_decode (s : String) : unescape s = String.ofList (decode s.toList) := by
  rw [unescape, replacePair_replacePair]

/-! ### Escapes -/

/-- Every tilde is followed by a zero or a one. -/
def Escaped (l : List Char) : Prop :=
  ∀ i, l[i]? = some '~' → l[i + 1]? = some '0' ∨ l[i + 1]? = some '1'

theorem escaped_nil : Escaped [] := by
  intro i h
  simp at h

theorem escaped_cons {c : Char} {l : List Char} : Escaped (c :: l) ↔
    (c = '~' → l.head? = some '0' ∨ l.head? = some '1') ∧ Escaped l := by
  rw [List.head?_eq_getElem?]
  constructor
  · intro h
    exact ⟨fun hc => h 0 (congrArg some hc), fun i hi => h (i + 1) hi⟩
  · rintro ⟨hc, hl⟩ i hi
    cases i with
    | zero => exact hc (Option.some.inj hi)
    | succ i => exact hl i hi

instance : DecidablePred Escaped := fun l =>
  decidable_of_iff (∀ i < l.length, l[i]? = some '~' → l[i + 1]? = some '0' ∨ l[i + 1]? = some '1')
    ⟨fun h i hi => h i (List.getElem?_eq_some_iff.mp hi).1 hi, fun h i _ => h i⟩

theorem decode_escape (l : List Char) : decode (l.flatMap escapeChar) = l := by
  induction l with
  | nil => rfl
  | cons c l ih =>
      rw [List.flatMap_cons]
      by_cases htilde : c = '~'
      · subst htilde
        exact congrArg ('~' :: ·) ih
      · by_cases hslash : c = '/'
        · subst hslash
          exact congrArg ('/' :: ·) ih
        · have hc : escapeChar c = [c] := by rw [escapeChar, if_neg htilde, if_neg hslash]
          rw [hc, List.singleton_append, decode_cons fun h => absurd h htilde, ih]

/-- A text without tildes and slashes stands in a path as it is. -/
theorem flatMap_escapeChar {l : List Char} (htilde : '~' ∉ l) (hslash : '/' ∉ l) :
    l.flatMap escapeChar = l := by
  have hchars : ∀ c ∈ l, escapeChar c = [c] := by
    intro c hc
    have hne : c ≠ '~' := fun e => htilde (e ▸ hc)
    have hne' : c ≠ '/' := fun e => hslash (e ▸ hc)
    rw [escapeChar, if_neg hne, if_neg hne']
  rw [List.flatMap_congr hchars, List.flatMap_singleton']

theorem escape_decode {l : List Char} (h : Escaped l) (hslash : '/' ∉ l) :
    (decode l).flatMap escapeChar = l := by
  fun_induction decode l with
  | case1 => rfl
  | case2 rest ih =>
      simp only [List.mem_cons, not_or] at hslash
      rw [escaped_cons, escaped_cons] at h
      rw [List.flatMap_cons, ih h.2.2 hslash.2.2]
      rfl
  | case3 rest ih =>
      simp only [List.mem_cons, not_or] at hslash
      rw [escaped_cons, escaped_cons] at h
      rw [List.flatMap_cons, ih h.2.2 hslash.2.2]
      rfl
  | case4 c rest h₁ h₀ ih =>
      obtain ⟨hc, hrest⟩ := escaped_cons.mp h
      simp only [List.mem_cons, not_or] at hslash
      have htilde : c ≠ '~' := by
        intro hc'
        rcases hc hc' with hr | hr
        · obtain ⟨rest', rfl⟩ := List.head?_eq_some_iff.mp hr
          exact h₀ rest' hc' rfl
        · obtain ⟨rest', rfl⟩ := List.head?_eq_some_iff.mp hr
          exact h₁ rest' hc' rfl
      have hesc : escapeChar c = [c] := by
        rw [escapeChar, if_neg htilde, if_neg fun e => hslash.1 e.symm]
      rw [List.flatMap_cons, hesc, List.singleton_append, ih hrest hslash.2]

theorem slash_notMem_escape (l : List Char) : '/' ∉ l.flatMap escapeChar := by
  intro h
  obtain ⟨c, -, hc⟩ := List.mem_flatMap.mp h
  unfold escapeChar at hc
  split_ifs at hc with htilde hslash
  · simp at hc
  · simp at hc
  · exact hslash (List.mem_singleton.mp hc).symm

/-! ### Slashes -/

theorem split_ne_nil (l : List Char) : split l ≠ [] := by
  cases l with
  | nil => simp [split]
  | cons c l =>
      rw [split]
      split_ifs
      · simp
      · split <;> simp

theorem split_append_slash {piece : List Char} (h : '/' ∉ piece) (l : List Char) :
    split (piece ++ '/' :: l) = piece :: split l := by
  induction piece with
  | nil => simp [split]
  | cons c piece ih =>
      simp only [List.mem_cons, not_or] at h
      rw [List.cons_append, split, if_neg fun e => h.1 e.symm, ih h.2]

theorem split_of_slash_notMem {piece : List Char} (h : '/' ∉ piece) : split piece = [piece] := by
  induction piece with
  | nil => rfl
  | cons c piece ih =>
      simp only [List.mem_cons, not_or] at h
      rw [split, if_neg fun e => h.1 e.symm, ih h.2]

/-- The text of pieces, a slash before each of them. -/
def flatten (pieces : List (List Char)) : List Char :=
  pieces.flatMap fun piece => '/' :: piece

/-- The pieces after the slashes are those that have been written. -/
theorem split_flatten {pieces : List (List Char)} (h : ∀ piece ∈ pieces, '/' ∉ piece) :
    split (flatten pieces) = [] :: pieces := by
  induction pieces with
  | nil => rfl
  | cons piece pieces ih =>
      simp only [List.mem_cons, forall_eq_or_imp] at h
      have hrest := ih h.2
      change split ([] ++ '/' :: (piece ++ flatten pieces)) = _
      rw [split_append_slash (by simp)]
      congr 1
      cases pieces with
      | nil =>
          rw [flatten, List.flatMap_nil, List.append_nil]
          exact split_of_slash_notMem h.1
      | cons piece' pieces =>
          have hflat : flatten (piece' :: pieces) = [] ++ '/' :: (piece' ++ flatten pieces) := rfl
          rw [hflat, split_append_slash (by simp)] at hrest
          rw [hflat, List.nil_append, split_append_slash h.1]
          rw [List.cons.inj hrest |>.2]

theorem flatten_split (l : List Char) : flatten (split l) = '/' :: l := by
  induction l with
  | nil => rfl
  | cons c l ih =>
      rw [split]
      split_ifs with hc
      · subst hc
        exact congrArg ('/' :: ·) ih
      · cases hs : split l with
        | nil => exact absurd hs (split_ne_nil l)
        | cons piece more =>
            rw [hs] at ih
            have hrest : piece ++ flatten more = l := List.cons.inj ih |>.2
            change '/' :: c :: (piece ++ flatten more) = _
            rw [hrest]

/-- The pieces of a text have no slash, and their tildes begin escapes if those of the text do. -/
theorem escaped_of_mem_split {l : List Char} (h : Escaped l) :
    ∀ piece ∈ split l, Escaped piece ∧ '/' ∉ piece := by
  induction l with
  | nil => simp [split, escaped_nil]
  | cons c l ih =>
      obtain ⟨hc, hl⟩ := escaped_cons.mp h
      have ih := ih hl
      rw [split]
      split_ifs with hslash
      · simp only [List.mem_cons, forall_eq_or_imp]
        exact ⟨⟨escaped_nil, by simp⟩, ih⟩
      · cases hs : split l with
        | nil => exact absurd hs (split_ne_nil l)
        | cons piece more =>
            simp only [hs, List.mem_cons, forall_eq_or_imp] at ih ⊢
            obtain ⟨⟨hpiece, hnoslash⟩, hmore⟩ := ih
            have hl' : piece ++ flatten more = l := by
              have hflat := flatten_split l
              rw [hs] at hflat
              exact List.cons.inj hflat |>.2
            -- the first piece starts like the rest of the text, unless a slash comes first
            have hhead : ∀ x, x ≠ '/' → l.head? = some x → piece.head? = some x := by
              intro x hx hlx
              cases piece with
              | cons y piece =>
                  rw [← hl'] at hlx
                  exact hlx
              | nil =>
                  rw [← hl'] at hlx
                  cases more with
                  | nil => cases hlx
                  | cons piece' more =>
                      cases hlx
                      exact absurd rfl hx
            refine ⟨⟨escaped_cons.mpr ⟨fun htilde => ?_, hpiece⟩, ?_⟩, hmore⟩
            · exact (hc htilde).imp (hhead '0' (by decide)) (hhead '1' (by decide))
            · exact not_or.mpr ⟨fun e => hslash e.symm, hnoslash⟩

/-! ### Paths -/

theorem toList_toPath (segments : List String) : (toPath segments).toList =
    flatten (segments.map fun s => s.toList.flatMap escapeChar) := by
  unfold toPath flatten
  induction segments with
  | nil => rfl
  | cons s segments ih =>
      rw [List.map_cons, String.join_cons, String.toList_append, ih, List.map_cons,
        List.flatMap_cons]
      simp [escape]

theorem ofPath_toPath (segments : List String) : ofPath (toPath segments) = segments := by
  have hsplit : split (toPath segments).toList =
      [] :: segments.map fun s => s.toList.flatMap escapeChar := by
    rw [toList_toPath]
    refine split_flatten fun piece hpiece => ?_
    obtain ⟨s, -, rfl⟩ := List.mem_map.mp hpiece
    exact slash_notMem_escape s.toList
  rw [ofPath, hsplit, List.tail_cons, List.map_map]
  conv_rhs => rw [← List.map_id segments]
  refine List.map_congr_left fun s _ => ?_
  simp [unescape_eq_decode, decode_escape]

/-- A path of one segment that is written without escapes. -/
theorem ofPath_plain {s : String} (htilde : '~' ∉ s.toList) (hslash : '/' ∉ s.toList) :
    ofPath ("/" ++ s) = [s] := by
  have hpath : "/" ++ s = toPath [s] := by
    rw [← String.toList_inj, toList_toPath]
    simp [flatten, flatMap_escapeChar htilde hslash]
  rw [hpath, ofPath_toPath]

theorem toPath_ofPath {path : String} (hroot : path.toList.head? = some '/')
    (h : Escaped path.toList) : toPath (ofPath path) = path := by
  obtain ⟨l, hl⟩ := List.head?_eq_some_iff.mp hroot
  have hpieces : (split path.toList).tail = split l := by
    rw [hl, split, if_pos rfl, List.tail_cons]
  rw [hl] at h
  have hrest := escaped_of_mem_split (escaped_cons.mp h).2
  rw [← String.toList_inj, toList_toPath, ofPath, hpieces, hl, ← flatten_split l, List.map_map]
  congr 1
  conv_rhs => rw [← List.map_id (split l)]
  refine List.map_congr_left fun piece hpiece => ?_
  obtain ⟨hescaped, hslash⟩ := hrest piece hpiece
  simp [unescape_eq_decode, escape_decode hescaped hslash]

end JsonPatch.Segment

namespace JsonPatch.Pointer

open Segment (Escaped)

theorem ofPath_path (path : String) : (ofPath path).path = path := by
  unfold ofPath
  split_ifs with h
  · exact h.symm ▸ rfl
  · rfl

/-- The parts and the last segment of a path that has segments. -/
theorem ofPath_segments {path : String} (h : Segment.ofPath path ≠ []) :
    (ofPath path).parts = (Segment.ofPath path).dropLast ∧
      (ofPath path).last = (Segment.ofPath path).getLast? ∧
      (ofPath path).segments = Segment.ofPath path := by
  have hpath : path ≠ "" := by
    rintro rfl
    exact h rfl
  have hparts : (ofPath path).parts = (Segment.ofPath path).dropLast := by rw [ofPath, if_neg hpath]
  have hlast : (ofPath path).last = (Segment.ofPath path).getLast? := by
    simp [ofPath, hpath, List.getLast?_eq_some_getLast h]
  refine ⟨hparts, hlast, ?_⟩
  rw [segments, hparts, hlast, List.getLast?_eq_some_getLast h]
  exact List.dropLast_append_getLast h

/-- The path of segments starts with a slash, unless there are none. -/
theorem ofSegments_wellFormed (segments : List String) :
    (ofSegments segments).wellFormed = true := by
  unfold ofSegments ofPath
  split_ifs with h
  · rfl
  · cases segments with
    | nil => exact absurd rfl h
    | cons s segments => simp [Segment.toList_toPath, Segment.flatten]

/-- Pointers and lists of segments are the same: every list of segments comes back from the path
that is written of it, as parts and a last one, and every path that is empty or starts with a slash
and has no tilde outside of an escape comes back from its segments.  A segment is read as in one
pass from left to right, whatever its tildes stand before. -/
theorem path_codec :
    (∀ segments, (ofPath (ofSegments segments).path).parts = segments.dropLast ∧
      (ofPath (ofSegments segments).path).last = segments.getLast? ∧
      (ofPath (ofSegments segments).path).segments = segments ∧
      (ofPath (ofSegments segments).path).wellFormed = true ∧
      ((ofPath (ofSegments segments).path).isRoot = true ↔ segments = [])) ∧
    (∀ path : String, (path = "" ∨ path.toList.head? = some '/') → Escaped path.toList →
      (ofSegments (ofPath path).segments).path = path) ∧
    ∀ s, Segment.unescape s = String.ofList (Segment.decode s.toList) := by
  refine ⟨fun segments => ?_, fun path hpath hescaped => ?_, Segment.unescape_eq_decode⟩
  · have hwell := ofSegments_wellFormed segments
    have hpath : ofPath (ofSegments segments).path = ofSegments segments := by
      unfold ofSegments
      rw [ofPath_path]
    rw [hpath]
    have hof := Segment.ofPath_toPath segments
    cases segments with
    | nil => exact ⟨rfl, rfl, rfl, rfl, by decide⟩
    | cons s rest =>
        have hne : Segment.ofPath (Segment.toPath (s :: rest)) ≠ [] := by simp [hof]
        obtain ⟨hparts, hlast, hall⟩ := ofPath_segments hne
        rw [hof] at hparts hlast hall
        refine ⟨hparts, hlast, hall, hwell, ?_⟩
        have hlast : (ofSegments (s :: rest)).last = _ := hlast
        simp [isRoot, hlast]
  · rw [ofSegments, ofPath_path]
    rcases hpath with rfl | hroot
    · rfl
    · have hsegments : Segment.ofPath path ≠ [] := by
        intro h
        have := Segment.toPath_ofPath hroot hescaped
        rw [h] at this
        rw [← this] at hroot
        cases hroot
      rw [(ofPath_segments hsegments).2.2, Segment.toPath_ofPath hroot hescaped]

theorem path_codec_tildes :
    ("/~01/a~1b//~0" = "" ∨ "/~01/a~1b//~0".toList.head? = some '/') ∧
      Escaped "/~01/a~1b//~0".toList ∧ (ofPath "/~01/a~1b//~0").segments = ["~1", "a/b", "", "~"] ∧
      (ofSegments ["~1", "a/b", "", "~"]).path = "/~01/a~1b//~0" := by
  have hroot : "/~01/a~1b//~0" = "" ∨ "/~01/a~1b//~0".toList.head? = some '/' := .inr (by decide)
  have hescaped : Escaped "/~01/a~1b//~0".toList := by decide
  have hsegments : (ofPath "/~01/a~1b//~0").segments = ["~1", "a/b", "", "~"] := rfl
  refine ⟨hroot, hescaped, hsegments, ?_⟩
  rw [← hsegments]
  exact path_codec.2.1 _ hroot hescaped

end JsonPatch.Pointer
