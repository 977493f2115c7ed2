import JsonPatch.Grammar.Violation
import JsonPatch.Proofs.Pointer.Lookup
import JsonPatch.Proofs.Value.Index
import JsonPatch.Proofs.Value.Place

/-! # Keys written as a path

A report writes the keys of a place after slashes and escapes nothing.  That is the path of a
pointer to this place if all keys are plain (`toPath_keyTexts`): no name has a character to be
escaped or is a number that is too long, and neither is an index.  The pointer then resolves to the
value at the place (`resolve_of_at?`). -/

namespace JsonPatch

open Grammar (keyText)

/-- The key stands in a path as it is, and it can be read from there. -/
def Key.IsPlain : Key → Prop
  | member name => '~' ∉ name.toList ∧ '/' ∉ name.toList ∧ Value.IsReadable name
  | index i => i < 10 ^ Value.indexDigitLimit

namespace Key

theorem member_isPlain {name : String} : (member name).IsPlain ↔
    '~' ∉ name.toList ∧ '/' ∉ name.toList ∧ Value.IsReadable name :=
  Iff.rfl

theorem IsPlain.isReadable {k : Key} (h : k.IsPlain) : Value.IsReadable (keyText k) := by
  cases k with
  | member name => exact h.2.2
  | index i =>
      intro _
      rw [keyText, Nat.toString_eq_ofList_toDigits, String.toList_ofList,
        Value.dropLineFeed_toDigits]
      exact (Nat.length_toDigits_le_iff (by decide) (by decide)).mpr h

theorem IsPlain.escape {k : Key} (h : k.IsPlain) :
    (keyText k).toList.flatMap Segment.escapeChar = (keyText k).toList := by
  cases k with
  | member name => exact Segment.flatMap_escapeChar h.1 h.2.1
  | index i =>
      have hdigits : ∀ c ∈ (keyText (.index i)).toList, Value.isIndexDigit c = true := by
        intro c hc
        rw [keyText, Nat.toString_eq_ofList_toDigits, String.toList_ofList] at hc
        exact Value.isIndexDigit_of_mem hc
      refine Segment.flatMap_escapeChar (fun hc => ?_) fun hc => ?_
      · exact absurd (hdigits _ hc) (by decide)
      · exact absurd (hdigits _ hc) (by decide)

/-- The part of a value at a plain key is the one that the text of the key names. -/
theorem IsPlain.step? {k : Key} (h : k.IsPlain) {c v : Value} (hc : c.child? k = some v) :
    c.step? (keyText k) = some v := by
  cases c with
  | object members =>
      cases k with
      | member name => exact hc
      | index i => cases hc
  | array items =>
      cases k with
      | member name => cases hc
      | index i =>
          rw [keyText, Value.step?, Value.indexOfText_toString h]
          exact hc
  | _ => cases hc

end Key

namespace Pointer

variable {place : List Key}

/-- The path of a place, written without escapes. -/
theorem toPath_keyTexts (hplain : ∀ k ∈ place, k.IsPlain) (hne : place ≠ []) :
    "/" ++ String.intercalate "/" (place.map keyText) = Segment.toPath (place.map keyText) := by
  rw [← String.toList_inj, Segment.toList_toPath, List.map_map]
  have hescape : place.map ((fun s => s.toList.flatMap Segment.escapeChar) ∘ keyText) =
      place.map fun k => (keyText k).toList :=
    List.map_congr_left fun k hk => (hplain k hk).escape
  rw [hescape]
  clear hescape hplain
  induction place with
  | nil => exact absurd rfl hne
  | cons k rest ih =>
      cases rest with
      | nil => simp [Segment.flatten]
      | cons k' rest =>
          have ih := ih (by simp)
          rw [List.map_cons, List.map_cons, String.intercalate_cons_cons]
          rw [List.map_cons, String.toList_append] at ih
          simp only [List.map_cons, String.toList_append, Segment.flatten,
            List.flatMap_cons] at ih ⊢
          simp [← ih]

theorem follow?_of_at? (hplain : ∀ k ∈ place, k.IsPlain) {doc v : Value}
    (h : doc.at? place = some v) : doc.follow? (place.map keyText) = some v := by
  induction place generalizing doc with
  | nil => exact h
  | cons k rest ih =>
      rw [List.forall_mem_cons] at hplain
      rw [Value.at?_cons] at h
      obtain ⟨c, hc, hrest⟩ := Option.bind_eq_some_iff.mp h
      rw [List.map_cons, Value.follow?_cons, hplain.1.step? hc, Option.bind_some]
      exact ih hplain.2 hrest

/-- The path of a place of plain keys resolves to the value there. -/
theorem resolve_of_at? (hplain : ∀ k ∈ place, k.IsPlain) {doc v : Value}
    (h : doc.at? place = some v) :
    resolve doc (.string (Segment.toPath (place.map keyText))) = .ok v := by
  cases place with
  | nil =>
      cases h
      exact ((Resolves.root doc).succeeds doc rfl).2
  | cons k rest =>
      have hslash : (Segment.toPath ((k :: rest).map keyText)).toList.head? = some '/' := by
        rw [Segment.toList_toPath]
        rfl
      have hfollow := follow?_of_at? hplain h
      rw [← Segment.ofPath_toPath ((k :: rest).map keyText), ← lookup_of_slash hslash] at hfollow
      have hread : ∀ s ∈ Segment.ofPath (Segment.toPath ((k :: rest).map keyText)),
          Value.IsReadable s := by
        intro s hs
        rw [Segment.ofPath_toPath] at hs
        obtain ⟨k', hk', rfl⟩ := List.mem_map.mp hs
        exact (hplain k' hk').isReadable
      rcases locate_cases hslash hread doc with ⟨c, k', w, hfinds⟩ | ⟨hnone, -⟩
      · have hw : w = v := Option.some.inj (hfinds.lookup.symm.trans hfollow)
        subst hw
        exact (hfinds.resolves.succeeds w rfl).2
      · rw [hnone] at hfollow
        cases hfollow

end Pointer
end JsonPatch
