import JsonPatch.Proofs.Live.Reuse

/-! # The first run of a patch

The values that a patch puts into a document stay tied to their descriptors, but as long as the
patch is new nobody can tell: each value is put in once, by the operation whose own it is, and no
later operation looks at it in the descriptor.  So the first run goes as the run on documents,
`Patch.run`, into which every value goes as the patch was built with it (`run_fresh`).

To apply a patch is to run it on a copy, whose cells are not those of the document: the document is
as it was after the run (`Applied`). -/

namespace JsonPatch.Live

/-- A run on cells ends as a run on documents does, with the same document or the same error. -/
structure EndsAs (r : Run) (pure : JsonPatch.Run) : Prop where
  result : r.result = pure.result
  document : r.store.read? = some pure.document

/-- A patch has been applied to a copy of a document in cells. -/
structure Applied (p : Patch) (doc : Value) (original : Part) (r : Run) : Prop where
  ends : EndsAs r (p.run doc)
  outcome : p.apply doc = r.result.map fun _ => (p.run doc).document
  original : r.store.cells.read? original = some doc

/-- A run leaves the cells alone that are neither new nor the patch's own. -/
theorem run_frame {p : Patch} (hp : p.IsStandard) {es : List Entry} {cells : Cells}
    {F : Multiset Nat} (hes : Ready cells es F) (hF : F.Nodup) {doc : Value} (hj : doc.IsJson)
    {j : Nat} (hlt : j < cells.size) (hj' : j ∉ F) :
    (run p es cells doc).store.cells[j]? = cells[j]? := by
  obtain ⟨hgrows, M, hfresh, h⟩ := run_carried hp hes hF hj
  have hM : j ∉ M := fun hjM => absurd hlt (Nat.not_lt_of_le (hfresh j hjM))
  have hnot : j ∉ M + F := by
    rw [Multiset.mem_add, not_or]
    exact ⟨hM, hj'⟩
  have hrun := h.frame j (Nat.lt_of_lt_of_le hlt hgrows.size) hnot
  exact hrun.trans (hgrows.kept j hlt)

/-- The first run of a patch from a text ends as the run on documents, in which values are put in
as the patch was built with them.  Applied to a document, the patch ends in the same way on a copy
of it, and the document is as it was. -/
theorem run_fresh {p : Patch} (hp : p.IsFromText) {doc : Value} (hj : doc.IsJson) :
    let (entries, cells) := Entry.plant p.operations #[]
    EndsAs (run p entries cells doc) (p.run doc) ∧
      ∃ r, apply p entries ⟨(cells.plant doc).2, (cells.plant doc).1⟩ = some r ∧
        Applied p doc (cells.plant doc).1 r := by
  have hstandard := hp.isStandard
  obtain ⟨F, hes, hF, -, -, hops⟩ := Entry.plant_ready (fun d hd => hp.isJson hd "value") #[]
  generalize Entry.plant p.operations #[] = planted at hes hops
  obtain ⟨entries, cells⟩ := planted
  dsimp only at hes hops ⊢
  have hran := run_ran hstandard hes hF hops hj
  refine ⟨⟨hran.result, hran.document⟩, ?_⟩
  obtain ⟨O, hO⟩ := Cells.plant_planted doc hj cells
  have hfresh := hO.fresh
  have hnodup := hO.nodup
  rw [Multiset.singleton_bind] at hfresh hnodup
  have hheld : Holds (cells.plant doc).2 doc (cells.plant doc).1 O :=
    hO.held _ (Multiset.mem_singleton_self _)
  have hes' := hes.frame fun i hi => hO.grows.kept i (hes.lt_size hi)
  -- the copy is planted beside the document, so the run on it is the run of an unused patch
  have happly : apply p entries ⟨(cells.plant doc).2, (cells.plant doc).1⟩ =
      some (run p entries (cells.plant doc).2 doc) := by
    rw [apply, hheld.copy? hnodup]
    rfl
  have hran' := run_ran hstandard hes' hF hops hj
  refine ⟨_, happly, ⟨hran'.result, hran'.document⟩, ?_, ?_⟩
  · rw [Patch.apply, hran'.result]
  · refine Holds.read? (hheld.frame fun i hi => ?_) hnodup
    refine run_frame hstandard hes' hF hj (hheld.lt_size hi) fun hiF => ?_
    exact absurd (hes.lt_size hiF) (Nat.not_lt_of_le (hfresh i hi))

/-- A later operation reaches into a value that has been put in: the first run goes as if the value
had been copied. -/
theorem run_fresh_addToAdded :
    addToAdded.IsFromText ∧ (Value.object []).IsJson ∧
      EndsAs (run addToAdded (Entry.plant addToAdded.operations #[]).1
        (Entry.plant addToAdded.operations #[]).2 (.object [])) (addToAdded.run (.object [])) ∧
      (addToAdded.run (.object [])).document = .object [("a", .array [.number (.int 1)])] := by
  have hjson : (Value.object []).IsJson := by decide
  exact ⟨addToAdded_isFromText, hjson, (run_fresh addToAdded_isFromText hjson).1, rfl⟩

end JsonPatch.Live
