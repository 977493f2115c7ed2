import JsonPatch.Proofs.Live.Track
import JsonPatch.Proofs.Session

/-! # Using a patch again

A run leaves the descriptors of a patch with what it has made of their values, and the next run
starts from there.  `run_reuse` says what one run leaves, and that a patch can be used any number of
times as long as no run changes a value that it has put in. -/

namespace JsonPatch

namespace Live

/-! ### One run -/

theorem Entry.plant_ready {ds : List Descriptor}
    (hj : ∀ d ∈ ds, (Descriptor.field d "value").IsJson) (cells : Cells) :
    ∃ F, Ready (plant ds cells).2 (plant ds cells).1 F ∧ F.Nodup ∧ (∀ i ∈ F, cells.size ≤ i) ∧
      Grows cells (plant ds cells).2 ∧ (plant ds cells).1.map Entry.descriptor = ds := by
  induction ds generalizing cells with
  | nil => exact ⟨0, .nil, Multiset.nodup_zero, nofun, Grows.refl cells, rfl⟩
  | cons d rest ih =>
      obtain ⟨N, hN⟩ := Cells.plant_planted (d.field "value") (hj d (by simp)) cells
      obtain ⟨F, hF, hnodup, hfresh, hgrows, hds⟩ :=
        ih (fun d' hd => hj d' (by simp [hd])) (cells.plant (d.field "value")).2
      have hN' := hN.nodup
      have hNfresh := hN.fresh
      rw [Multiset.singleton_bind] at hN' hNfresh
      have hheld : Held.In (cells.plant (d.field "value")).2 _ :=
        hN.held _ (Multiset.mem_singleton_self _)
      refine ⟨N + F, .cons (hgrows.held hheld) hF, ?_, ?_, hN.grows.trans hgrows, ?_⟩
      · refine Multiset.nodup_add.mpr ⟨hN', hnodup, Multiset.disjoint_left.mpr fun {i} hi hi' => ?_⟩
        exact absurd (Holds.lt_size hheld hi) (Nat.not_lt_of_le (hfresh i hi'))
      · intro i hi
        rcases Multiset.mem_add.mp hi with hi | hi
        · exact hNfresh i hi
        · exact Nat.le_trans hN.grows.size (hfresh i hi)
      · exact congrArg (d :: ·) hds

/-- A run goes as on documents. It leaves the descriptors as `Patch.leaves` says, and the cells of
their values alone if the run spares them. -/
structure Ran (p : Patch) (es : List Entry) (F : Multiset Nat) (doc : Value) (r : Run) : Prop where
  result : r.result = (p.run doc).result
  document : r.store.read? = some (p.run doc).document
  leaves : Reads r.store.cells es (p.leaves doc)
  spares : p.Spares doc → Ready r.store.cells es F

/-- A run on a document that takes new cells follows the run on the value. -/
theorem run_carried {p : Patch} (hp : p.IsStandard) {es : List Entry} {cells : Cells}
    {F : Multiset Nat} (hes : Ready cells es F) (hF : F.Nodup) {doc : Value} (hj : doc.IsJson) :
    Grows cells (cells.plant doc).2 ∧ ∃ M, (∀ i ∈ M, cells.size ≤ i) ∧
      Carried p 0 es ⟨(cells.plant doc).2, (cells.plant doc).1⟩ doc M F := by
  obtain ⟨M, hM⟩ := Cells.plant_planted doc hj cells
  have hfresh := hM.fresh
  have hnodup := hM.nodup
  rw [Multiset.singleton_bind] at hfresh hnodup
  have hs : Holds (cells.plant doc).2 doc (cells.plant doc).1 M :=
    hM.held _ (Multiset.mem_singleton_self _)
  have hready := hes.frame fun i hi => hM.grows.kept i (hes.lt_size hi)
  have hn : (M + F).Nodup := by
    refine Multiset.nodup_add.mpr ⟨hnodup, hF, Multiset.disjoint_left.mpr fun {i} hi hi' => ?_⟩
    exact absurd (hes.lt_size hi') (Nat.not_lt_of_le (hfresh i hi))
  exact ⟨hM.grows, M, hfresh, runFrom_carried hp hs hready hn⟩

theorem run_ran {p : Patch} (hp : p.IsStandard) {es : List Entry} {cells : Cells}
    {F : Multiset Nat} (hes : Ready cells es F) (hF : F.Nodup)
    (hops : es.map Entry.descriptor = p.operations) {doc : Value} (hj : doc.IsJson) :
    Ran p es F doc (run p es cells doc) := by
  obtain ⟨hgrows, M, -, h⟩ := run_carried hp hes hF hj
  have hready := hes.frame fun i hi => hgrows.kept i (hes.lt_size hi)
  obtain ⟨M', hM', hheld⟩ := h.held
  have hleaves := h.leaves
  rw [hops] at hheld hleaves
  refine ⟨?_, hheld.read? hM', hleaves, fun hspares => hready.frame (h.spares ?_)⟩
  · have hresult := h.result
    rw [hops] at hresult
    exact hresult
  · rw [hops]
    exact hspares

/-- The descriptors that the cells have are what is seen of them. -/
theorem Reads.operations {cells : Cells} {es : List Entry} {ds : List Descriptor}
    (h : Reads cells es ds) : operations cells es = .ok ds := by
  unfold Live.operations
  induction h with
  | nil => rfl
  | @cons e d es ds he _ ih =>
      rw [List.mapM_cons, he, ih]
      rfl

end Live

/-! ### Sessions -/

namespace Session

/-- What a run in a session leaves of the descriptors of a patch; without tracing there is none. -/
def leaves (s : Session) (p : Patch) (doc : Value) : List Descriptor :=
  match s.currentTracing with
  | .ok _ => p.leaves doc
  | .error _ => p.operations

/-- What is seen after a run on documents, given what it leaves of the descriptors. -/
def aftermath (s : Session) (p : Patch) (doc : Value) (operations : List Descriptor) :
    Live.Aftermath :=
  ⟨(s.run p doc).run.result, .ok (s.run p doc).run.document, .ok operations⟩

variable {s : Session} {p : Patch} {doc : Value}

/-- Runs go the same way and leave the same in both sessions. -/
structure Like (s' s : Session) (p : Patch) : Prop where
  run : ∀ doc, (s'.run p doc).run = (s.run p doc).run
  leaves : ∀ doc, s'.leaves p doc = s.leaves p doc

namespace Like

variable {s' s'' : Session}

theorem refl (s : Session) (p : Patch) : Like s s p :=
  ⟨fun _ => rfl, fun _ => rfl⟩

theorem trans (h : Like s'' s' p) (h' : Like s' s p) : Like s'' s p :=
  ⟨fun doc => (h.run doc).trans (h'.run doc), fun doc => (h.leaves doc).trans (h'.leaves doc)⟩

theorem aftermath (h : Like s' s p) (doc : Value) (operations : List Descriptor) :
    s'.aftermath p doc operations = s.aftermath p doc operations := by
  rw [Session.aftermath, Session.aftermath, h.run]

end Like
end Session

namespace Live

variable {s : Session} {p : Patch} {es : List Entry} {cells : Cells} {F : Multiset Nat}

/-- One run after another: what is seen of the first of them. -/
theorem runEach_cons (hp : p.IsStandard) (hes : Ready cells es F) (hF : F.Nodup)
    (hops : es.map Entry.descriptor = p.operations) {doc : Value} (hj : doc.IsJson)
    (rest : List Value) :
    ∃ s' cells', runEach s p es cells (doc :: rest) =
        s.aftermath p doc (s.leaves p doc) :: runEach s' p es cells' rest ∧
      (p.Spares doc → Ready cells' es F ∧ s.leaves p doc = p.operations) ∧ s'.Like s p := by
  have hreads : operations cells es = .ok p.operations := hops ▸ (hes.reads hF).operations
  cases ht : s.currentTracing with
  | error f =>
      refine ⟨s, cells, ?_, fun _ => ⟨hes, ?_⟩, Session.Like.refl s p⟩
      · rw [runEach, ht, Session.aftermath, Session.leaves, ht, Session.run_of_no_tracing ht, hreads]
      · rw [Session.leaves, ht]
  | ok t =>
      obtain ⟨t, s'⟩ := t
      have hran := run_ran hp hes hF hops hj
      have hagain := Session.currentTracing_again ht
      have hleaves : s.leaves p doc = p.leaves doc := by rw [Session.leaves, ht]
      refine ⟨s', (run p es cells doc).store.cells, ?_, fun hspares => ?_, fun doc' => ?_,
        fun doc' => ?_⟩
      · rw [runEach, ht, Session.aftermath, hleaves, Session.run_of_tracing ht]
        dsimp only
        rw [hran.result, hran.document, hran.leaves.operations]
        rfl
      · have hready := hran.spares hspares
        refine ⟨hready, ?_⟩
        have hsame := (hready.reads hF).operations.symm.trans hran.leaves.operations
        rw [hops] at hsame
        rw [hleaves]
        exact (Except.ok.inj hsame).symm
      · rw [Session.run_of_tracing hagain, Session.run_of_tracing ht]
      · rw [Session.leaves, Session.leaves, hagain, ht]

/-- Runs that spare the values they put in are seen as runs on documents, all with the descriptors
as they were, and then the patch is as good as new: by induction on the documents, as each run
leaves the entries ready for the next. -/
theorem runEach_spared (hp : p.IsStandard) (hes : Ready cells es F) (hF : F.Nodup)
    (hops : es.map Entry.descriptor = p.operations) {docs : List Value}
    (hdocs : ∀ doc ∈ docs, doc.IsJson ∧ p.Spares doc) (rest : List Value) :
    ∃ s' cells', runEach s p es cells (docs ++ rest) =
        (docs.map fun doc => s.aftermath p doc p.operations) ++ runEach s' p es cells' rest ∧
      Ready cells' es F ∧ s'.Like s p := by
  induction docs generalizing s cells with
  | nil => exact ⟨s, cells, rfl, hes, Session.Like.refl s p⟩
  | cons doc docs ih =>
      obtain ⟨hj, hspares⟩ := hdocs doc (by simp)
      obtain ⟨s₁, cells₁, hrun, hnext, hlike₁⟩ :=
        runEach_cons (s := s) hp hes hF hops hj (docs ++ rest)
      obtain ⟨hready, hleaves⟩ := hnext hspares
      obtain ⟨s₂, cells₂, hruns, hready₂, hlike₂⟩ :=
        ih (s := s₁) hready fun doc' h => hdocs doc' (by simp [h])
      refine ⟨s₂, cells₂, ?_, hready₂, hlike₂.trans hlike₁⟩
      rw [List.cons_append, hrun, hruns, hleaves]
      simp only [List.map_cons, List.cons_append, Session.aftermath, hlike₁.run]

/-- Runs that change none of the values they have put in leave the descriptors as they were, however
many there are, and each of them goes as it would alone.  A run on any document after them leaves
the descriptors as `Session.leaves` says, so they are as they were exactly if it gives them
again. -/
theorem run_reuse {p : Patch} (hp : p.IsFromText) (s : Session) {docs : List Value}
    (hdocs : ∀ doc ∈ docs, doc.IsJson ∧ p.Spares doc) :
    runAll s p docs = (docs.map fun doc => s.aftermath p doc p.operations) ∧
      ∀ doc, doc.IsJson →
        runAll s p (docs ++ [doc]) = (docs.map fun doc => s.aftermath p doc p.operations) ++
          [s.aftermath p doc (s.leaves p doc)] ∧
        ((runAll s p (docs ++ [doc]) = (docs ++ [doc]).map fun doc =>
          s.aftermath p doc p.operations) ↔ s.leaves p doc = p.operations) := by
  have hstandard := hp.isStandard
  obtain ⟨F, hF, hnodup, -, -, hops⟩ := Entry.plant_ready (fun d hd => hp.isJson hd "value") #[]
  constructor
  · obtain ⟨s', cells', hruns, -⟩ := runEach_spared (s := s) hstandard hF hnodup hops hdocs []
    rw [List.append_nil, runEach, List.append_nil] at hruns
    exact hruns
  · intro doc hj
    obtain ⟨s', cells', hruns, hready, hlike⟩ :=
      runEach_spared (s := s) hstandard hF hnodup hops hdocs [doc]
    obtain ⟨s'', cells'', hrun, -⟩ := runEach_cons (s := s') hstandard hready hnodup hops hj []
    rw [runEach] at hrun
    rw [hrun, hlike.aftermath, hlike.leaves] at hruns
    have hall : runAll s p (docs ++ [doc]) = _ := hruns
    refine ⟨hall, ?_⟩
    rw [hall, List.map_append, List.append_cancel_left_eq]
    simp only [List.map_cons, List.map_nil, List.cons.injEq, and_true, Session.aftermath,
      Aftermath.mk.injEq, Except.ok.injEq, true_and]

/-- A value that is copied before it is added to: the copy is not the descriptor's value. -/
def addToCopy : Patch := Patch.ofCore [
  Patch.adding "/a" (.array []),
  Patch.copying "/a" "/b",
  Patch.adding "/b/-" (.number (.int 1))]

theorem run_addToCopy :
    addToCopy.IsFromText ∧ (∀ doc ∈ [Value.object [], .object []], doc.IsJson ∧
        addToCopy.Spares doc) ∧
      runAll { environment := [] } addToCopy [.object [], .object []] =
        [.object [], .object []].map fun doc =>
          Session.aftermath { environment := [] } addToCopy doc addToCopy.operations := by
  have htext : addToCopy.IsFromText := Patch.ofCore_isFromText
    ("[\x7b\"op\":\"add\",\"path\":\"/a\",\"value\":[]\x7d," ++
      "\x7b\"op\":\"copy\",\"from\":\"/a\",\"path\":\"/b\"\x7d," ++
      "\x7b\"op\":\"add\",\"path\":\"/b/-\",\"value\":1\x7d]") (by cbv) (by cbv)
  have hdocs : ∀ doc ∈ [Value.object [], .object []], doc.IsJson ∧ addToCopy.Spares doc := by
    intro doc hdoc
    simp only [List.mem_cons, List.not_mem_nil, or_false, or_self] at hdoc
    subst hdoc
    exact ⟨rfl, rfl⟩
  exact ⟨htext, hdocs, (run_reuse htext { environment := [] } hdocs).1⟩

/-- Without the copy the descriptor's value grows with every run, and so does the document. -/
def addToAdded : Patch := Patch.ofCore [
  Patch.adding "/a" (.array []),
  Patch.adding "/a/-" (.number (.int 1))]

theorem addToAdded_isFromText : addToAdded.IsFromText :=
  Patch.ofCore_isFromText
    ("[\x7b\"op\":\"add\",\"path\":\"/a\",\"value\":[]\x7d," ++
      "\x7b\"op\":\"add\",\"path\":\"/a/-\",\"value\":1\x7d]") (by cbv) (by cbv)

theorem run_addToAdded :
    addToAdded.IsFromText ∧
      runAll { environment := [] } addToAdded [.object [], .object []] = [
        ⟨.ok (), .ok (.object [("a", .array [.number (.int 1)])]), .ok [
          Patch.adding "/a" (.array [.number (.int 1)]),
          Patch.adding "/a/-" (.number (.int 1))]⟩,
        ⟨.ok (), .ok (.object [("a", .array [.number (.int 1), .number (.int 1)])]), .ok [
          Patch.adding "/a" (.array [.number (.int 1), .number (.int 1)]),
          Patch.adding "/a/-" (.number (.int 1))]⟩] :=
  ⟨addToAdded_isFromText, rfl⟩

end Live
end JsonPatch
