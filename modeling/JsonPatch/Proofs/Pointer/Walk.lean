import JsonPatch.Proofs.Pointer.LongIndex

/-! # The values along a path

`walk` looks at one segment after the other and takes every obstacle for null, while `value` looks
for the parent first and then for what is in it.  They agree all the same: each step of a walk holds
what the pointer made of the segments so far reads, and the last one what the whole pointer reads
(`walk_agrees`).

`Trail` describes the list of steps, one constructor for each way in which the walk can go on or
end.  All that a walk promises follows from a trail by induction. -/

namespace JsonPatch.Pointer

open Value (MeetsLong)

/-! ### One step -/

section Child

variable {s : String} {v w : Value} {n : Nat}

/-- The part that a segment names, or null. -/
theorem child_eq (h : ∀ n, ¬ MeetsLong [s] v n) : child v s = .ok ((v.step? s).getD .null) := by
  rcases Value.existingKey_cases h with ⟨k, w, hk, hw, hstep⟩ | ⟨hstep, key, hk⟩
  · simp [child, Value.contains, Value.get, hk, hw, hstep, Except.map]
  · simp [child, Value.contains, hk, hstep]

theorem child_of_step? (h : v.step? s = some w) : child v s = .ok w := by
  have hpass : ∀ n, ¬ MeetsLong [s] v n := by
    intro n hm
    have hnone := hm.follow?_eq_none
    rw [Value.follow?_cons, h] at hnone
    cases hnone
  rw [child_eq hpass, h, Option.getD_some]

theorem child_of_meetsLong (h : MeetsLong [s] v n) : child v s = .error (.longNumber n) := by
  simp [child, Value.contains, h.existingKey]

theorem steps_of_child_null (h : child v s = .ok .null) (rest : List String) :
    steps (s :: rest) v = .ok [(s, .null)] := by
  rw [steps, h]

theorem steps_of_child (h : child v s = .ok w) (hw : w ≠ .null) (rest : List String) :
    steps (s :: rest) v = (steps rest w).map ((s, w) :: ·) := by
  rw [steps, h]
  split
  · rename_i he
    cases he
  · rename_i he
    exact absurd (Except.ok.inj he) hw
  · rename_i he
    obtain rfl := Except.ok.inj he
    cases steps rest w <;> rfl

/-- No number is looked up below null. -/
theorem ne_null_of_meetsLong {rest : List String} (h : MeetsLong rest w n) : w ≠ .null := by
  rintro rfl
  cases h with
  | later step _ => cases step

theorem walk_eq_steps {p : Pointer} (h : p.wellFormed = true) (doc : Value) :
    p.walk doc = steps p.segments doc := by
  rw [walk, h]
  rfl

/-- A number that is too long stops the walk. -/
theorem steps_of_meetsLong {segments : List String} (h : MeetsLong segments v n) :
    steps segments v = .error (.longNumber n) := by
  induction h with
  | here rest items long => rw [steps, child_of_meetsLong (.here [] items long)]
  | later step meets ih =>
      rw [steps_of_child (child_of_step? step) (ne_null_of_meetsLong meets), ih]
      rfl

end Child

/-! ### Trails -/

/-- The steps of a walk along segments: it goes on as long as it comes to something that is not
null, and the first null is its last step. -/
inductive Trail : List String → Value → List (String × Value) → Prop where
  | done (v : Value) : Trail [] v []
  | stop {s : String} {v : Value} (rest : List String) (nothing : (v.step? s).getD .null = .null) :
      Trail (s :: rest) v [(s, .null)]
  | next {s : String} {rest : List String} {v w : Value} {more : List (String × Value)}
      (step : v.step? s = some w) (something : w ≠ .null) (trail : Trail rest w more) :
      Trail (s :: rest) v ((s, w) :: more)

theorem trail_of_steps {segments : List String} {v : Value}
    (h : ∀ n, ¬ MeetsLong segments v n) :
    ∃ l, steps segments v = .ok l ∧ Trail segments v l := by
  induction segments generalizing v with
  | nil => exact ⟨[], rfl, .done v⟩
  | cons s rest ih =>
      have hchild : child v s = .ok ((v.step? s).getD .null) :=
        child_eq fun n hm => h n (hm.append_right rest)
      by_cases hnull : (v.step? s).getD .null = .null
      · rw [hnull] at hchild
        exact ⟨_, steps_of_child_null hchild rest, .stop rest hnull⟩
      · cases hstep : v.step? s with
        | none => exact absurd (by rw [hstep, Option.getD_none]) hnull
        | some w =>
            rw [hstep, Option.getD_some] at hchild hnull
            obtain ⟨more, hmore, htrail⟩ := ih fun n hm => h n (.later hstep hm)
            refine ⟨(s, w) :: more, ?_, .next hstep hnull htrail⟩
            rw [steps_of_child hchild hnull, hmore]
            rfl

namespace Trail

variable {segments : List String} {v : Value} {l : List (String × Value)}

/-- Nothing is read below null. -/
theorem getD_follow?_null (rest : List String) : (Value.follow? rest .null).getD .null = .null := by
  cases rest <;> rfl

/-- The segments of the steps are the first ones of the path. -/
theorem names (h : Trail segments v l) : l.map (·.1) <+: segments := by
  induction h with
  | done => exact List.nil_prefix
  | @stop s _ rest _ => exact ⟨rest, rfl⟩
  | next _ _ _ ih => exact List.cons_prefix_cons.mpr ⟨rfl, ih⟩

theorem ne_nil (h : Trail segments v l) (hne : segments ≠ []) : l ≠ [] := by
  cases h with
  | done => exact absurd rfl hne
  | stop => exact List.cons_ne_nil _ _
  | next => exact List.cons_ne_nil _ _

/-- Each step holds what the segments so far lead to. -/
theorem values (h : Trail segments v l) {i : Nat} {s : String} {w : Value}
    (hi : l[i]? = some (s, w)) :
    (Value.follow? ((l.take (i + 1)).map (·.1)) v).getD .null = w := by
  induction h generalizing i with
  | done => cases hi
  | @stop s v rest nothing =>
      cases i with
      | zero =>
          cases hi
          change (Value.follow? [s] v).getD .null = .null
          rw [Value.follow?_cons]
          cases hstep : v.step? s with
          | none => rfl
          | some u =>
              rw [hstep] at nothing
              exact nothing
      | succ i => cases hi
  | next step _ _ ih =>
      rw [List.take_succ_cons, List.map_cons, Value.follow?_cons, step, Option.bind_some]
      cases i with
      | zero =>
          cases hi
          rfl
      | succ i => exact ih hi

/-- Only the last step can hold null. -/
theorem notNull (h : Trail segments v l) {i : Nat} {s : String} {w : Value}
    (hi : l[i]? = some (s, w)) (hlt : i + 1 < l.length) : w ≠ .null := by
  induction h generalizing i with
  | done => cases hi
  | stop => exact absurd hlt (Nat.not_lt_of_le (Nat.le_add_left 1 i))
  | next _ something _ ih =>
      cases i with
      | zero =>
          cases hi
          exact something
      | succ i => exact ih hi (Nat.lt_of_succ_lt_succ hlt)

/-- The last step holds what all segments lead to. -/
theorem last (h : Trail segments v l) (hne : segments ≠ []) :
    ∃ s, l.getLast? = some (s, (Value.follow? segments v).getD .null) := by
  induction h with
  | done => exact absurd rfl hne
  | @stop s v rest nothing =>
      refine ⟨s, ?_⟩
      rw [Value.follow?_cons]
      cases hstep : v.step? s with
      | none => rfl
      | some w =>
          rw [hstep, Option.getD_some] at nothing
          rw [nothing, Option.bind_some, getD_follow?_null]
          rfl
  | @next s rest v w more step _ trail ih =>
      rw [Value.follow?_cons, step, Option.bind_some]
      cases rest with
      | nil =>
          cases trail
          exact ⟨s, rfl⟩
      | cons s' rest =>
          obtain ⟨t, ht⟩ := ih (List.cons_ne_nil s' rest)
          refine ⟨t, ?_⟩
          rw [List.getLast?_cons, ht, Option.getD_some]

/-- A path that leads somewhere is walked to its end. -/
theorem all (h : Trail segments v l) {u : Value} (hu : Value.follow? segments v = some u) :
    l.map (·.1) = segments := by
  induction h with
  | done => rfl
  | @stop s v rest nothing =>
      rw [Value.follow?_cons] at hu
      obtain ⟨w, hstep, hrest⟩ := Option.bind_eq_some_iff.mp hu
      rw [hstep, Option.getD_some] at nothing
      subst nothing
      cases rest with
      | nil => rfl
      | cons s' rest => cases hrest
  | next step _ _ ih =>
      rw [Value.follow?_cons, step, Option.bind_some] at hu
      rw [List.map_cons, ih hu]

end Trail

/-! ### Walks -/

/-- What the steps of a walk say about a path that has segments. -/
structure Walked (path : String) (doc : Value) (l : List (String × Value)) : Prop where
  nonempty : l ≠ []
  segments : l.map (·.1) <+: (ofPath path).segments
  values : ∀ (i : Nat) s v, l[i]? = some (s, v) →
    (ofSegments ((l.take (i + 1)).map (·.1))).value doc = .ok v
  notNull : ∀ (i : Nat) s v, l[i]? = some (s, v) → i + 1 < l.length → v ≠ .null
  last : ∃ s v, l.getLast? = some (s, v) ∧ (ofPath path).value doc = .ok v
  all : (ofPath path).leads doc = .ok true → l.map (·.1) = (ofPath path).segments

/-- The steps of a walk lie on the path if no number that is too long is met. -/
theorem walked_of_trail {path : String} {doc : Value} (hslash : path.toList.head? = some '/')
    (hpass : ∀ n, ¬ ComesToLong path doc n) {l : List (String × Value)}
    (h : Trail (ofPath path).segments doc l) : Walked path doc l := by
  have hne : (ofPath path).segments ≠ [] := by
    obtain ⟨last, hsegments, -, -⟩ := ofPath_of_slash hslash
    rw [segments_of_slash hslash, hsegments]
    exact List.append_ne_nil_of_right_ne_nil _ (List.cons_ne_nil _ _)
  have hresolves := resolves_of_not_comesToLong hpass
  have hlookup : lookup path doc = Value.follow? (ofPath path).segments doc := by
    rw [segments_of_slash hslash, lookup_of_slash hslash]
  rw [hlookup] at hresolves
  refine ⟨h.ne_nil hne, h.names, fun i s v hi => ?_, fun i s v => h.notNull, ?_, fun hleads => ?_⟩
  · -- the segments of the first steps are a part of the path from its start
    obtain ⟨more, hmore⟩ : (l.take (i + 1)).map (·.1) <+: (ofPath path).segments :=
      ((List.take_prefix (i + 1) l).map _).trans h.names
    have hmeets : ∀ n, ¬ MeetsLong ((l.take (i + 1)).map (·.1)) doc n := by
      intro n hm
      refine hpass n ((comesToLong_of_slash hslash).mpr ?_)
      rw [← segments_of_slash hslash, ← hmore]
      exact hm.append_right more
    rw [value_ofSegments hmeets, h.values hi]
  · obtain ⟨s, hs⟩ := h.last hne
    exact ⟨s, _, hs, hresolves.value⟩
  · have hsome := hresolves.leads.symm.trans hleads
    obtain ⟨u, hu⟩ := Option.isSome_iff_exists.mp (Except.ok.inj hsome)
    exact h.all hu

/-- A walk agrees with what pointers read along the path.  It takes no step to the document itself
and is a fault for a path that is not well formed.  On any other path it gives steps unless it comes
to a number that is too long, and then the steps are those of `Walked`: they start the path, each
holds what the pointer made of the segments so far reads, only the last one can hold null, and it
holds what the whole pointer reads. -/
theorem walk_agrees (path : String) (doc : Value) :
    ((ofPath path).isRoot = true → (ofPath path).walk doc = .ok []) ∧
    ((ofPath path).wellFormed = false →
      (ofPath path).walk doc = .error (.pointer (.malformed path) (some path))) ∧
    ((ofPath path).wellFormed = true → (ofPath path).isRoot = false →
      (∀ n, ComesToLong path doc n → (ofPath path).walk doc = .error (.longNumber n)) ∧
      ((∀ n, ¬ ComesToLong path doc n) →
        ∃ l, (ofPath path).walk doc = .ok l ∧ Walked path doc l)) := by
  refine ⟨fun hroot => ?_, fun hwell => ?_, fun hwell hroot => ?_⟩
  · obtain rfl := isRoot_iff.mp hroot
    rfl
  · simp [walk, hwell, ofPath_path]
  · have hslash : path.toList.head? = some '/' := by
      refine (wellFormed_iff.mp hwell).resolve_left fun hempty => ?_
      rw [isRoot_iff.mpr hempty] at hroot
      cases hroot
    rw [walk_eq_steps hwell]
    refine ⟨fun n hn => steps_of_meetsLong hn.2, fun hpass => ?_⟩
    have hmeets : ∀ n, ¬ MeetsLong (ofPath path).segments doc n := fun n hm => hpass n ⟨hwell, hm⟩
    obtain ⟨l, hl, htrail⟩ := trail_of_steps hmeets
    exact ⟨l, hl, walked_of_trail hslash hpass htrail⟩

/-- A walk that ends at a missing member, one segment before the end of its path. -/
theorem walk_agrees_missing :
    (∀ n, ¬ ComesToLong "/a/b/c" (.object [("a", .object [])]) n) ∧
      (ofPath "/a/b/c").walk (.object [("a", .object [])]) =
        .ok [("a", .object []), ("b", .null)] ∧
      Walked "/a/b/c" (.object [("a", .object [])]) [("a", .object []), ("b", .null)] := by
  have hpass : ∀ n, ¬ ComesToLong "/a/b/c" (.object [("a", .object [])]) n :=
    not_comesToLong ["a", "b", "c"] rfl (by decide) _
  have hagrees := (walk_agrees "/a/b/c" (.object [("a", .object [])])).2.2 rfl rfl
  obtain ⟨l, hl, hwalked⟩ := hagrees.2 hpass
  have hsteps : (ofPath "/a/b/c").walk (.object [("a", .object [])]) =
      .ok [("a", .object []), ("b", .null)] := rfl
  obtain rfl := Except.ok.inj (hl.symm.trans hsteps)
  exact ⟨hpass, hsteps, hwalked⟩

/-- The one segment has a line feed and so is no number, yet the walk takes what stands before it
for an index with too many digits. -/
theorem walk_line_feed :
    (ofPath ("/" ++ nines 4301)).wellFormed = true ∧ (ofPath ("/" ++ nines 4301)).isRoot = false ∧
      (∀ s ∈ (ofPath ("/" ++ nines 4301)).segments, s.toList.all Value.isIndexDigit = false) ∧
      (ofPath ("/" ++ nines 4301)).walk (.array []) = .error (.longNumber 4301) := by
  have hcomes : ComesToLong ("/" ++ nines 4301) (.array []) 4301 := comesToLong_nines (by decide) []
  have hwalk := (walk_eq_steps hcomes.1 (.array [])).trans (steps_of_meetsLong hcomes.2)
  exact ⟨hcomes.1, hcomes.isRoot, segments_nines_noDigits 4301, hwalk⟩

end JsonPatch.Pointer
