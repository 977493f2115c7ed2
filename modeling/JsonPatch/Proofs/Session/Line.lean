import JsonPatch.Proofs.Log.Event
import JsonPatch.Proofs.Patch.Turn
import JsonPatch.Proofs.Session

/-! # Lines of the log

What a run logs are events and lines of predicates (`Patch.isTold_run`), in a session, too
(`Session.isTold_run`).  An event is a JSON object and starts with a brace; the line of a predicate
starts with a word of its own (`Log.Entry.IsTold.head?`). -/

namespace JsonPatch

/-- The line is that of an event or that of a predicate. -/
inductive Log.Entry.IsTold : Log.Entry → Prop where
  | event (level : Int) (name : String) (fields : Members) :
    IsTold (Log.line [] level (.string name) fields)
  | note (n : Note) : IsTold (Log.ofNote n)

theorem Json.head?_renderAscii_object (members : Members) :
    (renderAscii (.object members)).toList.head? = some '\x7b' := by
  change (asciiLine.enclose 0 "\x7b" "\x7d" _).toList.head? = _
  unfold Layout.enclose
  split_ifs
  · rfl
  · simp only [String.toList_append]
    rfl

/-- A line starts with a brace or with a word about predicates. -/
theorem Log.Entry.IsTold.head? {e : Log.Entry} (h : e.IsTold) :
    e.message.toList.head? = some '\x7b' ∨ e.message.toList.head? = some 'p' := by
  cases h with
  | event level name fields =>
      exact .inl (Json.head?_renderAscii_object
        (Redaction.scrubMembers (("event", .string name) :: Log.withDefaults fields [])))
  | note n =>
      right
      change ("predicate " ++ _ ++ _ ++ _ : String).toList.head? = _
      simp only [String.toList_append]
      rfl

theorem Log.isTold_event {level : Int} {name : String} {given own : Members} {e : Log.Entry}
    (h : event level name given own = .ok e) : e.IsTold := by
  obtain ⟨-, rfl⟩ := event_eq_ok h
  exact .event _ _ _

namespace Patch

variable {p : Patch} {e : Log.Entry}

theorem isTold_notes {notes : List Note} (h : e ∈ notes.map Log.ofNote) : e.IsTold := by
  obtain ⟨n, -, rfl⟩ := List.mem_map.mp h
  exact .note n

theorem isTold_troubled {i : Nat} {d : Descriptor} {t : Trouble} (h : e ∈ (troubled i d t).2) :
    e.IsTold := by
  cases t with
  | failure cause index => exact Log.isTold_event (mem_reported.mp h)
  | fault f =>
      rw [troubled] at h
      split_ifs at h
      · exact Log.isTold_event (mem_reported.mp h)
      · cases h

theorem isTold_turnOn {i : Nat} {d : Descriptor} {doc : Value}
    (h : e ∈ (p.turnOn i d doc).entries) : e.IsTold := by
  unfold turnOn turn at h
  split at h
  · exact Log.isTold_event (mem_reported.mp h)
  · dsimp only at h
    split at h
    · rcases List.mem_append.mp h with h | h
      · exact isTold_notes h
      · exact isTold_troubled h
    · rcases List.mem_append.mp h with h | h
      · exact isTold_notes h
      · exact Log.isTold_event (mem_applied.mp h).2

theorem isTold_runFrom {ops : List Descriptor} {i : Nat} {doc : Value}
    (h : e ∈ (p.runFrom i ops doc).entries) : e.IsTold := by
  induction ops generalizing i doc with
  | nil => cases h
  | cons d rest ih =>
      cases hd : (p.turnOn i d doc).error with
      | some error =>
          rw [runFrom_cons_error hd] at h
          exact isTold_turnOn h
      | none =>
          rw [runFrom_cons_ok hd] at h
          rcases List.mem_append.mp h with h | h
          · exact isTold_turnOn h
          · exact ih h

theorem isTold_run {doc : Value} (h : e ∈ (p.run doc).entries) : e.IsTold := by
  rw [run, framed] at h
  rcases List.mem_cons.mp h with rfl | h
  · exact .event _ _ _
  rcases List.mem_append.mp h with h | h
  · exact isTold_runFrom h
  · split at h
    · obtain rfl := List.mem_singleton.mp h
      exact .event _ _ _
    · cases h

end Patch

theorem Session.isTold_run {s : Session} {p : Patch} {doc : Value} {e : Log.Entry}
    (h : e ∈ (s.run p doc).run.entries) : e.IsTold := by
  cases ht : s.currentTracing with
  | error f =>
      rw [run_of_no_tracing ht] at h
      cases h
  | ok t =>
      rw [run_of_tracing ht] at h
      exact Patch.isTold_run h

end JsonPatch
