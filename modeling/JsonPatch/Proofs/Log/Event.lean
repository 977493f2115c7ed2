import JsonPatch.Log.Entry
import JsonPatch.Proofs.Json.Writable
import JsonPatch.Proofs.Log.Redaction

/-! # Events in the log

An event is logged as a JSON object of which the first member is the name of the event, so the name
can be read off the line (`Entry.eventName`).  A name without secrets or characters to be escaped is
written as it is, and so are fields that redaction leaves alone (`line_reports`).  An event has no
line if a field that was given cannot be written (`event_eq_entryOf`). -/

namespace JsonPatch.Log

open Redaction

/-- The name of an event and some of its fields. -/
structure Event where
  name : String
  fields : Members

/-- What stands before the name of the event in a line. -/
def nameOpening : List Char :=
  '\x7b' :: '"' :: "event".toList ++ ['"', ':', ' ', '"']

namespace Entry

/-- The name of the event that a line is about: the text up to the next quote. -/
def eventName (e : Entry) : String :=
  String.ofList ((e.message.toList.drop nameOpening.length).takeWhile (· != '"'))

/-- A line is a JSON object that starts with the name of an event and has the event's fields. -/
structure Reports (e : Entry) (event : Event) : Prop where
  logger : e.logger = eventLogger
  name : e.eventName = event.name
  content : ∃ rest : Members,
    e.message = Json.renderAscii (.object (("event", .string event.name) :: rest)) ∧
      ∀ m ∈ event.fields, Members.find? m.1 rest = some m.2

end Entry

/-- Whether a name is written as it is: nothing in it is escaped or redacted. -/
def isPlainName (name : String) : Bool :=
  name.toList.all (fun c => Json.escapeAscii c == [c]) && scrubText name == name

theorem toList_intercalate_cons (separator first : String) (rest : List String) :
    ∃ more, (String.intercalate separator (first :: rest)).toList = first.toList ++ more := by
  cases rest with
  | nil => exact ⟨[], by simp⟩
  | cons second rest =>
      rw [String.intercalate_cons_cons]
      simp only [String.toList_append, List.append_assoc]
      exact ⟨_, rfl⟩

section PlainName

variable {name : String} (h : isPlainName name = true)
include h

theorem escapeAscii_of_isPlainName {c : Char} (hc : c ∈ name.toList) :
    Json.escapeAscii c = [c] := by
  rw [isPlainName, Bool.and_eq_true, List.all_eq_true] at h
  simpa using h.1 c hc

theorem scrubText_of_isPlainName : scrubText name = name := by
  rw [isPlainName, Bool.and_eq_true] at h
  simpa using h.2

theorem ne_quote_of_isPlainName {c : Char} (hc : c ∈ name.toList) : c ≠ '"' := by
  rintro rfl
  exact absurd (escapeAscii_of_isPlainName h hc) (by decide)

theorem toList_quote :
    (Json.quote Json.escapeAscii name).toList = '"' :: name.toList ++ ['"'] := by
  have hescape : name.toList.flatMap Json.escapeAscii = name.toList := by
    rw [List.flatMap_congr fun _ hc => escapeAscii_of_isPlainName h hc, List.flatMap_singleton']
  rw [Json.quote, String.toList_ofList, hescape]

/-- The name is what a line starts with. -/
theorem toList_renderAscii_object (rest : Members) :
    ∃ more, (Json.renderAscii (.object (("event", .string name) :: rest))).toList =
      nameOpening ++ (name.toList ++ '"' :: more) := by
  have hevent : isPlainName "event" = true := by decide
  unfold Json.renderAscii
  rw [Json.write, Json.writeMembers, Json.Layout.enclose, List.isEmpty_cons]
  obtain ⟨more, hmore⟩ := toList_intercalate_cons (Json.asciiLine.separator 0)
    (Json.quote Json.asciiLine.escape "event" ++ ": " ++
      Json.write Json.asciiLine 1 (.string name)) (Json.writeMembers Json.asciiLine 1 rest)
  rw [Json.write] at hmore ⊢
  simp only [Bool.false_eq_true, if_false, String.toList_append, hmore]
  change ∃ more', ['\x7b'] ++ [] ++ ((Json.quote Json.escapeAscii "event").toList ++ [':', ' '] ++
    (Json.quote Json.escapeAscii name).toList ++ more) ++ [] ++ ['\x7d'] = _
  rw [toList_quote hevent, toList_quote h]
  refine ⟨more ++ ['\x7d'], ?_⟩
  simp [nameOpening]

theorem eventName_of_message {e : Entry} {rest : Members}
    (he : e.message = Json.renderAscii (.object (("event", .string name) :: rest))) :
    e.eventName = name := by
  obtain ⟨more, hmore⟩ := toList_renderAscii_object h rest
  have hname : ∀ c ∈ name.toList, (c != '"') = true := by
    intro c hc
    simpa using ne_quote_of_isPlainName h hc
  rw [Entry.eventName, he, hmore, List.drop_left, List.takeWhile_append_of_pos hname,
    List.takeWhile_cons_of_neg (by decide), List.append_nil, String.ofList_toList]

/-- The line of an event with a plain name reports this name and those of its fields that are not
secret. -/
theorem line_reports (level : Int) {fields told : Members}
    (htold : ∀ m ∈ told, Members.find? m.1 fields = some m.2 ∧ scrubUnder m.1 m.2 = m.2) :
    (line [] level (.string name) fields).Reports ⟨name, told⟩ := by
  have hmessage : (line [] level (.string name) fields).message = Json.renderAscii
      (.object (("event", .string name) :: fields.map fun m => (m.1, scrubUnder m.1 m.2))) := by
    change Json.renderAscii (scrub (.object (("event", .string name) :: fields))) = _
    have hname : scrubUnder "event" (.string name) = .string name := by
      change Value.string (scrubText name) = _
      rw [scrubText_of_isPlainName h]
    rw [scrub_object, List.map_cons, hname]
  refine ⟨rfl, eventName_of_message h hmessage, _, hmessage, fun m hm => ?_⟩
  obtain ⟨hfind, hscrub⟩ := htold m hm
  rw [Members.find?_mapNamed scrubUnder, hfind, Option.map_some, hscrub]

end PlainName

/-! ### Events that can be written -/

theorem event_eq_ok {level : Int} {name : String} {given own : Members} {e : Entry}
    (h : event level name given own = .ok e) :
    Json.isWritableMembers (scrubMembers given) = true ∧
      e = line [] level (.string name) (given ++ own) := by
  unfold event at h
  split_ifs at h with hgiven
  exact ⟨hgiven, (Except.ok.inj h).symm⟩

theorem scrubMembers_append (fields more : Members) :
    scrubMembers (fields ++ more) = scrubMembers fields ++ scrubMembers more := by
  induction fields with
  | nil => rfl
  | cons m rest ih =>
      rw [List.cons_append, scrubMembers, ih, scrubMembers, List.cons_append]

/-- An event is logged like any other if the program's own fields can be written. -/
theorem event_eq_entryOf (level : Int) (name : String) {given own : Members}
    (hown : Json.isWritableMembers (scrubMembers own) = true) :
    event level name given own =
      entryOf [] (.number (.int level)) (.string name) (given ++ own) := by
  have hpayload : Json.isWritable (payload (.string name) (given ++ own) []) =
      Json.isWritableMembers (scrubMembers given) := by
    change Json.isWritableMembers (scrubMembers (("event", .string name) :: (given ++ own))) = _
    rw [scrubMembers, Json.isWritableMembers, scrubMembers_append,
      Json.isWritableMembers_append, hown, Bool.and_true]
    exact Bool.true_and _
  unfold event entryOf Json.text
  rw [hpayload]
  split_ifs <;> rfl

end JsonPatch.Log
