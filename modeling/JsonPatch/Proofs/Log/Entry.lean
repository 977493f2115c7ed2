import JsonPatch.Log.Entry
import JsonPatch.Proofs.Json.Printer
import JsonPatch.Proofs.Log.Redaction

/-! # Secrets and the log

The message of an event is the text of a JSON value, in which what comes from the objects and
arrays of the fields is without secrets (`record_withholds`).  Names are no values: they are
written as they are, also those with a secret in them (`record_nameWithAddress`). -/

namespace JsonPatch.Log

open Redaction

/-- What an event is about: its name, its fields, and the span it happened in. -/
def content (event : Value) (fields span : Members) : Value :=
  .object (("event", event) :: withDefaults fields span)

/-- There is a value at the place or above it that is no JSON value itself: a frozen array, a byte
string or an object of the host program. -/
def IsForeignAt (v : Value) (place : List Key) : Prop :=
  ∃ before u, before <+: place ∧ v.at? before = some u ∧ u.kind? = none

/-- The second value is the first one, in JSON, without the secrets in its JSON values. -/
structure Withholds (v w : Value) : Prop where
  clean : ∀ {place s}, w.at? place = some (.string s) → IsClean s ∨ IsForeignAt v place
  secret : ∀ {place name u}, w.at? (place ++ [.member name]) = some u → isSensitive name = true →
    u = .string marker ∨ IsForeignAt v place
  names : ∀ {place members}, IsOpen place → v.at? place = some (.object members) →
    ∃ members', w.at? place = some (.object members') ∧
      Members.names members' = Members.names members

theorem kind?_scrub (v : Value) : (scrub v).kind? = v.kind? := by
  cases v <;> rfl

/-- Redaction makes no value foreign. -/
theorem isForeignAt_of_scrub {v u : Value} {before place : List Key} (hbefore : before <+: place)
    (h : (scrub v).at? before = some u) (hu : u.kind? = none) : IsForeignAt v place := by
  rcases at?_scrub_cases h with rfl | ⟨x, hx, rfl⟩
  · cases hu
  · exact ⟨before, x, hbefore, hx, (kind?_scrub x).symm.trans hu⟩

theorem kind?_of_asJson_string {v : Value} {s : String} (h : .string s = Json.asJson v) :
    v = .string s ∨ v.kind? = none := by
  cases v with
  | string t =>
      cases h
      exact .inl rfl
  | bytes content => exact .inr rfl
  | foreign type => exact .inr rfl
  | _ => cases h

theorem asJson_scrub_withholds (v : Value) : Withholds v (Json.asJson (scrub v)) where
  clean {place s} hs := by
    rcases Json.at?_asJson_cases hs with ⟨u, hu, hus⟩ | ⟨k, before, after, items, rfl, hitems⟩
    · rcases kind?_of_asJson_string hus with rfl | hforeign
      · exact .inl (isClean_at?_scrub hu)
      · exact .inr (isForeignAt_of_scrub List.prefix_rfl hu hforeign)
    · exact .inr (isForeignAt_of_scrub (List.prefix_append _ _) hitems rfl)
  secret {place name u} hu hname := by
    rcases Json.at?_asJson_cases hu with ⟨x, hx, rfl⟩ | ⟨k, before, after, items, hplace, hitems⟩
    · exact .inl (congrArg Json.asJson (at?_scrub_sensitive hx hname))
    · have hbefore : before <+: place := by
        have hstrict : before <+: place ++ [.member name] := ⟨k :: after, hplace.symm⟩
        rcases List.prefix_concat_iff.mp hstrict with rfl | hbefore
        · simp at hplace
        · exact hbefore
      exact .inr (isForeignAt_of_scrub hbefore hitems rfl)
  names {place members} hopen hmembers := by
    have hscrub : (scrub v).at? place =
        some (.object (members.map fun m => (m.1, scrubUnder m.1 m.2))) := by
      rw [at?_scrub hopen, hmembers, Option.map_some, scrub_object]
    refine ⟨_, Json.at?_asJson hscrub, ?_⟩
    rw [Json.asJsonMembers_eq, Members.names_mapNamed fun _ => Json.asJson]
    exact Members.names_mapNamed scrubUnder members

theorem entryOf_eq_ok {level event : Value} {fields span : Members} {e : Entry}
    (h : entryOf span level event fields = .ok e) : ∃ n, e = line span n event fields := by
  unfold entryOf Json.text at h
  split_ifs at h
  · cases hn : levelOf level with
    | error f => rw [hn] at h; cases h
    | ok n =>
        rw [hn] at h
        cases h
        exact ⟨n, rfl⟩
  · cases h

theorem record_eq_ok {threshold : Int} {level event : Value} {fields span : Members}
    {entries : List Entry} (h : record threshold level event fields span = .ok entries) :
    ∃ n, entries = [] ∨ entries = [line span n event fields] := by
  unfold record at h
  split at h
  · cases h
  · cases he : entryOf span level event fields with
    | error f => rw [he] at h; cases h
    | ok e =>
        rw [he] at h
        obtain ⟨n, rfl⟩ := entryOf_eq_ok he
        refine ⟨n, ?_⟩
        rw [← Except.ok.inj h]
        dsimp only
        split_ifs
        · exact .inr rfl
        · exact .inl rfl

/-- An event with a level that is recorded leaves its line, if all fields can be written. -/
theorem record_of_isWritable {threshold n : Int} {event : Value} {fields span : Members}
    (hnames : List.find? (fun m => reservedFields.contains m.1) fields = none)
    (hwritable : Json.isWritable (payload event fields span) = true)
    (hrecorded : isRecorded (ownOrDefault threshold) n = true) :
    record threshold (.number (.int n)) event fields span = .ok [line span n event fields] := by
  have hentry : entryOf span (.number (.int n)) event fields = .ok (line span n event fields) := by
    unfold entryOf Json.text
    rw [if_pos hwritable]
    rfl
  unfold record
  rw [hnames, hentry]
  exact congrArg Except.ok (if_pos hrecorded)

/-- The message of an event is JSON, and what comes from the objects and arrays of the fields is in
it without secrets.  The names of members are written as they are. -/
theorem record_withholds {threshold : Int} {level event : Value} {fields span : Members}
    {entries : List Entry} (h : record threshold level event fields span = .ok entries) {e : Entry}
    (he : e ∈ entries) :
    ∃ w : Value, w.IsJson ∧ e.message = Json.renderAscii w ∧
      Withholds (content event fields span) w := by
  obtain ⟨n, rfl | rfl⟩ := record_eq_ok h
  · cases he
  · obtain rfl := List.mem_singleton.mp he
    exact ⟨_, Json.asJson_isJson _, (Json.renderAscii_asJson _).symm, asJson_scrub_withholds _⟩

/-- Fields with secrets in an array, under a sensitive name, and in a byte string. -/
def loginFields : Members := [
  ("seen", .array [.string "from a@b.org"]),
  ("request", .object [("Authorization", .tuple [.string "Bearer abc"]), ("body", .bytes [0x31])])]

theorem record_loginFields :
    ∃ e, record 10 (.number (.int 20)) (.string "login") loginFields [] = .ok [e] ∧
      e.message = "\x7b\"event\": \"login\", \"seen\": [\"[REDACTED_EMAIL]\"], \"request\": \x7b" ++
        "\"Authorization\": \"[REDACTED]\", \"body\": \"b'1'\"\x7d\x7d" ∧
      ∃ w : Value, w.IsJson ∧ e.message = Json.renderAscii w ∧
        Withholds (content (.string "login") loginFields []) w := by
  have h : record 10 (.number (.int 20)) (.string "login") loginFields [] = .ok [_] := rfl
  exact ⟨_, h, rfl, record_withholds h List.mem_cons_self⟩

/-- A name with an address in it is written as it is. -/
theorem record_nameWithAddress :
    ∃ e, record 10 (.number (.int 20)) (.string "login") [("a@b.org", .number (.int 1))] [] =
        .ok [e] ∧
      e.message = "\x7b\"event\": \"login\", \"a@b.org\": 1\x7d" ∧ HasAddress "a@b.org" :=
  ⟨_, record_of_isWritable rfl (by decide +kernel) (by decide), rfl, hasAddress_iff.mp (by decide)⟩

end JsonPatch.Log
