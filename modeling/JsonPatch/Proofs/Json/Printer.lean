import JsonPatch.Json.Printer
import JsonPatch.Proofs.Value.Parts
import JsonPatch.Proofs.Value.Place

/-! # What is written is JSON

A value is written as a JSON value is (`write_asJson`): a frozen array as an array, and what else
is no JSON value as the text that displays it.  Each part of the value that is written stands at
the place of the part it comes from; inside a frozen array there are new places
(`at?_asJson_cases`). -/

namespace JsonPatch.Json

mutual

/-- The JSON value in whose form a value is written. -/
def asJson : Value → Value
  | .array items => .array (asJsonItems items)
  | .tuple items => .array (asJsonItems items)
  | .object members => .object (asJsonMembers members)
  | v@(.bytes _) => .string v.display
  | v@(.foreign _) => .string v.display
  | v => v

/-- The JSON values in whose form the values of a list are written. -/
def asJsonItems : List Value → List Value
  | [] => []
  | v :: rest => asJson v :: asJsonItems rest

/-- The members in whose form members are written. -/
def asJsonMembers : Members → Members
  | [] => []
  | (name, v) :: rest => (name, asJson v) :: asJsonMembers rest

end

theorem asJsonItems_eq (items : List Value) : asJsonItems items = items.map asJson := by
  induction items with
  | nil => rfl
  | cons v rest ih => rw [asJsonItems, ih, List.map_cons]

theorem asJsonMembers_eq (members : Members) :
    asJsonMembers members = members.map fun m => (m.1, asJson m.2) := by
  induction members with
  | nil => rfl
  | cons m rest ih => rw [asJsonMembers, ih, List.map_cons]

theorem asJson_isJson (v : Value) : (asJson v).IsJson := by
  have hitems : ∀ items : List Value, (∀ v ∈ items, (asJson v).IsJson) →
      (Value.array (asJsonItems items)).IsJson := by
    intro items ih
    rw [Value.isJson_array, asJsonItems_eq]
    exact List.forall_mem_map.mpr ih
  induction v using Value.partsInduction with
  | array items ih => exact hitems items ih
  | tuple items ih => exact hitems items ih
  | object members ih =>
      rw [asJson, Value.isJson_object, asJsonMembers_eq]
      exact List.forall_mem_map.mpr ih
  | _ => rfl

/-! ### The text -/

theorem writeItems_eq (l : Layout) (depth : Nat) (items : List Value) :
    writeItems l depth items = items.map (write l depth) := by
  induction items with
  | nil => rfl
  | cons v rest ih => rw [writeItems, ih, List.map_cons]

theorem writeMembers_eq (l : Layout) (depth : Nat) (members : Members) :
    writeMembers l depth members =
      members.map fun m => quote l.escape m.1 ++ ": " ++ write l depth m.2 := by
  induction members with
  | nil => rfl
  | cons m rest ih => rw [writeMembers, ih, List.map_cons]

/-- The text of a value is that of the JSON value, in a layout that displays what is no JSON. -/
theorem write_asJson {l : Layout} (hl : ∀ v, l.other v = quote l.escape v.display) (v : Value)
    (depth : Nat) : write l depth (asJson v) = write l depth v := by
  have hitems : ∀ items : List Value,
      (∀ v ∈ items, ∀ depth, write l depth (asJson v) = write l depth v) →
        ∀ depth, writeItems l depth (asJsonItems items) = writeItems l depth items := by
    intro items ih depth
    rw [writeItems_eq, writeItems_eq, asJsonItems_eq, List.map_map]
    exact List.map_congr_left fun v hv => ih v hv depth
  induction v using Value.partsInduction generalizing depth with
  | array items ih => rw [asJson, write, write, hitems items ih]
  | tuple items ih => rw [asJson, write, write, hitems items ih]
  | object members ih =>
      rw [asJson, write, write, writeMembers_eq, writeMembers_eq, asJsonMembers_eq, List.map_map]
      congr 1
      exact List.map_congr_left fun m hm =>
        congrArg (quote l.escape m.1 ++ ": " ++ ·) (ih m hm (depth + 1))
  | bytes content => rw [asJson, write, write, hl]
  | foreign type => rw [asJson, write, write, hl]
  | _ => rfl

theorem renderAscii_asJson (v : Value) : renderAscii (asJson v) = renderAscii v :=
  write_asJson (fun _ => rfl) v 0

/-! ### Places -/

theorem child?_asJson {v : Value} (h : ∀ items, v ≠ .tuple items) (k : Key) :
    (asJson v).child? k = (v.child? k).map asJson := by
  cases v with
  | array items =>
      rw [asJson, asJsonItems_eq]
      cases k with
      | index i => exact List.getElem?_map
      | member name => rfl
  | object members =>
      rw [asJson, asJsonMembers_eq]
      cases k with
      | index i => rfl
      | member name => exact Members.find?_map asJson name members
  | tuple items => exact absurd rfl (h items)
  | _ => rfl

theorem at?_asJson {place : List Key} {v u : Value} (h : v.at? place = some u) :
    (asJson v).at? place = some (asJson u) := by
  induction place generalizing v with
  | nil => exact congrArg (some ∘ asJson) (Option.some.inj h)
  | cons k place ih =>
      rw [Value.at?_cons] at h
      obtain ⟨w, hw, hu⟩ := Option.bind_eq_some_iff.mp h
      have hv : ∀ items, v ≠ .tuple items := by
        rintro items rfl
        cases hw
      rw [Value.at?_cons, child?_asJson hv, hw]
      exact ih hu

/-- What is written at a place comes from that place or from inside a frozen array. -/
theorem at?_asJson_cases {place : List Key} {v w : Value} (h : (asJson v).at? place = some w) :
    (∃ u, v.at? place = some u ∧ w = asJson u) ∨
      ∃ k before after items, place = before ++ k :: after ∧ v.at? before = some (.tuple items) := by
  induction place generalizing v with
  | nil => exact .inl ⟨v, rfl, (Option.some.inj h).symm⟩
  | cons k place ih =>
      by_cases hv : ∃ items, v = .tuple items
      · obtain ⟨items, rfl⟩ := hv
        exact .inr ⟨k, [], place, items, rfl, rfl⟩
      · rw [Value.at?_cons, child?_asJson (not_exists.mp hv)] at h
        rw [Value.at?_cons]
        cases hu : v.child? k with
        | none => rw [hu] at h; cases h
        | some u =>
            rw [hu] at h
            refine (ih h).imp_right ?_
            rintro ⟨k', before, after, items, rfl, hbefore⟩
            refine ⟨k', k :: before, after, items, rfl, ?_⟩
            rw [Value.at?_cons, hu]
            exact hbefore

end JsonPatch.Json
