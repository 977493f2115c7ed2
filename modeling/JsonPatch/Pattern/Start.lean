import JsonPatch.Pattern.Case

/-! # How a pattern starts

What a sequence of nodes asks of the next character before anything else.  A search skips the
places where a pattern cannot start: where a set stands first, its classes are there those of the
whole pattern, whatever the group around it says. -/

namespace JsonPatch.Pattern

/-- What a node asks of the next character first. -/
inductive Opening where
  /-- The node asks for nothing and takes nothing. -/
  | nothing
  /-- One code point, in that case. -/
  | code (c : Nat)
  /-- A member of a set, in that case. -/
  | set (negated : Bool) (items : List SetItem)
  /-- Anything else. -/
  | other

/-- Whether case makes a difference to an item of a set; beyond the basic plane it always may. -/
def SetItem.hasCase (flags : Flags) : SetItem → Bool
  | .code c => basicPlane < c || isCased flags c
  | .range first last => basicPlane < last || hasCasedIn flags first last
  | .category .. => false

/-- Whether case is ignored where a set is looked up. -/
def foldsSet (flags : Flags) (items : List SetItem) : Bool :=
  flags.ignoreCase && items.any (SetItem.hasCase flags)

/-- Whether case is ignored where a code point is looked up. -/
def foldsCode (flags : Flags) (c : Nat) : Bool :=
  flags.ignoreCase && isCased flags c

mutual

/-- What a node asks for first. -/
def opening (flags : Flags) : Node → Opening
  | .code c => if foldsCode flags c then .other else .code c
  | .set negated items => if foldsSet flags items then .other else .set negated items
  | .group none on off body => openingAll (flags.within on off) body
  | _ => .other

/-- What a sequence asks for first. -/
def openingAll (flags : Flags) : List Node → Opening
  | [] => .nothing
  | n :: rest =>
    match opening flags n with
    | .nothing => openingAll flags rest
    | o => o

end

mutual

/-- Whether the first character of what a node matches is one code point, in that case; `none` if
the node matches nothing but the empty text. -/
def startsFixed? (flags : Flags) : Node → Option Bool
  | .code c => some !(foldsCode flags c)
  | .group _ on off body => startsFixedAll? (flags.within on off) body
  | _ => some false

/-- The same for a sequence. -/
def startsFixedAll? (flags : Flags) : List Node → Option Bool
  | [] => none
  | n :: rest =>
    match startsFixed? flags n with
    | none => startsFixedAll? flags rest
    | some b => some b

end

mutual

/-- The set of characters with which the text of a node starts, if it is a simple one. -/
def startSet? (flags : Flags) : Node → Option (Bool × List SetItem)
  | .group _ on off body => startSetAll? (flags.within on off) body
  | .alternatives branches =>
    (branches.mapM fun branch : List Node =>
      match branch with
      | .code c :: _ => if foldsCode flags c then none else some (SetItem.code c)
      | _ => none).map fun items => (false, items)
  | .set negated items =>
    let isCasedItem : SetItem → Bool
      | .code c => isCased flags c
      | .range first last => basicPlane < last || hasCasedIn flags first last
      | .category .. => false
    if flags.ignoreCase && items.any isCasedItem then none else some (negated, items)
  | _ => none

/-- The same for a sequence. -/
def startSetAll? (flags : Flags) : List Node → Option (Bool × List SetItem)
  | [] => none
  | n :: _ => startSet? flags n

end

/-- The places of a text at which a search tries a pattern. -/
def startPlaces (flags : Flags) (nodes : List Node) (text : Array Char) : List Nat :=
  let least := (Node.widthAll nodes).least
  if text.size < least then []
  else if least = 0 then List.range (text.size + 1)
  else if startsFixedAll? flags nodes = some true then List.range text.size
  else
    match startSetAll? flags nodes with
    | some (negated, items) =>
      (List.range text.size).filter fun i =>
        (text[i]?).any (inSet { flags with ignoreCase := false } negated items)
    | none => List.range (text.size + 2 - least)

end JsonPatch.Pattern
