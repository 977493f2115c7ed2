import JsonPatch.Pattern.Fault

/-! # Patterns

The tree of a pattern: literals, sets, anchors, alternatives, groups, repetitions, look-around,
references to groups and conditionals.  A code point of a pattern is a number, because an escape
can name one that is no character.  `Node.width` bounds the length of the texts that a node can
match. -/

namespace JsonPatch.Pattern

/-- The flags that change how a pattern is read or matched. -/
structure Flags where
  ignoreCase : Bool := false
  multiline : Bool := false
  dotAll : Bool := false
  verbose : Bool := false
  template : Bool := false
  /-- Classes and case are those of ASCII. -/
  ascii : Bool := false
  /-- Classes and case are those of Unicode. -/
  unicode : Bool := false
deriving DecidableEq, Repr, Inhabited

namespace Flags

/-- The flags of either set. -/
def union (f g : Flags) : Flags where
  ignoreCase := f.ignoreCase || g.ignoreCase
  multiline := f.multiline || g.multiline
  dotAll := f.dotAll || g.dotAll
  verbose := f.verbose || g.verbose
  template := f.template || g.template
  ascii := f.ascii || g.ascii
  unicode := f.unicode || g.unicode

/-- The flags of the first set that are not in the second. -/
def without (f g : Flags) : Flags where
  ignoreCase := f.ignoreCase && !g.ignoreCase
  multiline := f.multiline && !g.multiline
  dotAll := f.dotAll && !g.dotAll
  verbose := f.verbose && !g.verbose
  template := f.template && !g.template
  ascii := f.ascii && !g.ascii
  unicode := f.unicode && !g.unicode

/-- The flags inside a group that turns some on and some off. A choice of character set replaces
the one made outside. -/
def within (f on off : Flags) : Flags :=
  let outer := if on.ascii || on.unicode then { f with ascii := false, unicode := false } else f
  (outer.union on).without off

end Flags

/-- A class of characters. -/
inductive Category where
  | digit
  | blank
  | word
deriving DecidableEq, Repr

/-- One item of a set. -/
inductive SetItem where
  | code (c : Nat)
  | range (first last : Nat)
  | category (kind : Category) (negated : Bool)
deriving DecidableEq, Repr

/-- A condition on a place in the text. -/
inductive Anchor where
  /-- The start of the text or, over several lines, of a line. -/
  | lineStart
  /-- The end of the text, also before a final line feed or, over several lines, of a line. -/
  | lineEnd
  | textStart
  | textEnd
  | boundary
  | noBoundary
deriving DecidableEq, Repr

/-- How a repetition chooses the number of its rounds. -/
inductive Mode where
  /-- As many as possible, fewer if the rest requires it. -/
  | greedy
  /-- As few as possible, more if the rest requires it. -/
  | lazy
  /-- As many as possible, never reconsidered. -/
  | possessive
deriving DecidableEq, Repr

/-- The least and the greatest length of the texts that a node can match. -/
structure Width where
  least : Nat
  greatest : Nat
deriving DecidableEq, Repr, Inhabited

namespace Width

/-- The length that stands for itself and for all greater ones. -/
def unlimited : Nat := 0xffffffff

/-- One after the other. -/
def append (v w : Width) : Width :=
  ⟨v.least + w.least, v.greatest + w.greatest⟩

/-- Either of the two. -/
def either (v w : Width) : Width :=
  ⟨min v.least w.least, max v.greatest w.greatest⟩

/-- The bounds as they are kept: the least length is never unlimited. -/
def capped (w : Width) : Width :=
  ⟨min w.least (unlimited - 1), min w.greatest unlimited⟩

end Width

/-- A node of a pattern. -/
inductive Node where
  | code (c : Nat)
  | notCode (c : Nat)
  | any
  /-- What no text matches. -/
  | never
  | set (negated : Bool) (items : List SetItem)
  | anchor (a : Anchor)
  | alternatives (branches : List (List Node))
  | group (index : Option Nat) (on off : Flags) (body : List Node)
  | repetition (mode : Mode) (least : Nat) (greatest : Option Nat) (body : List Node)
  | atomic (body : List Node)
  | look (ahead negated : Bool) (body : List Node)
  /-- The text of a group again; the width is that of the group. -/
  | reference (index : Nat) (width : Width)
  /-- One of two sequences, by whether a group has matched. -/
  | conditional (index : Nat) (yes no : List Node)
deriving Inhabited

namespace Node

mutual

/-- Bounds on the length of the texts that a node can match. -/
def width : Node → Width
  | code _ | notCode _ | any | set .. => ⟨1, 1⟩
  | anchor _ | look .. | never => ⟨0, 0⟩
  | alternatives branches => widthEither branches
  | group _ _ _ body | atomic body => widthAll body
  | repetition _ least greatest body =>
    let w := widthAll body
    ⟨w.least * least, w.greatest * greatest.getD Width.unlimited⟩
  | reference _ w => w
  | conditional _ yes no => (widthAll yes).either (widthAll no)

/-- Bounds for a sequence of nodes. -/
def widthAll : List Node → Width
  | [] => ⟨0, 0⟩
  | n :: rest => ((width n).append (widthAll rest)).capped

/-- Bounds for a choice of sequences. -/
def widthEither : List (List Node) → Width
  | [] => ⟨Width.unlimited - 1, 0⟩
  | branch :: rest => (widthAll branch).either (widthEither rest)

end

/-- Whether two nodes without inner patterns are the same. -/
def same : Node → Node → Bool
  | code c, code d => c == d
  | notCode c, notCode d => c == d
  | any, any => true
  | never, never => true
  | set n s, set m t => n == m && s == t
  | anchor a, anchor b => a == b
  | reference i _, reference j _ => i == j
  | _, _ => false

end Node
end JsonPatch.Pattern
