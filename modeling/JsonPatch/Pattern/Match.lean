import JsonPatch.Pattern.Reader
import JsonPatch.Pattern.Start

/-! # Matching

A pattern is matched by trying its choices in order and going back to the last choice when the
rest fails.  Each node is given what to do after it; the answer says whether there is a way
through, and comes with the memory at its end.

The memory outlives a way that fails.  It holds the marks of the groups, which a choice inside a
repetition sets back and another choice only cuts off, and the cursor, the place where the matcher
last stopped to look further.  A possessive repetition goes on from the cursor, also when its
last round has failed on the way.

`Pattern.search` asks whether there is a match at any place of a text. -/

namespace JsonPatch.Pattern

/-- What matching keeps beside the place in the text. -/
structure Memory where
  /-- Where the matcher last stopped to look further. -/
  cursor : Nat
  /-- The starts and ends of the groups, in turn, each if it has been passed. -/
  marks : Array (Option Nat)
  /-- The number of marks that count. -/
  valid : Nat

namespace Memory

/-- No group has been passed. -/
def start (groups place : Nat) : Memory :=
  ⟨place, Array.replicate (2 * groups) none, 0⟩

/-- The same memory with the cursor at a place. -/
def pointing (m : Memory) (place : Nat) : Memory :=
  { m with cursor := place }

/-- The marks without some of them, from one place on. -/
def clear (marks : Array (Option Nat)) (start : Nat) : Nat → Array (Option Nat)
  | 0 => marks
  | n + 1 => clear (marks.setIfInBounds start none) (start + 1) n

/-- Set a mark. Marks between it and those that count are cleared. -/
def mark (m : Memory) (index place : Nat) : Memory where
  cursor := m.cursor
  marks := (clear m.marks m.valid (index - m.valid)).setIfInBounds index (some place)
  valid := max m.valid (index + 1)

/-- Go back to the marks that counted before, and inside a repetition also to their places. -/
def undo (m before : Memory) (inLoop : Bool) : Memory :=
  { m with valid := before.valid, marks := if inLoop then before.marks else m.marks }

/-- The bounds of a group as they are marked, its end perhaps before its start. -/
def bounds? (m : Memory) (group : Nat) : Option (Nat × Nat) :=
  if 2 * group ≤ m.valid then
    match m.marks[2 * group - 2]?, m.marks[2 * group - 1]? with
    | some (some start), some (some stop) => some (start, stop)
    | _, _ => none
  else none

/-- The bounds of a group that has matched. -/
def span? (m : Memory) (group : Nat) : Option (Nat × Nat) :=
  (m.bounds? group).filter fun (start, stop) => start ≤ stop

/-- Whether no group ends before it starts. -/
def isSound (m : Memory) (groups : Nat) : Bool :=
  (List.range groups).all fun g => (m.bounds? (g + 1)).all fun (start, stop) => start ≤ stop

end Memory

/-- Whether there was a way through, and the memory at its end. -/
inductive Outcome where
  | found (m : Memory)
  | failed (m : Memory)

/-- What follows a node. -/
abbrev Rest := Nat → Memory → Outcome

/-- One way through a node and what follows it. -/
abbrev Step := Nat → Memory → Rest → Outcome

/-- What stands around a node. -/
structure Scope where
  flags : Flags
  /-- The node is part of a repetition of more than single characters. -/
  inLoop : Bool := false
  /-- The code point with which the pattern goes on after the node. -/
  next : Option Nat := none

namespace Scope

/-- The scope of the first part of a sequence, given the rest of the sequence. -/
def before (s : Scope) (rest : List Node) : Scope :=
  match openingAll s.flags rest with
  | .nothing => s
  | .code c => { s with next := some c }
  | _ => { s with next := none }

/-- The scope of a part after which something other than a character comes. -/
def closed (s : Scope) : Scope := { s with next := none }

/-- The scope of the body of a repetition. -/
def looped (s : Scope) : Scope := { s with inLoop := true, next := none }

end Scope

/-- The end of a match. -/
def finish : Rest := fun place m => .found (m.pointing place)

/-- Whether there is a word character before the place, and after it. -/
def wordsAround (text : Array Char) (flags : Flags) (place : Nat) : Bool × Bool :=
  let isWordAt (i : Nat) := (text[i]?).any (inCategory flags .word)
  (place != 0 && isWordAt (place - 1), isWordAt place)

/-- Whether an anchor holds at a place. No place of an empty text is a boundary or none. -/
def holds (text : Array Char) (flags : Flags) (a : Anchor) (place : Nat) : Bool :=
  match a with
  | .textStart => place == 0
  | .textEnd => place == text.size
  | .lineStart =>
    place == 0 || (flags.multiline && text[place - 1]? == some '\n')
  | .lineEnd =>
    place == text.size || (text[place]? == some '\n' &&
      (flags.multiline || place + 1 == text.size))
  | .boundary =>
    text.size != 0 && (let (before, after) := wordsAround text flags place; before != after)
  | .noBoundary =>
    text.size != 0 && (let (before, after) := wordsAround text flags place; before == after)

/-- Whether there is a character of a class at a place. -/
def isAt (text : Array Char) (isMember : Char → Bool) (place : Nat) : Bool :=
  if h : place < text.size then isMember text[place] else false

/-- Take one character of a class. -/
def takeOne (text : Array Char) (isMember : Char → Bool) : Step := fun place m k =>
  if isAt text isMember place then k (place + 1) m else .failed m

/-- Take the text of a group again. -/
def takeAgain (text : Array Char) (flags : Flags) (group : Nat) : Step := fun place m k =>
  match m.span? group with
  | none => .failed m
  | some (start, stop) =>
    let isSame (i : Nat) : Bool :=
      match text[start + i]?, text[place + i]? with
      | some c, some d => if flags.ignoreCase then fold flags c == fold flags d else c == d
      | _, _ => false
    if (List.range (stop - start)).all isSame then k (place + (stop - start)) m else .failed m

/-! ### Repetitions of single characters -/

/-- A node that takes one character. -/
structure Single where
  isMember : Char → Bool
  /-- The cursor moves with each character that is counted. -/
  moves : Bool

/-- The single character that a sequence takes, if that is all it does. -/
def single? (flags : Flags) : List Node → Option Single
  | [n] => singleNode? flags n
  | _ => none
where
  /-- The single character that a node takes. -/
  singleNode? (flags : Flags) : Node → Option Single
    | .code c => some ⟨isCode flags c, hasTwins flags c⟩
    | .notCode c => some ⟨(!isCode flags c ·), hasTwins flags c⟩
    | .any => some ⟨fun c => flags.dotAll || c != '\n', false⟩
    | .set negated items => some ⟨inSet flags negated items, foldsSet flags items⟩
    | .group none on off [n] => singleNode? (flags.within on off) n
    | _ => none
  /-- Whether a code point is looked up among several characters when case is ignored. -/
  hasTwins (flags : Flags) (c : Nat) : Bool :=
    foldsCode flags c && (charOf? c).any fun k => 1 < (alike flags (fold flags k)).length

/-- The number of characters of a class at a place, up to a limit. -/
def runLength (text : Array Char) (isMember : Char → Bool) : Nat → Nat → Nat
  | 0, _ => 0
  | limit + 1, place =>
    if isAt text isMember place then runLength text isMember limit (place + 1) + 1 else 0

/-- Count single characters: their number, and the memory after it. -/
def Single.count (c : Single) (text : Array Char) (greatest : Option Nat) (place : Nat)
    (m : Memory) : Nat × Memory :=
  let room := text.size - place
  let n := runLength text c.isMember (min room (greatest.getD room)) place
  (n, m.pointing (if c.moves then place + n else place))

/-- Whether the pattern can go on at a place, by the code point it asks for there. -/
def goesOn (text : Array Char) (next : Option Nat) (place : Nat) : Bool :=
  match next with
  | none => true
  | some c => if h : place < text.size then text[place].toNat == c else false

/-- Go on after as many characters as were taken, then after fewer. -/
def giveBack (text : Array Char) (scope : Scope) (before : Memory) (least : Nat) (k : Rest) :
    Nat → Memory → Outcome
  | 0, m =>
    if goesOn text scope.next least then
      match k least (m.pointing least) with
      | .found m => .found m
      | .failed m => .failed (m.undo before scope.inLoop)
    else .failed m
  | extra + 1, m =>
    let place := least + (extra + 1)
    if goesOn text scope.next place then
      match k place (m.pointing place) with
      | .found m => .found m
      | .failed m => giveBack text scope before least k extra (m.undo before scope.inLoop)
    else giveBack text scope before least k extra m

/-- Take as many characters as there are, fewer if the rest requires it. -/
def singlesGreedy (text : Array Char) (scope : Scope) (c : Single) (least : Nat)
    (greatest : Option Nat) : Step := fun place m k =>
  if text.size - place < least then .failed m
  else
    let (n, m) := c.count text greatest place m
    if n < least then .failed m
    else giveBack text scope m (place + least) k (n - least) m

/-- Go on at once, then after one more character, up to a number of times. -/
def takeMore (text : Array Char) (scope : Scope) (c : Single) (before : Memory) (k : Rest) :
    Nat → Nat → Memory → Outcome
  | 0, _, m => .failed m
  | rounds + 1, place, m =>
    match k place (m.pointing place) with
    | .found m => .found m
    | .failed m =>
      let (n, m) := c.count text (some 1) place (m.undo before scope.inLoop)
      if n = 0 then .failed m else takeMore text scope c before k rounds (place + 1) m

/-- Take as few characters as the rest allows. -/
def singlesLazy (text : Array Char) (scope : Scope) (c : Single) (least : Nat)
    (greatest : Option Nat) : Step := fun place m k =>
  if text.size - place < least then .failed m
  else
    let (n, m) :=
      if least = 0 then (0, m.pointing place) else c.count text (some least) place m
    if n < least then .failed m
    else
      let room := text.size - (place + least)
      takeMore text scope c m k (min room ((greatest.getD (least + room)) - least) + 1)
        (place + least) m

/-- Take as many characters as there are. -/
def singlesPossessive (text : Array Char) (c : Single) (least : Nat)
    (greatest : Option Nat) : Step := fun place m k =>
  if text.size - place < least then .failed m
  else
    let (n, m) := c.count text greatest place m
    if n < least then .failed m else k (place + n) m

/-! ### Other repetitions -/

/-- Fail with the cursor at a place. -/
def Outcome.orAt (o : Outcome) (place : Nat) : Outcome :=
  match o with
  | found m => found m
  | failed m => failed (m.pointing place)

/-- Whether one more round may be tried at a place, after a number of rounds, given the place of
the last one. -/
def mayRepeat (greatest : Option Nat) (count : Nat) (last : Option Nat) (place : Nat) : Bool :=
  (match greatest with
    | some bound => count < bound
    | none => true) &&
  (match last with
    | some before => before != place
    | none => true)

/-- Repeat a body, as often as possible first. A further round is tried only at a place other
than that of the last one, which bounds the number of rounds. -/
def repeatGreedy (body : Step) (least : Nat) (greatest : Option Nat) (k : Rest) :
    Nat → Nat → Option Nat → Rest
  | 0, _, _ => k
  | fuel + 1, count, last => fun place m =>
    if count < least then
      (body place (m.pointing place)
        (repeatGreedy body least greatest k fuel (count + 1) last)).orAt place
    else if mayRepeat greatest count last place then
      match body place (m.pointing place)
          (repeatGreedy body least greatest k fuel (count + 1) (some place)) with
      | .found m => .found m
      | .failed after => (k place ((after.undo m true).pointing place)).orAt place
    else (k place (m.pointing place)).orAt place

/-- Repeat a body, as rarely as possible first. -/
def repeatLazy (inLoop : Bool) (body : Step) (least : Nat) (greatest : Option Nat) (k : Rest) :
    Nat → Nat → Option Nat → Rest
  | 0, _, _ => k
  | fuel + 1, count, last => fun place m =>
    if count < least then
      (body place (m.pointing place)
        (repeatLazy inLoop body least greatest k fuel (count + 1) last)).orAt place
    else
      match k place (m.pointing place) with
      | .found m => .found m
      | .failed after =>
        let m := (after.undo m inLoop).pointing place
        if mayRepeat greatest count last place then
          (body place m
            (repeatLazy inLoop body least greatest k fuel (count + 1) (some place))).orAt place
        else .failed m

/-- Repeat a body as often as possible, each round in the first way through it. The repetition
ends where the cursor is, which the round that failed may have moved. -/
def repeatPossessive (body : Step) (least : Nat) (greatest : Option Nat) (start : Nat) :
    Nat → Nat → Option Nat → Memory → Outcome
  | 0, _, _, m => .found m
  | fuel + 1, count, last, m =>
    if count < least then
      match body m.cursor m finish with
      | .found m => repeatPossessive body least greatest start fuel (count + 1) last m
      | .failed m => .failed (m.pointing start)
    else if mayRepeat greatest count last m.cursor then
      match body m.cursor m finish with
      | .found after =>
        repeatPossessive body least greatest start fuel (count + 1) (some m.cursor) after
      | .failed after => .found (after.undo m true)
    else .found m

/-- Repeat a body of more than single characters. -/
def repeatBodies (text : Array Char) (inLoop : Bool) (mode : Mode) (body : Step) (least : Nat)
    (greatest : Option Nat) : Step := fun place m k =>
  let fuel := least + (text.size + 2) * (text.size + 2)
  match mode with
  | .greedy => repeatGreedy body least greatest k fuel 0 none place (m.pointing place)
  | .lazy => repeatLazy inLoop body least greatest k fuel 0 none place (m.pointing place)
  | .possessive =>
    match repeatPossessive body least greatest place fuel 0 none (m.pointing place) with
    | .found m => k m.cursor m
    | .failed m => .failed m

/-! ### All nodes -/

/-- Whether a branch cannot match at a place, by its first character. -/
def isBarred (text : Array Char) (flags : Flags) (branch : List Node) (place : Nat) : Bool :=
  match openingAll flags branch with
  | .code c => (text[place]?).all (·.toNat != c)
  | .set negated items => (text[place]?).all (!inSet flags negated items ·)
  | _ => false

mutual

/-- The first way through a node and what follows it. -/
def runNode (text : Array Char) (scope : Scope) : Node → Step
  | .code c => takeOne text (isCode scope.flags c)
  | .notCode c => takeOne text (!isCode scope.flags c ·)
  | .any => takeOne text fun c => scope.flags.dotAll || c != '\n'
  | .never => fun _ m _ => .failed m
  | .set negated items => takeOne text (inSet scope.flags negated items)
  | .anchor a => fun place m k => if holds text scope.flags a place then k place m else .failed m
  | .alternatives branches => fun place m => runAny text scope.closed m branches place m
  | .group none on off body => runAll text { scope with flags := scope.flags.within on off } body
  | .group (some index) _ _ body => fun place m k =>
    runAll text scope.closed body place (m.mark (2 * index - 2) place) fun place m =>
      k place (m.mark (2 * index - 1) place)
  | .repetition mode least greatest body =>
    match single? scope.flags body with
    | some c =>
      match mode with
      | .greedy => singlesGreedy text scope c least greatest
      | .lazy => singlesLazy text scope c least greatest
      | .possessive => singlesPossessive text c least greatest
    | none =>
      let inner := if mode = .possessive then scope.closed else scope.looped
      repeatBodies text scope.inLoop mode (fun place m k => runAll text inner body place m k)
        least greatest
  | .atomic body => fun place m k =>
    match runAll text scope.closed body place (m.pointing place) finish with
    | .found m => k m.cursor m
    | .failed m => .failed (m.pointing place)
  | .look ahead negated body => fun place m k =>
    let back := if ahead then 0 else (Node.widthAll body).least
    if place < back then (if negated then k place m else .failed m)
    else
      match negated, runAll text scope.closed body (place - back) (m.pointing (place - back))
          finish with
      | false, .found m => k place m
      | false, .failed m | true, .found m => .failed m
      | true, .failed after => k place (after.undo m scope.inLoop)
  | .reference index _ => takeAgain text scope.flags index
  | .conditional index yes no => fun place m k =>
    if (m.span? index).isSome then
      runAll text (if no.isEmpty then scope else scope.closed) yes place m k
    else runAll text scope no place m k

/-- The first way through a sequence and what follows it. -/
def runAll (text : Array Char) (scope : Scope) : List Node → Step
  | [] => fun place m k => k place m
  | n :: rest => fun place m k =>
    runNode text (scope.before rest) n place m fun place m => runAll text scope rest place m k

/-- The first way through one of several branches and what follows it; `before` is the memory
before the first branch. -/
def runAny (text : Array Char) (scope : Scope) (before : Memory) : List (List Node) → Step
  | [] => fun _ m _ => .failed m
  | branch :: rest => fun place m k =>
    if isBarred text scope.flags branch place then runAny text scope before rest place m k
    else
      match runAll text scope branch place (m.pointing place) k with
      | .found m => .found m
      | .failed m => runAny text scope before rest place (m.undo before scope.inLoop) k

end

/-- Whether a pattern matches somewhere in a text. -/
def Compiled.matchesIn (p : Compiled) (text : Array Char) : Except Fault Bool :=
  go (startPlaces p.flags p.nodes text)
where
  /-- Try the places in turn. -/
  go : List Nat → Except Fault Bool
    | [] => .ok false
    | place :: rest =>
      match runAll text { flags := p.flags } p.nodes place (.start p.groups place) finish with
      | .failed _ => go rest
      | .found m => if m.isSound p.groups then .ok true else .error .crossedGroup

/-- Whether the pattern written in a text matches somewhere in another one. -/
def search (pattern text : String) (ignoreCase : Bool) : Except Fault Bool :=
  match read pattern.toList ignoreCase with
  | .ok p => p.matchesIn text.toList.toArray
  | .error f => .error f

end JsonPatch.Pattern
