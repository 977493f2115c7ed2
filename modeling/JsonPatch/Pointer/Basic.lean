import JsonPatch.Json.Text
import JsonPatch.Pointer.Segment
import JsonPatch.Value.Container
import JsonPatch.Value.Path

/-! # Pointers

A pointer is read from a path once and can be followed in any document.  All segments but the
last lead to the *parent*, the container in which the last one is looked up.  A member that is
missing on the way counts as null, so that only a further step fails.

* `Pointer.parent` follows the path to the parent, or says what is in the way.
* `Pointer.locate` says whether the path leads somewhere, and where.
* `Pointer.value` and `Pointer.valueOrFail` read the value there.
* `Pointer.walk` lists the values along the path. -/

namespace JsonPatch

/-- The fault about a key that does not fit a container. It shows the key, if this can be shown. -/
def misfit (cause : String → PointerFault) (key : Value) : Fault :=
  match key.shown with
  | .ok text => .pointer (cause text) none
  | .error f => f

/-- The key that a token stands for in a container: an index inside an array, or the token itself
in an object. -/
def fixKey (c key : Value) : Except Fault Value :=
  match c with
  | .array items =>
    match Value.parseIndex key with
    | .ok i =>
      if i < items.length then .ok (.number (.int i)) else .error (misfit .outOfRange key)
    | .error (.missingKey _) => .error (misfit .badIndex key)
    | .error f => .error f
  | .object _ => .ok key
  | v => .error (misfit (.notIndexable v.typeName) key)

/-- The place a pointer leads to: the parent, the key in it, and whether anything is there. -/
structure Location where
  container : Value
  key : Option Key
  found : Bool

/-- A path that has been read. -/
structure Pointer where
  path : String
  /-- The segments before the last one. -/
  parts : List String
  /-- The last segment; the path of the document itself has none. -/
  last : Option String
  /-- Whether the path is empty or starts with a slash. -/
  wellFormed : Bool
deriving DecidableEq, Repr

namespace Pointer

/-- The pointer that a path stands for. A path that is not well formed has the segments after its
first slash, and an empty last one if there are none. -/
def ofPath (path : String) : Pointer :=
  if path = "" then { path, parts := [], last := none, wellFormed := true }
  else
    let segments := Segment.ofPath path
    { path, parts := segments.dropLast, last := some (segments.getLast?.getD ""),
      wellFormed := path.toList.head? = some '/' }

/-- The pointer that a value stands for, which must be a text. -/
def parse : Value → Except Fault Pointer
  | .string path => .ok (ofPath path)
  | v => .error (.pointer (.notText v.typeName) none)

/-- The pointer with the given segments. -/
def ofSegments (segments : List String) : Pointer :=
  ofPath (Segment.toPath segments)

/-- All segments. -/
def segments (p : Pointer) : List String :=
  p.parts ++ p.last.toList

/-- Whether the pointer leads to the document itself. -/
def isRoot (p : Pointer) : Bool :=
  p.wellFormed && p.last.isNone

/-- Follow segments from a value; `path` is the whole path, for the fault. -/
def descend (path : String) : List String → Value → Except Fault Value
  | [], v => .ok v
  | s :: rest, .array items =>
    match fixKey (.array items) (.string s) with
    | .ok (.number (.int i)) => descend path rest (items.getD i.toNat .null)
    | .ok _ => descend path rest .null
    | .error f => .error f
  | s :: rest, .object members => descend path rest ((Members.find? s members).getD .null)
  | s :: _, v => .error (.pointer (.dead v.typeName s) (some path))

/-- The value in which the last segment is looked up. -/
def parent (p : Pointer) (root : Value) : Except Fault Value :=
  if !p.wellFormed then .error (.pointer (.malformed p.path) (some p.path))
  else if p.last.isNone then .error (.pointer .rootParent (some p.path))
  else descend p.path p.parts root

/-- Where the pointer leads. What is in the way of a path makes it lead nowhere, but a number
with too many digits remains a fault. -/
def locate (p : Pointer) (root : Value) : Except Fault Location :=
  match p.last with
  | none => .ok { container := .null, key := none, found := p.wellFormed }
  | some last =>
    match p.parent root with
    | .error (.pointer ..) => .ok { container := .null, key := none, found := false }
    | .error f => .error f
    | .ok c =>
      match c.existingKey (.string last) with
      | .ok k => .ok { container := c, key := some k, found := true }
      | .error (.missingKey _) => .ok { container := c, key := none, found := false }
      | .error f => .error f

/-- Whether the pointer leads anywhere. -/
def leads (p : Pointer) (root : Value) : Except Fault Bool :=
  (p.locate root).map (·.found)

/-- The value at a location; null if nothing is there. -/
def valueAt (place : Location) : Value :=
  match place.key with
  | some k => (place.container.child? k).getD .null
  | none => .null

/-- The value the pointer leads to; null if it leads nowhere. -/
def value (p : Pointer) (root : Value) : Except Fault Value :=
  if p.isRoot then .ok root else (p.locate root).map valueAt

/-- The value the pointer leads to, which must lead somewhere. -/
def valueOrFail (p : Pointer) (root : Value) : Except Fault Value :=
  match p.leads root with
  | .error f => .error f
  | .ok false => .error (.pointer (.absent p.path) (some p.path))
  | .ok true => p.value root

/-- The part of a value that a segment names; null if there is none. -/
def child (v : Value) (segment : String) : Except Fault Value :=
  match v.contains (.string segment) with
  | .error f => .error f
  | .ok true => v.get (.string segment)
  | .ok false => .ok .null

/-- The values along segments, up to the first null. -/
def steps : List String → Value → Except Fault (List (String × Value))
  | [], _ => .ok []
  | s :: rest, v =>
    match child v s with
    | .error f => .error f
    | .ok .null => .ok [(s, .null)]
    | .ok w =>
      match steps rest w with
      | .error f => .error f
      | .ok more => .ok ((s, w) :: more)

/-- The segments of the pointer with the values they lead to, up to the first null. -/
def walk (p : Pointer) (root : Value) : Except Fault (List (String × Value)) :=
  if !p.wellFormed then .error (.pointer (.malformed p.path) (some p.path))
  else steps p.segments root

/-- The keys that segments stand for on the way down from a value. -/
def keysAlong : List String → Value → List Key
  | [], _ => []
  | s :: rest, .array items =>
    match Value.indexOfText s with
    | .ok i => .index i :: keysAlong rest (items.getD i .null)
    | .error _ => []
  | s :: rest, .object members =>
    .member s :: keysAlong rest ((Members.find? s members).getD .null)
  | _ :: _, _ => []

/-- The place of the parent. -/
def parentPlace (p : Pointer) (root : Value) : List Key :=
  keysAlong p.parts root

end Pointer

/-- The value that a path leads to in a document. -/
def resolve (document path : Value) : Except Fault Value :=
  match Pointer.parse path with
  | .ok p => p.valueOrFail document
  | .error f => .error f

end JsonPatch
