/-! # UTF-8

`decode` reads a byte string as UTF-8.  The ranges of the second byte exclude overlong forms,
surrogates and code points out of range.  A fault covers the bytes of the broken sequence up to
the one that breaks it. -/

namespace JsonPatch.Utf8

/-- What is wrong with a byte sequence. -/
inductive Problem where
  | badStart
  | badContinuation
  | unexpectedEnd
deriving DecidableEq, Repr

/-- The wording of a problem. -/
def Problem.message : Problem → String
  | badStart => "invalid start byte"
  | badContinuation => "invalid continuation byte"
  | unexpectedEnd => "unexpected end of data"

/-- A problem with `length` bytes from a position on, the first of which is `byte`. -/
structure Fault where
  problem : Problem
  position : Nat
  length : Nat
  byte : UInt8
deriving Repr

/-- The wording of a fault: one byte is shown, several are given by their positions. -/
def Fault.message (f : Fault) : String :=
  let digits := Nat.toDigits 16 f.byte.toNat
  let shown := if digits.length < 2 then '0' :: digits else digits
  let where_ := if f.length = 1 then
      "byte 0x" ++ String.ofList shown ++ " in position " ++ toString f.position
    else "bytes in position " ++ toString f.position ++ "-" ++ toString (f.position + f.length - 1)
  "'utf-8' codec can't decode " ++ where_ ++ ": " ++ f.problem.message

/-- The number of bytes after a first byte, and the range of the one that follows it. -/
def following (b : UInt8) : Option (Nat × Nat × Nat) :=
  if b < 0x80 then some (0, 0, 0)
  else if b < 0xc2 then none
  else if b < 0xe0 then some (1, 0x80, 0xbf)
  else if b = 0xe0 then some (2, 0xa0, 0xbf)
  else if b = 0xed then some (2, 0x80, 0x9f)
  else if b < 0xf0 then some (2, 0x80, 0xbf)
  else if b = 0xf0 then some (3, 0x90, 0xbf)
  else if b < 0xf4 then some (3, 0x80, 0xbf)
  else if b = 0xf4 then some (3, 0x80, 0x8f)
  else none

/-- The bits of the code point that the first byte of a sequence holds. -/
def startBits (count : Nat) (b : UInt8) : Nat :=
  match count with
  | 0 => b.toNat
  | 1 => b.toNat % 0x20
  | 2 => b.toNat % 0x10
  | _ => b.toNat % 0x08

/-- A sequence that is being read. -/
structure Pending where
  first : UInt8
  position : Nat
  /-- The number of bytes read. -/
  seen : Nat
  /-- The number of bytes still to come. -/
  missing : Nat
  /-- The range of the next byte. -/
  low : Nat
  high : Nat
  code : Nat

/-- The fault of a pending sequence. -/
def Pending.fault (p : Pending) (problem : Problem) : Fault :=
  { problem, position := p.position, length := p.seen, byte := p.first }

/-- Decode from a position on, where a sequence may be pending. -/
def decodeFrom : List UInt8 → Nat → Option Pending → Except Fault (List Char)
  | [], _, none => .ok []
  | [], _, some p => .error (p.fault .unexpectedEnd)
  | b :: rest, position, none =>
    match following b with
    | none => .error { problem := .badStart, position, length := 1, byte := b }
    | some (0, _, _) => (decodeFrom rest (position + 1) none).map (Char.ofNat b.toNat :: ·)
    | some (count, low, high) =>
      decodeFrom rest (position + 1)
        (some { first := b, position, seen := 1, missing := count, low, high,
                code := startBits count b })
  | b :: rest, position, some p =>
    if b.toNat < p.low || p.high < b.toNat then .error (p.fault .badContinuation)
    else
      let code := p.code * 64 + b.toNat % 64
      if p.missing ≤ 1 then (decodeFrom rest (position + 1) none).map (Char.ofNat code :: ·)
      else decodeFrom rest (position + 1)
        (some { p with seen := p.seen + 1, missing := p.missing - 1, low := 0x80, high := 0xbf,
                       code })

/-- The text that a byte string stands for. -/
def decode (bytes : List UInt8) : Except Fault (List Char) :=
  decodeFrom bytes 0 none

end JsonPatch.Utf8
