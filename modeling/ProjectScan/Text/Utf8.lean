/-!
Decoding bytes as UTF-8. The first defect is reported with the bytes it covers: a byte that starts
nothing, a sequence broken by a byte that does not continue it, or one cut off by the end.
-/

namespace ProjectScan.Text

inductive Utf8Fault where
  | startByte
  | continuationByte
  | endOfData
  deriving DecidableEq, Repr

structure Utf8Defect where
  fault : Utf8Fault
  byte : Nat
  position : Nat
  length : Nat
  deriving DecidableEq, Repr

def followers (start : Nat) : Option (Nat × Nat × Nat) :=
  if start < 0xC2 then none
  else if start < 0xE0 then some (1, 0x80, 0xBF)
  else if start = 0xE0 then some (2, 0xA0, 0xBF)
  else if start = 0xED then some (2, 0x80, 0x9F)
  else if start < 0xF0 then some (2, 0x80, 0xBF)
  else if start = 0xF0 then some (3, 0x90, 0xBF)
  else if start < 0xF4 then some (3, 0x80, 0xBF)
  else if start = 0xF4 then some (3, 0x80, 0x8F)
  else none

/-- A sequence under way: its start byte and place, the bytes read, the bits gathered, the bytes
still missing and the bounds of the next one. -/
structure Pending where
  start : Nat
  position : Nat
  taken : Nat
  bits : Nat
  missing : Nat
  low : Nat
  high : Nat

def Pending.defect (pending : Pending) (fault : Utf8Fault) : Utf8Defect :=
  ⟨fault, pending.start, pending.position, pending.taken⟩

def startBits (start : Nat) : Nat :=
  if start < 0xE0 then start % 0x20 else if start < 0xF0 then start % 0x10 else start % 0x08

/-- Decodes from `position` on; `pending` is the sequence under way, if any. -/
def decodeFrom (position : Nat) (pending : Option Pending) :
    List UInt8 → Except Utf8Defect (List Char)
  | [] => match pending with
    | none => .ok []
    | some p => .error (p.defect .endOfData)
  | byte :: rest =>
      let n := byte.toNat
      match pending with
      | none =>
          if n < 0x80 then (decodeFrom (position + 1) none rest).map (Char.ofNat n :: ·)
          else match followers n with
            | none => .error ⟨.startByte, n, position, 1⟩
            | some (missing, low, high) =>
                decodeFrom (position + 1)
                  (some ⟨n, position, 1, startBits n, missing, low, high⟩) rest
      | some p =>
          if n < p.low ∨ p.high < n then .error (p.defect .continuationByte)
          else
            let bits := p.bits * 0x40 + n % 0x40
            if p.missing ≤ 1 then
              (decodeFrom (position + 1) none rest).map (Char.ofNat bits :: ·)
            else
              decodeFrom (position + 1)
                (some ⟨p.start, p.position, p.taken + 1, bits, p.missing - 1, 0x80, 0xBF⟩) rest

def decodeUtf8 (bytes : List UInt8) : Except Utf8Defect (List Char) := decodeFrom 0 none bytes

def plainLines : List Char → List Char
  | '\r' :: '\n' :: rest => '\n' :: plainLines rest
  | '\r' :: rest => '\n' :: plainLines rest
  | c :: rest => c :: plainLines rest
  | [] => []

end ProjectScan.Text
