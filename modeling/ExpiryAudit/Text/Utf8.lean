/-!
# Decoding UTF-8

A lead byte announces how many continuation bytes follow and where the first of
them may lie, which excludes overlong forms, surrogates and codes past the last
character. Decoding keeps the characters in front of the first fault.
-/
namespace ExpiryAudit.Text.Utf8

inductive Reason where
  | start
  | continuation
  | truncated
  deriving DecidableEq, Repr

def Reason.message : Reason → String
  | .start => "invalid start byte"
  | .continuation => "invalid continuation byte"
  | .truncated => "unexpected end of data"

/-- A sequence of bytes that is no character: its first byte, the place of that
byte, and how many bytes belong to it. -/
structure Broken where
  byte : UInt8
  position : Nat
  width : Nat
  reason : Reason
  deriving DecidableEq, Repr

/-- What a lead byte announces: continuation bytes, bounds of the first one, and
its own bits of the code. -/
def lead? (b : UInt8) : Option (Nat × Nat × Nat × Nat) :=
  let n := b.toNat
  if n < 0x80 then some (0, 0, 0, n)
  else if n < 0xc2 then none
  else if n < 0xe0 then some (1, 0x80, 0xbf, n - 0xc0)
  else if n = 0xe0 then some (2, 0xa0, 0xbf, 0)
  else if n = 0xed then some (2, 0x80, 0x9f, n - 0xe0)
  else if n < 0xf0 then some (2, 0x80, 0xbf, n - 0xe0)
  else if n = 0xf0 then some (3, 0x90, 0xbf, 0)
  else if n < 0xf4 then some (3, 0x80, 0xbf, n - 0xf0)
  else if n = 0xf4 then some (3, 0x80, 0x8f, 4)
  else none

/-- A character under way. -/
structure Pending where
  first : UInt8
  taken : Nat
  missing : Nat
  low : Nat
  high : Nat
  code : Nat

structure Decoded where
  text : List Char
  broken : Option Broken
  deriving DecidableEq, Repr

/-- Decodes from a position; the characters done are in reverse. -/
def decodeOnto (done : List Char) (position : Nat) : Option Pending → List UInt8 → Decoded
  | none, [] => ⟨done.reverse, none⟩
  | some p, [] => ⟨done.reverse, some ⟨p.first, position - p.taken, p.taken, .truncated⟩⟩
  | none, b :: rest =>
    match lead? b with
    | none => ⟨done.reverse, some ⟨b, position, 1, .start⟩⟩
    | some (0, _, _, code) => decodeOnto (Char.ofNat code :: done) (position + 1) none rest
    | some (missing, low, high, code) =>
      decodeOnto done (position + 1) (some ⟨b, 1, missing, low, high, code⟩) rest
  | some p, b :: rest =>
    if b.toNat < p.low || p.high < b.toNat then
      ⟨done.reverse, some ⟨p.first, position - p.taken, p.taken, .continuation⟩⟩
    else
      let code := p.code * 64 + (b.toNat - 0x80)
      if p.missing ≤ 1 then decodeOnto (Char.ofNat code :: done) (position + 1) none rest
      else
        decodeOnto done (position + 1)
          (some ⟨p.first, p.taken + 1, p.missing - 1, 0x80, 0xbf, code⟩) rest

def decode (bytes : List UInt8) : Decoded := decodeOnto [] 0 none bytes

/-- The bytes from a fault on may be the start of a character that goes on after
them. Two bytes that start a surrogate count as such a start as well. -/
def Broken.isUnfinished (b : Broken) (bytes : List UInt8) : Bool :=
  match b.reason, bytes.drop b.position with
  | .truncated, _ => true
  | .continuation, [first, second] =>
    first == 0xed && 0xa0 ≤ second.toNat && second.toNat ≤ 0xbf
  | _, _ => false

end ExpiryAudit.Text.Utf8
