/-!
# UTF-8

Reading bytes as characters, one byte at a time.  A byte that cannot continue the character under way
ends it as a fault and is then read afresh, so every longest well-formed beginning of a character that
breaks off counts as one fault.
-/

namespace Lorawan.Utf8

/-- A character under way: its bits so far, how many bytes are still to come, and the range in which the
next one must lie. -/
structure Pending where
  bits : Nat
  more : Nat
  lowest : UInt8
  highest : UInt8
  deriving Repr

/-- What the bytes so far have led to: characters and faults, and perhaps a character under way. -/
structure Progress where
  emitted : List (Option Char)
  pending : Option Pending

/-- Reads the first byte of a character. -/
def begin (b : UInt8) : Progress :=
  if b < 0x80 then ⟨[some (Char.ofNat b.toNat)], none⟩
  else if 0xc2 ≤ b ∧ b ≤ 0xdf then ⟨[], some ⟨b.toNat % 32, 1, 0x80, 0xbf⟩⟩
  else if 0xe0 ≤ b ∧ b ≤ 0xef then
    let lowest := if b = 0xe0 then 0xa0 else 0x80
    let highest := if b = 0xed then 0x9f else 0xbf
    ⟨[], some ⟨b.toNat % 16, 2, lowest, highest⟩⟩
  else if 0xf0 ≤ b ∧ b ≤ 0xf4 then
    let lowest := if b = 0xf0 then 0x90 else 0x80
    let highest := if b = 0xf4 then 0x8f else 0xbf
    ⟨[], some ⟨b.toNat % 8, 3, lowest, highest⟩⟩
  else ⟨[none], none⟩

/-- Reads the next byte. -/
def step (pending : Option Pending) (b : UInt8) : Progress :=
  match pending with
  | none => begin b
  | some p =>
    if p.lowest ≤ b ∧ b ≤ p.highest then
      let bits := p.bits * 64 + b.toNat % 64
      if p.more ≤ 1 then ⟨[some (Char.ofNat bits)], none⟩
      else ⟨[], some ⟨bits, p.more - 1, 0x80, 0xbf⟩⟩
    else
      let fresh := begin b
      ⟨none :: fresh.emitted, fresh.pending⟩

/-- The characters and faults of a byte string, in order. -/
def scan (pending : Option Pending) : List UInt8 → List (Option Char)
  | [] => if pending.isSome then [none] else []
  | b :: bs =>
    let p := step pending b
    p.emitted ++ scan p.pending bs

/-- The text that well-formed bytes stand for. -/
def decode? (bs : List UInt8) : Option String := ((scan none bs).mapM id).map String.ofList

/-- The text of any bytes, each fault shown as the replacement character. -/
def decodeLossy (bs : List UInt8) : String :=
  String.ofList ((scan none bs).map (·.getD '\ufffd'))

/-- The bytes of a text. -/
def encode (s : String) : List UInt8 := s.toUTF8.toList

end Lorawan.Utf8
