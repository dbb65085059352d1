/-!
# Hexadecimal text

Two digits a byte, high nibble first.  Writing uses lower-case digits; reading takes either case and
refuses everything else, so that `decode?_encode` holds and a text of odd length is never read.
-/

namespace Lorawan.Hex

/-- The lower-case digit of a nibble. -/
def digit (n : Fin 16) : Char :=
  if n.val < 10 then Char.ofNat (48 + n.val) else Char.ofNat (87 + n.val)

/-- The value of a digit, in either case. -/
def value? (c : Char) : Option (Fin 16) :=
  if '0' ≤ c ∧ c ≤ '9' then some (Fin.ofNat 16 (c.toNat - 48))
  else if 'a' ≤ c ∧ c ≤ 'f' then some (Fin.ofNat 16 (c.toNat - 87))
  else if 'A' ≤ c ∧ c ≤ 'F' then some (Fin.ofNat 16 (c.toNat - 55))
  else none

/-- The high nibble of a byte. -/
def high (b : UInt8) : Fin 16 := Fin.ofNat 16 (b.toNat / 16)

/-- The low nibble of a byte. -/
def low (b : UInt8) : Fin 16 := Fin.ofNat 16 (b.toNat % 16)

/-- The byte with these two nibbles. -/
def byte (h l : Fin 16) : UInt8 := UInt8.ofNat (h.val * 16 + l.val)

/-- The digits of a byte string. -/
def encodeChars : List UInt8 → List Char
  | [] => []
  | b :: bs => digit (high b) :: digit (low b) :: encodeChars bs

/-- The bytes that a text of digit pairs stands for. -/
def decodeChars? : List Char → Option (List UInt8)
  | [] => some []
  | [_] => none
  | h :: l :: rest => do
    let h ← value? h
    let l ← value? l
    let bs ← decodeChars? rest
    return byte h l :: bs

/-- A byte string as hexadecimal text. -/
def encode (bs : List UInt8) : String := String.ofList (encodeChars bs)

/-- Reads hexadecimal text. -/
def decode? (s : String) : Option (List UInt8) := decodeChars? s.toList

/-- A number as digits, padded on the left to the given width. -/
def encodeNat (width : Nat) (n : Nat) : String :=
  let ds := Nat.toDigits 16 n
  String.ofList (List.replicate (width - ds.length) '0' ++ ds)

@[simp] theorem value?_digit (n : Fin 16) : value? (digit n) = some n := by
  revert n; decide

theorem byte_high_low (b : UInt8) : byte (high b) (low b) = b := by
  apply UInt8.toNat_inj.1
  have h := b.toNat_lt
  simp only [byte, high, low, Fin.ofNat, UInt8.toNat_ofNat']
  omega

theorem decodeChars?_encodeChars (bs : List UInt8) : decodeChars? (encodeChars bs) = some bs := by
  induction bs with
  | nil => rfl
  | cons b bs ih => simp [encodeChars, decodeChars?, ih, byte_high_low]

@[simp] theorem decode?_encode (bs : List UInt8) : decode? (encode bs) = some bs := by
  simp [decode?, encode, decodeChars?_encodeChars]

end Lorawan.Hex
