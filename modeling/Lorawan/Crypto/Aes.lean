import Lorawan.Crypto.Block
import Lorawan.Crypto.SubBytes

/-!
# The AES block cipher

Encryption and decryption of one block under a key of 16, 24 or 32 bytes.  Decryption runs the inverse
steps in the opposite order.  Mixing the columns has order four, so three more turns of it undo one.
-/

namespace Lorawan.Crypto

namespace Column

/-- Doubling in the field of bytes. -/
def double (x : UInt8) : UInt8 := if x < 0x80 then x <<< 1 else (x <<< 1) ^^^ 0x1b

/-- The bytes of a column mixed with one another. -/
def mix (x : Column) : Column :=
  ⟨double x.a ^^^ double x.b ^^^ x.b ^^^ x.c ^^^ x.d,
   x.a ^^^ double x.b ^^^ double x.c ^^^ x.c ^^^ x.d,
   x.a ^^^ x.b ^^^ double x.c ^^^ double x.d ^^^ x.d,
   double x.a ^^^ x.a ^^^ x.b ^^^ x.c ^^^ double x.d⟩

/-- The column that mixing sends here. -/
def unmix (x : Column) : Column := x.mix.mix.mix

end Column

namespace Block

/-- Byte `i` of each column moved `i` columns to the left. -/
def shiftRows (x : Block) : Block :=
  let p := x.high.left
  let q := x.high.right
  let r := x.low.left
  let s := x.low.right
  ⟨⟨⟨p.a, q.b, r.c, s.d⟩, ⟨q.a, r.b, s.c, p.d⟩⟩, ⟨⟨r.a, s.b, p.c, q.d⟩, ⟨s.a, p.b, q.c, r.d⟩⟩⟩

/-- Byte `i` of each column moved `i` columns to the right. -/
def unshiftRows (x : Block) : Block :=
  let p := x.high.left
  let q := x.high.right
  let r := x.low.left
  let s := x.low.right
  ⟨⟨⟨p.a, s.b, r.c, q.d⟩, ⟨q.a, p.b, s.c, r.d⟩⟩, ⟨⟨r.a, q.b, p.c, s.d⟩, ⟨s.a, r.b, q.c, p.d⟩⟩⟩

theorem unshiftRows_shiftRows (x : Block) : x.shiftRows.unshiftRows = x := rfl

end Block

/-- The round keys of a cipher key, in order of use. -/
structure RoundKeys where
  first : Block
  middle : List Block
  last : Block
  deriving Inhabited

namespace RoundKeys

/-- The next `count` columns of the key schedule, `window` being the last `size` columns before column
`index` and `constant` the round constant that comes next. -/
def extend (size : Nat) : (count index : Nat) → (constant : UInt8) → (window : List Column) →
    List Column
  | 0, _, _, _ => []
  | count + 1, index, constant, window =>
    let previous := window.getLastD default
    let turned := index % size = 0
    let step : Column :=
      if turned then
        (previous.rotate.map SubBytes.box).xor ⟨constant, 0, 0, 0⟩
      else if size > 6 ∧ index % size = 4 then previous.map SubBytes.box
      else previous
    let next := (window.headD default).xor step
    next :: extend size count (index + 1) (if turned then Column.double constant else constant)
      (window.tail ++ [next])

/-- The columns of a byte string. -/
def columns : List UInt8 → List Column
  | a :: b :: c :: d :: rest => ⟨a, b, c, d⟩ :: columns rest
  | _ => []

/-- The blocks of a list of columns. -/
def blocks : List Column → List Block
  | p :: q :: r :: s :: rest => ⟨⟨p, q⟩, ⟨r, s⟩⟩ :: blocks rest
  | _ => []

/-- The round keys of a cipher key: one block more than the number of rounds, which is six more than the
number of columns in the key. -/
def ofKey (key : List UInt8) : RoundKeys :=
  let own := columns key
  let size := own.length
  let all := blocks (own ++ extend size (4 * (size + 7) - size) size 1 own)
  ⟨all.headD default, all.tail.dropLast, all.getLastD default⟩

end RoundKeys

namespace Block

/-- An inner round of encryption. -/
def round (x key : Block) : Block :=
  ((x.mapColumns (·.map SubBytes.box)).shiftRows.mapColumns Column.mix).xor key

/-- The block that an inner round sends here. -/
def unround (x key : Block) : Block :=
  ((x.xor key).mapColumns Column.unmix).unshiftRows.mapColumns (·.map SubBytes.inverse)

/-- Encrypts one block. -/
def encrypt (keys : RoundKeys) (x : Block) : Block :=
  let inner := keys.middle.foldl round (x.xor keys.first)
  (inner.mapColumns (·.map SubBytes.box)).shiftRows.xor keys.last

/-- Decrypts one block. -/
def decrypt (keys : RoundKeys) (x : Block) : Block :=
  let inner := (x.xor keys.last).unshiftRows.mapColumns (·.map SubBytes.inverse)
  (keys.middle.foldr (fun key b => b.unround key) inner).xor keys.first

end Block

end Lorawan.Crypto
