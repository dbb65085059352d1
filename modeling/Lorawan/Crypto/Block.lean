/-!
# Cipher blocks

A block is sixteen bytes, kept as four columns of four.  Its halves are the units of key wrapping.
Blocks are read from byte lists by position, with zero for a byte that is not there, so that a
sixteen-byte list and its block determine each other.
-/

namespace Lorawan.Crypto

/-- Four bytes. -/
structure Column where
  a : UInt8
  b : UInt8
  c : UInt8
  d : UInt8
  deriving DecidableEq, Inhabited, Repr

namespace Column

/-- Bytewise exclusive or. -/
def xor (x y : Column) : Column := ⟨x.a ^^^ y.a, x.b ^^^ y.b, x.c ^^^ y.c, x.d ^^^ y.d⟩

/-- The same function on each byte. -/
def map (f : UInt8 → UInt8) (x : Column) : Column := ⟨f x.a, f x.b, f x.c, f x.d⟩

/-- The bytes turned up by one place. -/
def rotate (x : Column) : Column := ⟨x.b, x.c, x.d, x.a⟩

def toBytes (x : Column) : List UInt8 := [x.a, x.b, x.c, x.d]

theorem xor_xor_cancel (x k : Column) : (x.xor k).xor k = x := by
  simp only [xor, UInt8.xor_assoc, UInt8.xor_self, UInt8.xor_zero]

end Column

/-- Eight bytes, the unit of key wrapping. -/
structure Half where
  left : Column
  right : Column
  deriving DecidableEq, Inhabited, Repr

namespace Half

def toBytes (h : Half) : List UInt8 := h.left.toBytes ++ h.right.toBytes

/-- Bytewise exclusive or. -/
def xor (x y : Half) : Half := ⟨x.left.xor y.left, x.right.xor y.right⟩

/-- The half that holds a number, most significant byte first. -/
def ofNat (n : Nat) : Half :=
  let byte (i : Nat) : UInt8 := UInt8.ofNat (n >>> (8 * i))
  ⟨⟨byte 7, byte 6, byte 5, byte 4⟩, ⟨byte 3, byte 2, byte 1, byte 0⟩⟩

theorem xor_xor_cancel (x k : Half) : (x.xor k).xor k = x := by
  simp [xor, Column.xor_xor_cancel]

/-- The halves of a byte string whose length is a multiple of eight. -/
def ofBytes? : List UInt8 → Option (List Half)
  | [] => some []
  | a :: b :: c :: d :: e :: f :: g :: h :: rest =>
    (ofBytes? rest).map (⟨⟨a, b, c, d⟩, ⟨e, f, g, h⟩⟩ :: ·)
  | _ => none

end Half

/-- Sixteen bytes, the unit of the cipher. -/
structure Block where
  high : Half
  low : Half
  deriving DecidableEq, Inhabited, Repr

namespace Block

def toBytes (b : Block) : List UInt8 := b.high.toBytes ++ b.low.toBytes

/-- Bytewise exclusive or. -/
def xor (x y : Block) : Block := ⟨x.high.xor y.high, x.low.xor y.low⟩

/-- The first sixteen bytes of a list. -/
def ofBytes (bs : List UInt8) : Block :=
  let at' (i : Nat) : UInt8 := bs.getD i 0
  ⟨⟨⟨at' 0, at' 1, at' 2, at' 3⟩, ⟨at' 4, at' 5, at' 6, at' 7⟩⟩,
   ⟨⟨at' 8, at' 9, at' 10, at' 11⟩, ⟨at' 12, at' 13, at' 14, at' 15⟩⟩⟩

/-- The same function on each column. -/
def mapColumns (f : Column → Column) (x : Block) : Block :=
  ⟨⟨f x.high.left, f x.high.right⟩, ⟨f x.low.left, f x.low.right⟩⟩

@[simp] theorem ofBytes_toBytes (b : Block) : ofBytes b.toBytes = b := rfl

@[simp] theorem length_toBytes (b : Block) : b.toBytes.length = 16 := rfl

/-- A block holds all of a list of sixteen bytes. -/
theorem toBytes_ofBytes {bs : List UInt8} (h : bs.length = 16) : (ofBytes bs).toBytes = bs := by
  apply List.ext_getElem (by rw [length_toBytes, h])
  intro i hi _
  rw [length_toBytes] at hi
  -- byte by byte, and each is where it was
  match i, hi with
  | 0, _ | 1, _ | 2, _ | 3, _ | 4, _ | 5, _ | 6, _ | 7, _ | 8, _ | 9, _ | 10, _ | 11, _ | 12, _
  | 13, _ | 14, _ | 15, _ =>
    show List.getD bs _ 0 = _
    rw [List.getD_eq_getElem?_getD, List.getElem?_eq_getElem (by omega), Option.getD_some]
  | _ + 16, hi => omega

theorem toBytes_inj {b b' : Block} : b.toBytes = b'.toBytes ↔ b = b' := by
  constructor
  · intro h
    rw [← ofBytes_toBytes b, h, ofBytes_toBytes]
  · rintro rfl
    rfl

theorem ofBytes_inj {bs bs' : List UInt8} (h : bs.length = 16) (h' : bs'.length = 16) :
    ofBytes bs = ofBytes bs' ↔ bs = bs' := by
  constructor
  · intro hSame
    rw [← toBytes_ofBytes h, hSame, toBytes_ofBytes h']
  · rintro rfl
    rfl

theorem xor_xor_cancel (x k : Block) : (x.xor k).xor k = x := by
  simp [xor, Half.xor_xor_cancel]

end Block

end Lorawan.Crypto
