import Lorawan.Crypto.FramePayload
import Mathlib.Algebra.Group.Nat.Defs

/-!
# The keystream of a frame

A byte of a payload meets the byte of the keystream at its own place, whatever stands around it: byte
`j` is combined with byte `j % 16` of keystream block `j / 16 + 1` (`mask`).  That all of `apply` is this
(`apply_eq_mapIdx`) makes its laws those of a function on single bytes: it undoes itself, and the start of
a payload gives the start of the result.  Up to the largest size the number of a block fits its one byte.

* `decryptUplink_ok`, `decryptUplink_error`: the size of a payload alone decides whether it can be
  decrypted.
* `opensUplink_of_decryptUplink`: what it is decrypted to, by the blocks that are encrypted.
* `applies_keystream`: what is refused, and byte by byte what is given.
-/

namespace Lorawan.FramePayload

section Size

variable (key : Aes128Key) (addr : DevAddr) (counter : UInt32) {data : List UInt8}

theorem decryptUplink_ok (h : data.length ≤ maxSize) :
    ∃ opened, decryptUplink key addr counter data = .ok opened := by
  unfold decryptUplink apply
  rw [if_neg (by omega)]
  exact ⟨_, rfl⟩

theorem decryptUplink_error (h : maxSize < data.length) :
    decryptUplink key addr counter data = .error (.payloadTooLarge data.length maxSize) := by
  unfold decryptUplink apply
  rw [if_pos h]

end Size

/-! ## The keystream byte by byte -/

/-- The byte of the keystream that byte `j` of a payload is combined with. -/
def mask (key : Aes128Key) (frame : Frame) (j : Nat) : UInt8 :=
  (keystreamBlock (.ofKey key.bytes) frame (UInt8.ofNat (j / 16 + 1))).toBytes.getD (j % 16) 0

variable {key : Aes128Key} {frame : Frame} {data : List UInt8}

theorem keystream_succ (keys : Crypto.RoundKeys) (frame : Frame) (blocks : Nat) :
    keystream keys frame (blocks + 1) =
      keystream keys frame blocks ++ (keystreamBlock keys frame (UInt8.ofNat (blocks + 1))).toBytes := by
  simp [keystream, List.range_succ]

theorem length_keystream (keys : Crypto.RoundKeys) (frame : Frame) (blocks : Nat) :
    (keystream keys frame blocks).length = 16 * blocks := by
  induction blocks with
  | zero => rfl
  | succ blocks ih =>
    rw [keystream_succ, List.length_append, ih, Crypto.Block.length_toBytes]
    omega

theorem getElem?_keystream {blocks j : Nat} (hj : j < 16 * blocks) :
    (keystream (.ofKey key.bytes) frame blocks)[j]? = some (mask key frame j) := by
  induction blocks with
  | zero => omega
  | succ blocks ih =>
    rw [keystream_succ, List.getElem?_append, length_keystream]
    split
    · rename_i hEarlier
      exact ih hEarlier
    · -- in the last block, before which there are `blocks`
      have hNumber : j / 16 = blocks := by omega
      have hPlace : j - 16 * blocks = j % 16 := by omega
      have hInside : j % 16 < 16 := by omega
      rw [hPlace, mask, hNumber, List.getD_eq_getElem?_getD, List.getElem?_eq_getElem hInside]
      rfl

theorem apply_eq_mapIdx (h : data.length ≤ maxSize) :
    apply key frame data = .ok (data.mapIdx fun j b => b ^^^ mask key frame j) := by
  unfold apply
  rw [if_neg (by omega)]
  dsimp only
  congr 1
  apply List.ext_getElem?
  intro j
  rw [List.getElem?_zipWith, List.getElem?_mapIdx]
  by_cases hj : j < data.length
  · rw [getElem?_keystream (by omega), List.getElem?_eq_getElem hj]
    rfl
  · rw [List.getElem?_eq_none (Nat.le_of_not_lt hj)]
    rfl

/-! ## Laws -/

theorem apply_eq_error_iff {e : CryptoError} :
    apply key frame data = .error e ↔
      maxSize < data.length ∧ e = .payloadTooLarge data.length maxSize := by
  unfold apply
  split
  · rename_i hSize
    simp [hSize, eq_comm]
  · rename_i hSize
    simp [hSize]

theorem apply_masked (h : data.length ≤ maxSize) :
    apply key frame (data.mapIdx fun j b => b ^^^ mask key frame j) = .ok data := by
  rw [apply_eq_mapIdx (by rwa [List.length_mapIdx]), List.mapIdx_mapIdx]
  congr 1
  apply List.ext_getElem?
  intro j
  cases hByte : data[j]? with
  | none => simp only [List.getElem?_mapIdx, hByte, Option.map_none]
  | some b =>
    -- the byte meets the same mask twice
    simp only [List.getElem?_mapIdx, hByte, Option.map_some, Function.comp, UInt8.xor_assoc,
      UInt8.xor_self, UInt8.xor_zero]

theorem apply_take (h : data.length ≤ maxSize) (n : Nat) :
    apply key frame (data.take n) = .ok ((data.mapIdx fun j b => b ^^^ mask key frame j).take n) := by
  have hTake : (data.take n).length ≤ maxSize := by
    rw [List.length_take]
    omega
  rw [apply_eq_mapIdx hTake]
  congr 1
  apply List.ext_getElem?
  intro j
  simp only [List.getElem?_mapIdx, List.getElem?_take]
  split
  · rfl
  · rfl

/-! ## The blocks that are encrypted -/

/-- A counter of four bytes, least significant byte first. -/
def littleEndian (n : UInt32) : List UInt8 :=
  (List.range 4).map fun i => UInt8.ofNat (n.toNat / 256 ^ i)

theorem counterBytes_eq (n : UInt32) : counterBytes n = littleEndian n := by
  have hByte (k : UInt32) (i : Nat) (hk : (n >>> k).toNat = n.toNat / 256 ^ i) :
      (n >>> k).toUInt8 = UInt8.ofNat (n.toNat / 256 ^ i) := by
    apply UInt8.toNat_inj.mp
    rw [UInt32.toNat_toUInt8, UInt8.toNat_ofNat', hk]
  show [n.toUInt8, (n >>> 8).toUInt8, (n >>> 16).toUInt8, (n >>> 24).toUInt8] =
    [UInt8.ofNat (n.toNat / 256 ^ 0), UInt8.ofNat (n.toNat / 256 ^ 1),
      UInt8.ofNat (n.toNat / 256 ^ 2), UInt8.ofNat (n.toNat / 256 ^ 3)]
  rw [hByte 8 1 (by simp [Nat.shiftRight_eq_div_pow]),
    hByte 16 2 (by simp [Nat.shiftRight_eq_div_pow]),
    hByte 24 3 (by simp [Nat.shiftRight_eq_div_pow])]
  simp

theorem mask_eq {j : Nat} {number : UInt8} (hNumber : number = UInt8.ofNat (j / 16 + 1)) :
    (key.cipher (.ofBytes ([0x01, 0, 0, 0, 0, frame.direction.code] ++ frame.devAddr.bytes.reverse ++
      littleEndian frame.counter ++ [0, number]))).toBytes[j % 16]? = some (mask key frame j) := by
  subst hNumber
  rw [← counterBytes_eq]
  have hInside : j % 16 < 16 := by omega
  show (keystreamBlock (.ofKey key.bytes) frame (UInt8.ofNat (j / 16 + 1))).toBytes[j % 16]? = _
  rw [mask, List.getD_eq_getElem?_getD, List.getElem?_eq_getElem hInside]
  rfl

/-- Up to the largest size, each byte meets one of an encrypted block, whose number is whole. -/
theorem exists_pad (key : Aes128Key) (frame : Frame) (hSize : data.length ≤ maxSize) {j : Nat}
    (hj : j < data.length) :
    ∃ number pad : UInt8, number.toNat = j / 16 + 1 ∧
      (key.cipher (.ofBytes ([0x01, 0, 0, 0, 0, frame.direction.code] ++ frame.devAddr.bytes.reverse ++
        littleEndian frame.counter ++ [0, number]))).toBytes[j % 16]? = some pad ∧
      (data.mapIdx fun j b => b ^^^ mask key frame j)[j]? = some (data[j] ^^^ pad) := by
  have hMax : maxSize = 4080 := rfl
  have hNumber : (UInt8.ofNat (j / 16 + 1)).toNat = j / 16 + 1 := by
    rw [UInt8.toNat_ofNat_of_lt' (by simp [UInt8.size]; omega)]
  refine ⟨_, mask key frame j, hNumber, mask_eq rfl, ?_⟩
  rw [List.getElem?_mapIdx, List.getElem?_eq_getElem hj]
  rfl

/-- Whether the payload of an uplink opens to some bytes: each of its own bytes is combined with a byte of
the keystream that belongs to uplinks with this address and counter. -/
structure OpensUplink (key : Aes128Key) (addr : DevAddr) (counter : UInt32) (data opened : List UInt8) :
    Prop where
  length_eq : opened.length = data.length
  byte : ∀ (j : Nat) (hj : j < data.length), ∃ number pad : UInt8, number.toNat = j / 16 + 1 ∧
    (key.cipher (.ofBytes ([0x01, 0, 0, 0, 0, 0] ++ addr.bytes.reverse ++ littleEndian counter ++
      [0, number]))).toBytes[j % 16]? = some pad ∧
    opened[j]? = some (data[j] ^^^ pad)

theorem opensUplink_of_decryptUplink {addr : DevAddr} {counter : UInt32} {opened : List UInt8}
    (h : decryptUplink key addr counter data = .ok opened) :
    OpensUplink key addr counter data opened := by
  by_cases hSize : data.length ≤ maxSize
  · rw [decryptUplink, apply_eq_mapIdx hSize] at h
    obtain rfl := Except.ok.inj h
    exact ⟨List.length_mapIdx, fun j hj => exists_pad key ⟨.uplink, addr, counter⟩ hSize hj⟩
  · rw [decryptUplink_error key addr counter (Nat.lt_of_not_le hSize)] at h
    cases h

/-- A payload opens to one thing. -/
theorem OpensUplink.unique {addr : DevAddr} {counter : UInt32} {opened opened' : List UInt8}
    (h : OpensUplink key addr counter data opened) (h' : OpensUplink key addr counter data opened') :
    opened = opened' := by
  apply List.ext_getElem?
  intro j
  by_cases hj : j < data.length
  · obtain ⟨number, pad, hNumber, hPad, hByte⟩ := h.byte j hj
    obtain ⟨number', pad', hNumber', hPad', hByte'⟩ := h'.byte j hj
    obtain rfl : number = number' := UInt8.toNat_inj.mp (hNumber.trans hNumber'.symm)
    obtain rfl : pad = pad' := Option.some.inj (hPad.symm.trans hPad')
    rw [hByte, hByte']
  · rw [List.getElem?_eq_none (by rw [h.length_eq]; omega),
      List.getElem?_eq_none (by rw [h'.length_eq]; omega)]

/-- Exactly the payloads of more than 4080 bytes are refused.  Of any other, byte `j` is combined with byte
`j % 16` of a block that is the encryption of direction, address, counter and its own number, which the
last byte holds whole.  Doing so again gives the payload back, and the start of a payload becomes the
start of the result. -/
theorem applies_keystream (key : Aes128Key) (frame : Frame) (data : List UInt8) :
    (∀ e, apply key frame data = .error e ↔
      4080 < data.length ∧ e = .payloadTooLarge data.length 4080) ∧
    (data.length ≤ 4080 → ∃ out, apply key frame data = .ok out ∧
      out.length = data.length ∧
      (∀ (j : Nat) (hj : j < data.length), ∃ number pad : UInt8, number.toNat = j / 16 + 1 ∧
        (key.cipher (.ofBytes ([0x01, 0, 0, 0, 0, frame.direction.code] ++
          frame.devAddr.bytes.reverse ++ littleEndian frame.counter ++ [0, number]))).toBytes[j % 16]? =
            some pad ∧
        out[j]? = some (data[j] ^^^ pad)) ∧
      apply key frame out = .ok data ∧
      ∀ n, apply key frame (data.take n) = .ok (out.take n)) := by
  refine ⟨fun e => apply_eq_error_iff, fun hSize => ⟨_, apply_eq_mapIdx hSize, ?_, ?_, ?_, ?_⟩⟩
  · exact List.length_mapIdx
  · exact fun j hj => exists_pad key frame hSize hj
  · exact apply_masked hSize
  · exact apply_take hSize

end Lorawan.FramePayload
