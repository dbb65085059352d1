import Lorawan.Proofs.Crypto.Aes
import Lorawan.Proofs.Crypto.FramePayload
import Mathlib.Data.List.Nodup

/-!
# Keystream blocks never repeat

A keystream block is the encryption of a block in which direction, address, counter and block number each
have a place of their own, so that two of these blocks agree only if all four do (`blockBytes_inj`).
Encryption keeps them apart, and up to the largest payload no block number comes round again
(`blockNumber_inj`).  Nothing is therefore ever encrypted with a keystream block that was used before, be
it in the same frame or in another frame under the same key (`keystream_never_repeats`).
-/

namespace Lorawan.FramePayload

/-! ## The places of a block -/

theorem Direction.code_inj {d d' : Direction} : d.code = d'.code ↔ d = d' := by
  cases d <;> cases d' <;> decide

theorem length_counterBytes (n : UInt32) : (counterBytes n).length = 4 := rfl

/-- Four bytes hold all of a counter. -/
theorem counterBytes_inj {n m : UInt32} : counterBytes n = counterBytes m ↔ n = m := by
  constructor
  · intro h
    rw [counterBytes_eq, counterBytes_eq] at h
    -- the bytes are the digits to base 256
    have hByte (i : Nat) (hi : i < 4) : n.toNat / 256 ^ i % 256 = m.toNat / 256 ^ i % 256 := by
      have hAt := congrArg (fun bytes => bytes[i]?) h
      simp only [littleEndian, List.getElem?_map, List.getElem?_range hi, Option.map_some,
        Option.some.injEq] at hAt
      have hValue := congrArg UInt8.toNat hAt
      rw [UInt8.toNat_ofNat', UInt8.toNat_ofNat'] at hValue
      exact hValue
    have h0 := hByte 0 (by omega)
    have h1 := hByte 1 (by omega)
    have h2 := hByte 2 (by omega)
    have h3 := hByte 3 (by omega)
    have hn := n.toNat_lt
    have hm := m.toNat_lt
    apply UInt32.toNat_inj.mp
    omega
  · rintro rfl
    rfl

theorem length_blockBytes (frame : Frame) (number : UInt8) : (blockBytes frame number).length = 16 := by
  simp [blockBytes, length_counterBytes, frame.devAddr.size_eq, IdentifierKind.size]

/-- Direction, address, counter and number can be read off a block that is encrypted. -/
theorem blockBytes_inj {frame frame' : Frame} {number number' : UInt8} :
    blockBytes frame number = blockBytes frame' number' ↔ frame = frame' ∧ number = number' := by
  constructor
  · intro h
    obtain ⟨direction, addr, counter⟩ := frame
    obtain ⟨direction', addr', counter'⟩ := frame'
    unfold blockBytes at h
    dsimp only at h
    -- from the end to the start, each field as long as its counterpart
    obtain ⟨h, hNumber⟩ := List.append_inj' h rfl
    obtain ⟨h, hCounter⟩ := List.append_inj' h rfl
    have hAddrLength : addr.bytes.reverse.length = addr'.bytes.reverse.length := by
      rw [List.length_reverse, List.length_reverse, addr.size_eq, addr'.size_eq]
    obtain ⟨hStart, hAddr⟩ := List.append_inj' h hAddrLength
    obtain rfl : direction = direction' := Direction.code_inj.mp (by simpa using hStart)
    obtain rfl : addr = addr' := Identifier.bytes_injective (List.reverse_inj.mp hAddr)
    obtain rfl : counter = counter' := counterBytes_inj.mp hCounter
    exact ⟨rfl, by simpa using hNumber⟩
  · rintro ⟨rfl, rfl⟩
    rfl

theorem keystreamBlock_inj {keys : Crypto.RoundKeys} {frame frame' : Frame} {number number' : UInt8} :
    keystreamBlock keys frame number = keystreamBlock keys frame' number' ↔
      frame = frame' ∧ number = number' := by
  unfold keystreamBlock
  rw [Crypto.Block.encrypt_inj,
    Crypto.Block.ofBytes_inj (length_blockBytes frame number) (length_blockBytes frame' number'),
    blockBytes_inj]

/-! ## The keystream blocks of a payload -/

/-- How many keystream blocks a payload of some bytes takes. -/
def blockCount (size : Nat) : Nat := (size + 15) / 16

/-- The number of keystream block `i`, counted from zero. -/
def blockNumber (i : Nat) : UInt8 := UInt8.ofNat (i + 1)

theorem toNat_blockNumber {i : Nat} (h : i < 255) : (blockNumber i).toNat = i + 1 := by
  unfold blockNumber
  rw [UInt8.toNat_ofNat_of_lt' (by simp [UInt8.size]; omega)]

/-- Of 255 blocks each has a number of its own. -/
theorem blockNumber_inj {i j : Nat} (hi : i < 255) (hj : j < 255) :
    blockNumber i = blockNumber j ↔ i = j := by
  rw [← UInt8.toNat_inj, toNat_blockNumber hi, toNat_blockNumber hj]
  omega

/-- The keystream blocks that a payload of some bytes is encrypted with, in order. -/
def pads (key : Aes128Key) (frame : Frame) (size : Nat) : List Crypto.Block :=
  (List.range (blockCount size)).map fun i => keystreamBlock (.ofKey key.bytes) frame (blockNumber i)

/-- Bytes `16 * i` to `16 * i + 15` of a payload, as far as it reaches. -/
def chunk (data : List UInt8) (i : Nat) : List UInt8 := (data.drop (16 * i)).take 16

variable {key : Aes128Key} {frame frame' : Frame} {data : List UInt8} {size size' : Nat}

theorem length_pads (key : Aes128Key) (frame : Frame) (size : Nat) :
    (pads key frame size).length = blockCount size := by
  simp [pads]

theorem mem_pads_iff {pad : Crypto.Block} :
    pad ∈ pads key frame size ↔
      ∃ i < blockCount size, keystreamBlock (.ofKey key.bytes) frame (blockNumber i) = pad := by
  simp [pads]

theorem blockCount_le (h : size ≤ maxSize) : blockCount size ≤ 255 := by
  unfold blockCount
  unfold maxSize at h
  omega

theorem nodup_pads (key : Aes128Key) (frame : Frame) (h : size ≤ maxSize) :
    (pads key frame size).Nodup := by
  have hCount := blockCount_le h
  unfold pads
  refine List.Nodup.map_on ?_ List.nodup_range
  intro i hi j hj hSame
  have hi : i < 255 := by
    have := List.mem_range.mp hi
    omega
  have hj : j < 255 := by
    have := List.mem_range.mp hj
    omega
  exact (blockNumber_inj hi hj).mp (keystreamBlock_inj.mp hSame).2

theorem disjoint_pads (key : Aes128Key) (h : frame ≠ frame') (size size' : Nat) :
    (pads key frame size).Disjoint (pads key frame' size') := by
  intro pad hPad hPad'
  obtain ⟨i, -, rfl⟩ := mem_pads_iff.mp hPad
  obtain ⟨j, -, hSame⟩ := mem_pads_iff.mp hPad'
  exact h (keystreamBlock_inj.mp hSame.symm).1

theorem keystreamBlock_of_pads {pad : Crypto.Block} {i : Nat} (h : (pads key frame size)[i]? = some pad) :
    keystreamBlock (.ofKey key.bytes) frame (blockNumber i) = pad := by
  obtain ⟨hi, hPad⟩ := List.getElem?_eq_some_iff.mp h
  simpa [pads] using hPad

theorem length_le_of_apply {out : List UInt8} (h : apply key frame data = .ok out) :
    data.length ≤ maxSize := by
  by_contra hLarge
  rw [apply_eq_error_iff.mpr ⟨by omega, rfl⟩] at h
  cases h

/-- Each sixteen bytes of a payload are combined with one keystream block, the last one cut to size. -/
theorem chunk_masked {pad : Crypto.Block} {i : Nat} (hPad : (pads key frame data.length)[i]? = some pad) :
    chunk (data.mapIdx fun j b => b ^^^ mask key frame j) i =
      (chunk data i).zipWith (· ^^^ ·) pad.toBytes := by
  have hPad := keystreamBlock_of_pads hPad
  apply List.ext_getElem?
  intro n
  unfold chunk
  rw [List.getElem?_zipWith, List.getElem?_take, List.getElem?_take, List.getElem?_drop,
    List.getElem?_drop, List.getElem?_mapIdx]
  by_cases hn : n < 16
  · -- byte `n` of this chunk meets byte `n` of its block
    have hBlock : (16 * i + n) / 16 = i := by omega
    have hPlace : (16 * i + n) % 16 = n := by omega
    have hMask : mask key frame (16 * i + n) = pad.toBytes.getD n 0 := by
      rw [mask, hBlock, hPlace, ← hPad]
      rfl
    have hByte : pad.toBytes[n]? = some (pad.toBytes.getD n 0) := by
      rw [List.getD_eq_getElem?_getD, List.getElem?_eq_getElem (by rwa [pad.length_toBytes]),
        Option.getD_some]
    rw [if_pos hn, if_pos hn, hMask, hByte]
    cases data[16 * i + n]? <;> rfl
  · rw [if_neg hn, if_neg hn]

/-- What a chunk and its encryption have between them. -/
def recovered (data out : List UInt8) (i : Nat) : List UInt8 :=
  (chunk data i).zipWith (· ^^^ ·) (chunk out i)

theorem zipWith_xor_cancel {bs pad : List UInt8} (h : bs.length = pad.length) :
    bs.zipWith (· ^^^ ·) (bs.zipWith (· ^^^ ·) pad) = pad := by
  induction bs generalizing pad with
  | nil =>
    obtain rfl := List.eq_nil_of_length_eq_zero h.symm
    rfl
  | cons b bs ih =>
    cases pad with
    | nil => cases h
    | cons p pad =>
      have hRest : bs.length = pad.length := by simpa using h
      rw [List.zipWith_cons_cons, List.zipWith_cons_cons, ih hRest, ← UInt8.xor_assoc, UInt8.xor_self,
        UInt8.zero_xor]

/-- From sixteen whole bytes and their encryption the keystream block comes out again. -/
theorem recovered_eq {out : List UInt8} {i : Nat} (h : apply key frame data = .ok out)
    (hi : 16 * (i + 1) ≤ data.length) :
    recovered data out i = (keystreamBlock (.ofKey key.bytes) frame (blockNumber i)).toBytes := by
  rw [apply_eq_mapIdx (length_le_of_apply h)] at h
  cases h
  have hCount : i < blockCount data.length := by
    unfold blockCount
    omega
  have hPad : (pads key frame data.length)[i]? =
      some (keystreamBlock (.ofKey key.bytes) frame (blockNumber i)) := by
    simp [pads, hCount]
  have hChunk : (chunk data i).length = 16 := by
    rw [chunk, List.length_take, List.length_drop]
    omega
  rw [recovered, chunk_masked hPad, zipWith_xor_cancel (by rw [hChunk, Crypto.Block.length_toBytes])]

theorem recovered_inj {data' out out' : List UInt8} {i i' : Nat} (h : apply key frame data = .ok out)
    (h' : apply key frame' data' = .ok out') (hi : 16 * (i + 1) ≤ data.length)
    (hi' : 16 * (i' + 1) ≤ data'.length) :
    recovered data out i = recovered data' out' i' ↔ frame = frame' ∧ i = i' := by
  have hSize := length_le_of_apply h
  have hSize' := length_le_of_apply h'
  unfold maxSize at hSize hSize'
  rw [recovered_eq h hi, recovered_eq h' hi', Crypto.Block.toBytes_inj, keystreamBlock_inj,
    blockNumber_inj (by omega) (by omega)]

/-- A block that is encrypted holds direction, address, counter and number, so that two that differ in one
of them are different, and so are the keystream blocks that they are encrypted to.  A payload of up to 4080
bytes is combined, sixteen bytes by sixteen, with keystream blocks of which no two are the same and none is
one of another frame.  This can be seen from the outside: what any sixteen bytes and their encryption have
between them comes up again for no other place and for no other frame. -/
theorem keystream_never_repeats (key : Aes128Key) :
    (∀ (frame frame' : Frame) (number number' : UInt8),
      (blockBytes frame number = blockBytes frame' number' ↔ frame = frame' ∧ number = number') ∧
      (keystreamBlock (.ofKey key.bytes) frame number = keystreamBlock (.ofKey key.bytes) frame' number' ↔
        frame = frame' ∧ number = number')) ∧
    (∀ (frame : Frame) (data : List UInt8), data.length ≤ 4080 →
      ∃ out, apply key frame data = .ok out ∧ out.length = data.length ∧
        (pads key frame data.length).length = (data.length + 15) / 16 ∧
        (∀ (i : Nat) (pad : Crypto.Block), (pads key frame data.length)[i]? = some pad →
          chunk out i = (chunk data i).zipWith (· ^^^ ·) pad.toBytes ∧
          ∃ number : UInt8, number.toNat = i + 1 ∧ pad = keystreamBlock (.ofKey key.bytes) frame number) ∧
        (pads key frame data.length).Nodup ∧
        ∀ (frame' : Frame) (size' : Nat), frame ≠ frame' →
          (pads key frame data.length).Disjoint (pads key frame' size')) ∧
    ∀ (frame frame' : Frame) (data data' out out' : List UInt8) (i i' : Nat),
      apply key frame data = .ok out → apply key frame' data' = .ok out' →
      16 * (i + 1) ≤ data.length → 16 * (i' + 1) ≤ data'.length →
      (recovered data out i = recovered data' out' i' ↔ frame = frame' ∧ i = i') := by
  refine ⟨fun _ _ _ _ => ⟨blockBytes_inj, keystreamBlock_inj⟩, ?_, ?_⟩
  · intro frame data hSize
    refine ⟨_, apply_eq_mapIdx hSize, List.length_mapIdx, length_pads key frame _, ?_,
      nodup_pads key frame hSize, fun frame' size' h => disjoint_pads key h _ size'⟩
    intro i pad hPad
    refine ⟨chunk_masked hPad, blockNumber i, ?_, ?_⟩
    · -- no counter wraps around: there are at most 255 blocks
      have hi : i < blockCount data.length := by
        rw [← length_pads key frame]
        exact (List.getElem?_eq_some_iff.mp hPad).1
      exact toNat_blockNumber (Nat.lt_of_lt_of_le hi (blockCount_le hSize))
    · exact (keystreamBlock_of_pads hPad).symm
  · intro frame frame' data data' out out' i i' h h' hi hi'
    exact recovered_inj h h' hi hi'

namespace Sample

/-- The key of zeros. -/
def zeroKey : Aes128Key := ⟨⟨List.replicate 16 0, rfl⟩⟩

/-- A frame on its way to a device or from it. -/
def frameOf (direction : Direction) : Frame := ⟨direction, .zero .devAddr, 7⟩

end Sample

/-- Two blocks of zeros meet four keystream blocks that have nothing to do with one another: two on the way
up and two on the way down. -/
theorem keystream_never_repeats_sample :
    ∃ up down, apply Sample.zeroKey (Sample.frameOf .uplink) (List.replicate 32 0) = .ok up ∧
      apply Sample.zeroKey (Sample.frameOf .downlink) (List.replicate 32 0) = .ok down ∧
      recovered (List.replicate 32 0) up 0 ≠ recovered (List.replicate 32 0) up 1 ∧
      recovered (List.replicate 32 0) up 1 ≠ recovered (List.replicate 32 0) down 1 := by
  obtain ⟨-, hApplies, hSeen⟩ := keystream_never_repeats Sample.zeroKey
  obtain ⟨up, hUp, -⟩ := hApplies (Sample.frameOf .uplink) (List.replicate 32 0) (by decide)
  obtain ⟨down, hDown, -⟩ := hApplies (Sample.frameOf .downlink) (List.replicate 32 0) (by decide)
  refine ⟨up, down, hUp, hDown, ?_, ?_⟩
  · intro hSame
    have hPlace := ((hSeen _ _ _ _ _ _ 0 1 hUp hUp (by decide) (by decide)).mp hSame).2
    omega
  · intro hSame
    have hFrame := ((hSeen _ _ _ _ _ _ 1 1 hUp hDown (by decide) (by decide)).mp hSame).1
    exact absurd hFrame (by decide)

end Lorawan.FramePayload
