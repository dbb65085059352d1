import Lorawan.Crypto.Kek
import Lorawan.Proofs.Crypto.KeyWrap

/-!
# Opening envelopes

A set of key-encryption keys holds what its entries say, under their labels, and nothing else
(`KekSet.get?_ofEntries`).  So the entries settle what becomes of an envelope.  `KeyEnvelope.Opens` lists
the ways it can go; no two of them meet, and none of them is the cipher being given a key that it does not
take.

* `KekSet.resolves_by_rule`: every envelope goes by the rules.  A labelled one gives a key exactly when it
  is the standard wrap of that key.
-/

namespace Lorawan

open Crypto.KeyWrap (IsKeySize IsWrap raggedDetail)

/-! ## Entries -/

namespace KekEntry

theorem key_eq_ok_iff {e : KekEntry} {kek : List UInt8} :
    e.key = .ok kek ↔ Hex.decode? e.kek = some kek ∧ IsKeySize kek.length := by
  unfold key
  cases hHex : Hex.decode? e.kek with
  | none => simp
  | some bs =>
    dsimp only
    by_cases hSize : IsKeySize bs.length
    · rw [if_pos hSize]
      constructor
      · rintro ⟨⟩
        exact ⟨rfl, hSize⟩
      · rintro ⟨⟨⟩, -⟩
        rfl
    · rw [if_neg hSize]
      constructor
      · rintro ⟨⟩
      · rintro ⟨⟨⟩, h⟩
        exact absurd h hSize

/-- Whether some entries put a key-encryption key under a label. -/
def Configure (entries : List KekEntry) (label : String) (kek : List UInt8) : Prop :=
  ∃ e ∈ entries, e.label = label ∧ Hex.decode? e.kek = some kek

end KekEntry

open KekEntry (Configure)

/-! ## Sets -/

namespace KekSet

/-- What adding an entry takes, and what it leaves. -/
theorem insertEntry_eq_ok_iff {s s' : KekSet} {e : KekEntry} :
    s.insertEntry e = .ok s' ↔
      ∃ kek, e.key = .ok kek ∧ e.label ≠ "" ∧ s.get? e.label = none ∧
        s' = ⟨s.keys ++ [(e.label, kek)]⟩ := by
  unfold insertEntry KekEntry.faults
  cases e.key with
  | error detail => simp
  | ok kek =>
    by_cases hLabel : e.label = ""
    · simp [hLabel]
    · cases hHeld : s.get? e.label with
      | none =>
        simp only [String.isEmpty_iff, hLabel, if_false, List.append_nil, Option.isSome_none,
          Bool.false_eq_true, Except.ok.injEq, ne_eq, not_false_eq_true, true_and, exists_eq_left']
        exact eq_comm
      | some held => simp [hLabel]

theorem get?_append (s : KekSet) (own : String) (kek : List UInt8) (label : String) :
    get? ⟨s.keys ++ [(own, kek)]⟩ label =
      (s.get? label).or (if own = label then some kek else none) := by
  rw [get?, List.lookup_append, List.lookup_cons, List.lookup_nil, get?]
  by_cases h : own = label
  · simp [h]
  · rw [if_neg h, beq_false_of_ne (Ne.symm h)]

/-- The entry added has its key, and all others have the keys they had. -/
theorem get?_insertEntry {s s' : KekSet} {e : KekEntry} (h : s.insertEntry e = .ok s') (label : String)
    (kek : List UInt8) :
    s'.get? label = some kek ↔ s.get? label = some kek ∨ e.label = label ∧ e.key = .ok kek := by
  obtain ⟨own, hKey, -, hNew, rfl⟩ := insertEntry_eq_ok_iff.mp h
  rw [get?_append, hKey]
  by_cases hSame : e.label = label
  · subst hSame
    simp [hNew]
  · simp [hSame]

/-- A set is built only of entries that each have a key, and holds those keys under their labels. -/
theorem get?_foldlM {s s' : KekSet} {entries : List KekEntry} (h : entries.foldlM insertEntry s = .ok s') :
    (∀ e ∈ entries, ∃ kek, e.key = .ok kek) ∧
      ∀ label kek, s'.get? label = some kek ↔
        s.get? label = some kek ∨ ∃ e ∈ entries, e.label = label ∧ e.key = .ok kek := by
  induction entries generalizing s with
  | nil =>
    cases h
    simp
  | cons e rest ih =>
    rw [List.foldlM_cons] at h
    cases hStep : s.insertEntry e with
    | error fault => rw [hStep] at h; cases h
    | ok s₁ =>
      rw [hStep] at h
      obtain ⟨hKeys, hHeld⟩ := ih h
      obtain ⟨own, hKey, -⟩ := insertEntry_eq_ok_iff.mp hStep
      refine ⟨?_, fun label kek => ?_⟩
      · intro e' he'
        rcases List.mem_cons.mp he' with rfl | hRest
        · exact ⟨own, hKey⟩
        · exact hKeys e' hRest
      · -- what is held later is held now, or of a later entry
        rw [hHeld, get?_insertEntry hStep]
        simp [or_assoc]

variable {entries : List KekEntry} {s : KekSet}

theorem get?_ofEntries (hSet : ofEntries entries = .ok s) {label : String} {kek : List UInt8} :
    s.get? label = some kek ↔ Configure entries label kek := by
  obtain ⟨hKeys, hHeld⟩ := get?_foldlM hSet
  have hEmpty : KekSet.empty.get? label ≠ some kek := by simp [KekSet.empty, get?]
  rw [hHeld, or_iff_right hEmpty]
  refine exists_congr fun e => and_congr_right fun he => and_congr_right fun _ => ?_
  -- the text of an entry that is in the set has the size of a key
  constructor
  · intro h
    exact (KekEntry.key_eq_ok_iff.mp h).1
  · intro h
    obtain ⟨own, hOwn⟩ := hKeys e he
    have hText := (KekEntry.key_eq_ok_iff.mp hOwn).1
    rw [h] at hText
    cases hText
    exact hOwn

theorem isKeySize_of_get? (hSet : ofEntries entries = .ok s) {label : String} {kek : List UInt8}
    (h : s.get? label = some kek) : IsKeySize kek.length := by
  rw [(get?_foldlM hSet).2] at h
  rcases h with hEmpty | ⟨e, -, -, hKey⟩
  · simp [KekSet.empty, get?] at hEmpty
  · exact (KekEntry.key_eq_ok_iff.mp hKey).2

end KekSet

/-! ## Envelopes -/

theorem Aes128Key.length_bytes (key : Aes128Key) : key.bytes.length = 16 := key.octets.length_eq

theorem Aes128Key.ofBytes_eq_ok_iff {bs : List UInt8} {key : Aes128Key} :
    Aes128Key.ofBytes bs = .ok key ↔ bs = key.bytes := by
  unfold Aes128Key.ofBytes
  constructor
  · intro h
    split at h
    · cases h
      rfl
    · cases h
  · rintro rfl
    rw [dif_pos key.length_bytes]
    rfl

theorem Aes128Key.ofBytes_of_length_ne {bs : List UInt8} (h : bs.length ≠ 16) :
    Aes128Key.ofBytes bs = .error (.invalidKeyMaterial s!"expected 16 key bytes, got {bs.length}") := by
  rw [Aes128Key.ofBytes, dif_neg h]

/-- The ways that opening an envelope can go, under the key-encryption keys that some entries put under
labels. -/
inductive KeyEnvelope.Opens (entries : List KekEntry) (e : KeyEnvelope) :
    Except CryptoError Aes128Key → Prop
  /-- Without a label the bytes are the key. -/
  | plain {key : Aes128Key} (hLabel : e.kekLabel = "") (hBytes : e.aesKey = key.bytes) :
      Opens entries e (.ok key)
  | plainOfOtherSize (hLabel : e.kekLabel = "") (hSize : e.aesKey.length ≠ 16) :
      Opens entries e (.error (.invalidKeyMaterial s!"expected 16 key bytes, got {e.aesKey.length}"))
  | unknown (hLabel : e.kekLabel ≠ "") (hKek : ∀ kek, ¬Configure entries e.kekLabel kek) :
      Opens entries e (.error (.unknownKek e.kekLabel))
  /-- With a label the bytes are the wrap of the key. -/
  | wrapped {kek : List UInt8} {key : Aes128Key} (hLabel : e.kekLabel ≠ "")
      (hKek : Configure entries e.kekLabel kek) (hKekSize : IsKeySize kek.length)
      (hSize : e.aesKey.length = 24) (hWrap : IsWrap kek key.bytes e.aesKey) :
      Opens entries e (.ok key)
  | wrappedOfOtherSize {kek material : List UInt8} (hLabel : e.kekLabel ≠ "")
      (hKek : Configure entries e.kekLabel kek) (hWrap : IsWrap kek material e.aesKey)
      (hSize : material.length ≠ 16) :
      Opens entries e (.error (.invalidKeyMaterial s!"expected 16 key bytes, got {material.length}"))
  | ragged {kek : List UInt8} (hLabel : e.kekLabel ≠ "") (hKek : Configure entries e.kekLabel kek)
      (hSize : e.aesKey.length = 0 ∨ e.aesKey.length % 8 ≠ 0) :
      Opens entries e (.error (.invalidKeyMaterial raggedDetail))
  /-- The bytes have the length of a wrap and are the wrap of nothing. -/
  | altered {kek : List UInt8} (hLabel : e.kekLabel ≠ "") (hKek : Configure entries e.kekLabel kek)
      (hNonempty : e.aesKey.length ≠ 0) (hSize : e.aesKey.length % 8 = 0)
      (hWrap : ∀ material, ¬IsWrap kek material e.aesKey) :
      Opens entries e (.error .keyUnwrapIntegrity)

namespace KekSet

variable {entries : List KekEntry} {s : KekSet} {e : KeyEnvelope}

theorem resolve_of_label_eq (s : KekSet) (hLabel : e.kekLabel = "") :
    s.resolve e = Aes128Key.ofBytes e.aesKey := by
  rw [resolve, hLabel]
  rfl

theorem resolve_of_get?_eq_none (hLabel : e.kekLabel ≠ "") (hKek : s.get? e.kekLabel = none) :
    s.resolve e = .error (.unknownKek e.kekLabel) := by
  simp [resolve, hLabel, hKek]

theorem resolve_of_get?_eq_some {kek : List UInt8} (hLabel : e.kekLabel ≠ "")
    (hKek : s.get? e.kekLabel = some kek) :
    s.resolve e = Crypto.KeyWrap.unwrap kek e.aesKey >>= Aes128Key.ofBytes := by
  simp [resolve, hLabel, hKek]

/-- An envelope goes as a rule says that holds of it. -/
theorem resolve_of_opens (hSet : ofEntries entries = .ok s) {r : Except CryptoError Aes128Key}
    (h : e.Opens entries r) : s.resolve e = r := by
  -- the cases go by what the service looks at first: the label, the entry, the size, the check
  cases h with
  | plain hLabel hBytes => rw [resolve_of_label_eq s hLabel, Aes128Key.ofBytes_eq_ok_iff.mpr hBytes]
  | plainOfOtherSize hLabel hSize =>
    rw [resolve_of_label_eq s hLabel, Aes128Key.ofBytes_of_length_ne hSize]
  | unknown hLabel hKek =>
    refine resolve_of_get?_eq_none hLabel (Option.eq_none_iff_forall_ne_some.mpr ?_)
    intro kek hHeld
    exact hKek kek ((get?_ofEntries hSet).mp hHeld)
  | wrapped hLabel hKek hKekSize hSize hWrap =>
    rw [resolve_of_get?_eq_some hLabel ((get?_ofEntries hSet).mpr hKek),
      (Crypto.KeyWrap.unwrap_eq_ok_iff hKekSize).mpr hWrap]
    exact Aes128Key.ofBytes_eq_ok_iff.mpr rfl
  | wrappedOfOtherSize hLabel hKek hWrap hSize =>
    have hHeld := (get?_ofEntries hSet).mpr hKek
    rw [resolve_of_get?_eq_some hLabel hHeld,
      (Crypto.KeyWrap.unwrap_eq_ok_iff (isKeySize_of_get? hSet hHeld)).mpr hWrap]
    exact Aes128Key.ofBytes_of_length_ne hSize
  | ragged hLabel hKek hSize =>
    have hHeld := (get?_ofEntries hSet).mpr hKek
    rw [resolve_of_get?_eq_some hLabel hHeld,
      Crypto.KeyWrap.unwrap_of_ragged (isKeySize_of_get? hSet hHeld)
        (hSize.imp_left List.length_eq_zero_iff.mp)]
    rfl
  | altered hLabel hKek hNonempty hSize hWrap =>
    have hHeld := (get?_ofEntries hSet).mpr hKek
    rw [resolve_of_get?_eq_some hLabel hHeld,
      Crypto.KeyWrap.unwrap_of_altered (isKeySize_of_get? hSet hHeld)
        (fun hNil => hNonempty (List.length_eq_zero_iff.mpr hNil)) hSize hWrap]
    rfl

/-- Of a wrap, the material decides: it is the key if it has the size of one. -/
theorem opens_of_isWrap {kek material : List UInt8} (hLabel : e.kekLabel ≠ "")
    (hKek : Configure entries e.kekLabel kek) (hKekSize : IsKeySize kek.length)
    (hWrap : IsWrap kek material e.aesKey) : ∃ r, e.Opens entries r := by
  by_cases hSize : material.length = 16
  · have hLength : e.aesKey.length = 24 := by rw [hWrap.length_eq, hSize]
    have hMaterial : IsWrap kek (⟨⟨material, hSize⟩⟩ : Aes128Key).bytes e.aesKey := hWrap
    exact ⟨_, .wrapped hLabel hKek hKekSize hLength hMaterial⟩
  · exact ⟨_, .wrappedOfOtherSize hLabel hKek hWrap hSize⟩

/-- Some rule holds of every envelope. -/
theorem exists_opens (hSet : ofEntries entries = .ok s) (e : KeyEnvelope) : ∃ r, e.Opens entries r := by
  by_cases hLabel : e.kekLabel = ""
  · by_cases hSize : e.aesKey.length = 16
    · exact ⟨.ok ⟨⟨e.aesKey, hSize⟩⟩, .plain hLabel rfl⟩
    · exact ⟨_, .plainOfOtherSize hLabel hSize⟩
  · by_cases hKek : ∃ kek, Configure entries e.kekLabel kek
    · obtain ⟨kek, hKek⟩ := hKek
      have hKekSize := isKeySize_of_get? hSet ((get?_ofEntries hSet).mpr hKek)
      by_cases hRagged : e.aesKey.length = 0 ∨ e.aesKey.length % 8 ≠ 0
      · exact ⟨_, .ragged hLabel hKek hRagged⟩
      · have hNonempty : e.aesKey.length ≠ 0 := fun h => hRagged (.inl h)
        have hLength : e.aesKey.length % 8 = 0 := by omega
        by_cases hWrap : ∃ material, IsWrap kek material e.aesKey
        · obtain ⟨material, hWrap⟩ := hWrap
          exact opens_of_isWrap hLabel hKek hKekSize hWrap
        · exact ⟨_, .altered hLabel hKek hNonempty hLength (not_exists.mp hWrap)⟩
    · exact ⟨_, .unknown hLabel (not_exists.mp hKek)⟩

/-- What a set makes of an envelope is what the rules say of its entries, never that the cipher takes no
key of that size.  Without a label, the set has no part in it. -/
theorem resolves_by_rule (hSet : ofEntries entries = .ok s) (e : KeyEnvelope) :
    (∀ r, s.resolve e = r ↔ e.Opens entries r) ∧
      (∀ detail, s.resolve e ≠ .error (.cipherInit detail)) ∧
      (e.kekLabel = "" → ∀ other : KekSet, other.resolve e = s.resolve e) := by
  have hRules : ∀ r, s.resolve e = r ↔ e.Opens entries r := by
    intro r
    refine ⟨?_, resolve_of_opens hSet⟩
    rintro rfl
    obtain ⟨r, hRule⟩ := exists_opens hSet e
    rwa [resolve_of_opens hSet hRule]
  refine ⟨hRules, ?_, ?_⟩
  · intro detail h
    cases (hRules _).mp h
  · intro hLabel other
    rw [resolve_of_label_eq other hLabel, resolve_of_label_eq s hLabel]

/-! ### A sample -/

namespace Sample

def entry : KekEntry := ⟨"js-1", "000102030405060708090a0b0c0d0e0f"⟩

def kek : List UInt8 := [0, 1, 2, 3, 4, 5, 6, 7, 8, 9, 10, 11, 12, 13, 14, 15]

/-- A key that travels under the label of the entry. -/
def key : Aes128Key :=
  ⟨⟨[0, 17, 34, 51, 68, 85, 102, 119, 136, 153, 170, 187, 204, 221, 238, 255], rfl⟩⟩

/-- The key as it is wrapped, with the value that it is checked by in front. -/
def wrapped : List UInt8 :=
  [0x1f, 0xa6, 0x8b, 0x0a, 0x81, 0x12, 0xb4, 0x47, 0xae, 0xf3, 0x4b, 0xd8, 0xfb, 0x5a, 0x7b, 0x82,
   0x9d, 0x3e, 0x86, 0x23, 0x71, 0xd2, 0xcf, 0xe5]

end Sample

/-- A wrapped key, the start of one, and a key under a label that is not there. -/
theorem resolves_by_rule_sample :
    ofEntries [Sample.entry] = .ok ⟨[("js-1", Sample.kek)]⟩ ∧
      resolve ⟨[("js-1", Sample.kek)]⟩ ⟨Sample.wrapped, "js-1"⟩ = .ok Sample.key ∧
      resolve ⟨[("js-1", Sample.kek)]⟩ ⟨[0x1f, 0xa6], "js-1"⟩ =
        .error (.invalidKeyMaterial raggedDetail) ∧
      resolve ⟨[("js-1", Sample.kek)]⟩ ⟨Sample.wrapped, "js-9"⟩ = .error (.unknownKek "js-9") := by
  have hText : Hex.decode? Sample.entry.kek = some Sample.kek := by decide +kernel
  have hInsert : empty.insertEntry Sample.entry = .ok ⟨[("js-1", Sample.kek)]⟩ :=
    insertEntry_eq_ok_iff.mpr
      ⟨_, KekEntry.key_eq_ok_iff.mpr ⟨hText, .inl rfl⟩, by decide, rfl, rfl⟩
  have hSet : ofEntries [Sample.entry] = .ok ⟨[("js-1", Sample.kek)]⟩ := by
    rw [ofEntries, List.foldlM_cons, hInsert]
    rfl
  have hKek : Configure [Sample.entry] "js-1" Sample.kek :=
    ⟨Sample.entry, List.mem_singleton_self _, rfl, hText⟩
  have hWrap : IsWrap Sample.kek Sample.key.bytes Sample.wrapped :=
    ⟨[⟨⟨0, 17, 34, 51⟩, ⟨68, 85, 102, 119⟩⟩, ⟨⟨136, 153, 170, 187⟩, ⟨204, 221, 238, 255⟩⟩], rfl,
      by decide +kernel⟩
  have hOther : ∀ kek, ¬Configure [Sample.entry] "js-9" kek := by
    rintro kek ⟨e, he, hLabel, -⟩
    obtain rfl := List.mem_singleton.mp he
    exact absurd hLabel (by decide)
  refine ⟨hSet, ?_, ?_, ?_⟩
  · exact ((resolves_by_rule hSet _).1 _).mpr
      (.wrapped (by decide) hKek (.inl rfl) hWrap.length_eq hWrap)
  · exact ((resolves_by_rule hSet _).1 _).mpr (.ragged (by decide) hKek (.inr (by decide)))
  · exact ((resolves_by_rule hSet _).1 _).mpr (.unknown (by decide) hOther)

end KekSet

end Lorawan
