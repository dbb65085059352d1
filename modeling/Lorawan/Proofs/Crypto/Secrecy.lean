import Mathlib.Data.List.Forall2
import Lorawan.Proofs.Crypto.KekEntries

/-!
# What errors and descriptions tell of keys

No error of the key-encryption keys and no description of them shows a byte of a key.  That is a law about
two inputs that differ in their keys only: what is told of one is told of the other.

* `KekSet.resolve_eq_error`, `KekSet.error_eq_of_resolve`: an envelope that gives no key is told a text that
  its label and the sizes of the keys decide, unless it is the check value that did not come out.
* `KekSet.labels_ofEntries`, `KekSet.labels_loadInSteps`: two lists of entries whose keys have one size, where
  they are keys at all, end with one error, or both make sets with the same labels.
* `KekEntry.describe_congr`, `KeyEnvelope.describe_congr`: descriptions.
-/

namespace Lorawan

open Crypto.KeyWrap (IsKeySize IsWrap raggedDetail)

/-! ## Envelopes that give no key -/

namespace KekSet

/-- What is told of an envelope with this label and so many bytes that gives no key, where the
key-encryption key under the label has so many bytes, unless the check value does not come out. -/
def refusal (label : String) (size : Nat) (kekSize : Option Nat) : CryptoError :=
  if label = "" then .invalidKeyMaterial s!"expected 16 key bytes, got {size}"
  else
    match kekSize with
    | none => .unknownKek label
    | some n =>
      if ¬IsKeySize n then .cipherInit s!"invalid kek length: {n} bytes"
      else if size = 0 ∨ size % 8 ≠ 0 then .invalidKeyMaterial raggedDetail
      else .invalidKeyMaterial s!"expected 16 key bytes, got {size - 8}"

/-- How many bytes the key of a label has. -/
def sizeOf? (s : KekSet) (label : String) : Option Nat := (s.get? label).map List.length

variable {s s' : KekSet} {e e' : KeyEnvelope} {c c' : CryptoError}

theorem ofBytes_eq_error {bs : List UInt8} (h : Aes128Key.ofBytes bs = .error c) :
    c = .invalidKeyMaterial s!"expected 16 key bytes, got {bs.length}" := by
  unfold Aes128Key.ofBytes at h
  split at h
  · cases h
  · exact (Except.error.inj h).symm

/-- What is told of an envelope whose label has a key. -/
theorem resolve_eq_error_of_get? {kek : List UInt8} (hLabel : e.kekLabel ≠ "")
    (hKek : s.get? e.kekLabel = some kek) (h : s.resolve e = .error c) :
    c = .keyUnwrapIntegrity ∨ c = refusal e.kekLabel e.aesKey.length (some kek.length) := by
  rw [resolve_of_get?_eq_some hLabel hKek] at h
  rw [refusal, if_neg hLabel]
  -- refusals in the order of the checks; all but the last one are known from the sizes
  by_cases hSize : IsKeySize kek.length
  · rw [if_neg (not_not.mpr hSize)]
    by_cases hRagged : e.aesKey.length = 0 ∨ e.aesKey.length % 8 ≠ 0
    · rw [Crypto.KeyWrap.unwrap_of_ragged hSize (hRagged.imp_left List.length_eq_zero_iff.mp)] at h
      rw [if_pos hRagged]
      exact .inr (Except.error.inj h).symm
    · rw [if_neg hRagged]
      by_cases hWrap : ∃ material, IsWrap kek material e.aesKey
      · -- the wrap is sound, so it is the size of the material that is wrong
        obtain ⟨material, hWrap⟩ := hWrap
        rw [(Crypto.KeyWrap.unwrap_eq_ok_iff hSize).mpr hWrap] at h
        have hMaterial : material.length = e.aesKey.length - 8 := by rw [hWrap.length_eq]; omega
        exact .inr (hMaterial ▸ ofBytes_eq_error h)
      · have hNonempty : e.aesKey ≠ [] := fun hNil => hRagged (.inl (List.length_eq_zero_iff.mpr hNil))
        rw [Crypto.KeyWrap.unwrap_of_altered hSize hNonempty (by omega) (not_exists.mp hWrap)] at h
        exact .inl (Except.error.inj h).symm
  · rw [Crypto.KeyWrap.unwrap, if_neg hSize] at h
    rw [if_pos hSize]
    exact .inr (Except.error.inj h).symm

/-- Whatever the bytes of the keys are, an envelope that gives no key is told one of two things. -/
theorem resolve_eq_error (h : s.resolve e = .error c) :
    c = .keyUnwrapIntegrity ∨ c = refusal e.kekLabel e.aesKey.length (s.sizeOf? e.kekLabel) := by
  by_cases hLabel : e.kekLabel = ""
  · rw [resolve_of_label_eq s hLabel] at h
    rw [refusal.eq_def, if_pos hLabel]
    exact .inr (ofBytes_eq_error h)
  · rw [sizeOf?]
    cases hKek : s.get? e.kekLabel with
    | none =>
      rw [resolve_of_get?_eq_none hLabel hKek] at h
      rw [Option.map_none, refusal, if_neg hLabel]
      exact .inr (Except.error.inj h).symm
    | some kek => exact resolve_eq_error_of_get? hLabel hKek h

theorem refusal_ctorIdx_ne (label : String) (size : Nat) (kekSize : Option Nat) :
    (refusal label size kekSize).ctorIdx ≠ CryptoError.keyUnwrapIntegrity.ctorIdx := by
  unfold refusal
  split
  · exact nofun
  · split
    · exact nofun
    · split
      · exact nofun
      · split <;> exact nofun

/-- Two errors of one kind are the same where the labels are and all sizes. -/
theorem error_eq_of_resolve (hLabel : e.kekLabel = e'.kekLabel)
    (hSize : e.aesKey.length = e'.aesKey.length) (hKek : s.sizeOf? e.kekLabel = s'.sizeOf? e.kekLabel)
    (h : s.resolve e = .error c) (h' : s'.resolve e' = .error c') (hKind : c.ctorIdx = c'.ctorIdx) :
    c = c' := by
  have hSame := resolve_eq_error h'
  rw [← hLabel, ← hSize, ← hKek] at hSame
  rcases resolve_eq_error h with rfl | rfl <;> rcases hSame with rfl | rfl
  · rfl
  · exact absurd hKind.symm (refusal_ctorIdx_ne _ _ _)
  · exact absurd hKind (refusal_ctorIdx_ne _ _ _)
  · rfl

end KekSet

/-! ## Lists of entries -/

/-- Whether two entries have one label, and texts of one length for keys, both of them hexadecimal or
neither. -/
structure KekEntry.Alike (e e' : KekEntry) : Prop where
  label : e.label = e'.label
  length : e.kek.length = e'.kek.length
  isHex : (∃ bs, Hex.Writes e.kek bs) ↔ ∃ bs, Hex.Writes e'.kek bs

namespace KekEntry

variable {e e' : KekEntry}

/-- Alike entries both have a key, or the same is told of both. -/
theorem Alike.key_cases (h : e.Alike e') :
    (∃ kek kek', e.key = .ok kek ∧ e'.key = .ok kek') ∨
      ∃ detail, e.key = .error detail ∧ e'.key = .error detail := by
  have hHex := h.isHex
  simp only [← Hex.decode?_eq_some_iff] at hHex
  unfold key
  cases hBytes : Hex.decode? e.kek with
  | none =>
    cases hBytes' : Hex.decode? e'.kek with
    | none => exact .inr ⟨_, rfl, rfl⟩
    | some bs' =>
      obtain ⟨bs, hSome⟩ := hHex.mpr ⟨bs', hBytes'⟩
      rw [hBytes] at hSome
      cases hSome
  | some bs =>
    obtain ⟨bs', hBytes'⟩ := hHex.mp ⟨bs, hBytes⟩
    -- texts of one length have one number of bytes
    have hLength := (Hex.decode?_eq_some_iff.mp hBytes).length_eq
    have hLength' := (Hex.decode?_eq_some_iff.mp hBytes').length_eq
    have hSize : bs'.length = bs.length := by
      have hText := h.length
      omega
    rw [hBytes']
    dsimp only
    rw [hSize]
    split
    · exact .inl ⟨bs, bs', rfl, rfl⟩
    · exact .inr ⟨_, rfl, rfl⟩

theorem Alike.faults_eq (h : e.Alike e') : e.faults = e'.faults := by
  rw [faults, faults, h.label]
  obtain ⟨kek, kek', hKey, hKey'⟩ | ⟨detail, hKey, hKey'⟩ := h.key_cases
  · rw [hKey, hKey']
  · rw [hKey, hKey']

end KekEntry

namespace KekSet

/-- The labels of a set. -/
def labels (s : KekSet) : List String := s.keys.map Prod.fst

theorem isSome_get?_iff {s : KekSet} {label : String} : (s.get? label).isSome ↔ label ∈ s.labels := by
  rw [Option.isSome_iff_ne_none, ne_eq, get?, List.lookup_eq_none_iff, labels, List.mem_map]
  simp only [bne_iff_ne, ne_comm (a := label), ne_eq, not_forall, not_not, exists_prop]

/-- What becomes of sets with the same labels when alike entries are added: the same error, or the same
labels. -/
theorem labels_insertEntry {s s' : KekSet} {e e' : KekEntry} (hLabels : s.labels = s'.labels)
    (h : e.Alike e') : (s.insertEntry e).map labels = (s'.insertEntry e').map labels := by
  have hTaken : (s.get? e.label).isSome = (s'.get? e'.label).isSome := by
    rw [Bool.eq_iff_iff, isSome_get?_iff, isSome_get?_iff, hLabels, h.label]
  -- with the same labels taken, both entries are refused and told the same, or both are added
  unfold insertEntry
  rw [h.faults_eq, hTaken, h.label]
  obtain ⟨kek, kek', hKey, hKey'⟩ | ⟨detail, hKey, hKey'⟩ := h.key_cases
  · rw [hKey, hKey']
    cases e'.faults with
    | nil =>
      dsimp only
      split
      · rfl
      · have hMore : labels ⟨s.keys ++ [(e'.label, kek)]⟩ = labels ⟨s'.keys ++ [(e'.label, kek')]⟩ := by
          rw [labels, labels, List.map_append, List.map_append]
          exact congrArg (· ++ [e'.label]) hLabels
        exact congrArg Except.ok hMore
    | cons fault rest => rfl
  · rw [hKey, hKey']

theorem labels_foldlM {entries entries' : List KekEntry} (h : List.Forall₂ KekEntry.Alike entries entries')
    {s s' : KekSet} (hLabels : s.labels = s'.labels) :
    (entries.foldlM insertEntry s).map labels = (entries'.foldlM insertEntry s').map labels := by
  induction h generalizing s s' with
  | nil => exact congrArg Except.ok hLabels
  | @cons e e' entries entries' hFirst _ ih =>
    -- the first entries stop both runs with one error, or leave sets with the same labels
    have hStep := labels_insertEntry hLabels hFirst
    rw [List.foldlM_cons, List.foldlM_cons]
    cases hSet : s.insertEntry e with
    | error err =>
      cases hSet' : s'.insertEntry e' with
      | error err' =>
        rw [hSet, hSet'] at hStep
        exact congrArg Except.error (Except.error.inj hStep)
      | ok t' => rw [hSet, hSet'] at hStep; cases hStep
    | ok t =>
      cases hSet' : s'.insertEntry e' with
      | error err' => rw [hSet, hSet'] at hStep; cases hStep
      | ok t' =>
        rw [hSet, hSet'] at hStep
        exact ih (Except.ok.inj hStep)

/-- Alike entries are refused with one error, or make sets with the same labels. -/
theorem labels_ofEntries {entries entries' : List KekEntry}
    (h : List.Forall₂ KekEntry.Alike entries entries') :
    (ofEntries entries).map labels = (ofEntries entries').map labels :=
  labels_foldlM h rfl

/-- So it is where each text is read twice, whatever the second reading would tell of a text. -/
theorem labels_loadInSteps {entries entries' : List KekEntry}
    (h : List.Forall₂ KekEntry.Alike entries entries') (detail detail' : String → String) :
    (loadInSteps detail entries).map labels = (loadInSteps detail' entries').map labels := by
  have hSteps : ∀ detail entries, (loadInSteps detail entries).map labels =
      ((ofEntries entries).map labels).mapError KekSetError.toServiceError := by
    intro detail entries
    rw [loadInSteps, foldlM_addInSteps_eq, ofEntries]
    cases entries.foldlM insertEntry empty <;> rfl
  rw [hSteps, hSteps, labels_ofEntries h]

end KekSet

/-! ## Descriptions -/

theorem KekEntry.describe_congr {e e' : KekEntry} (h : e.label = e'.label) : e.describe = e'.describe := by
  unfold describe
  rw [h]

theorem KeyEnvelope.describe_congr {e e' : KeyEnvelope} (hLabel : e.kekLabel = e'.kekLabel)
    (hSize : e.aesKey.length = e'.aesKey.length) : e.describe = e'.describe := by
  unfold describe
  rw [hLabel, hSize]

end Lorawan
