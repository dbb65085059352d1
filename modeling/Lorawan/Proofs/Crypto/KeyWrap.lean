import Mathlib.Tactic.SplitIfs
import Lorawan.Crypto.KeyWrap
import Lorawan.Proofs.Crypto.Aes

/-!
# Wrapping and unwrapping

Unwrapping runs the steps of wrapping backwards, under the same numbers, so each undoes the other: a step
because the cipher and the number are undone, a pass because its steps are, and the six passes because
the number of halves, on which the numbering rests, never changes.  A byte string is therefore a wrap of
at most one key material, and of none exactly when the check value does not come out.

* `unwind_wrap`, `wrap_unwind`: on check value and halves, the two undo each other.
* `unwrap_eq_ok_iff`: what unwrapping accepts is what wrapping produces.
* `unwrap_of_ragged`, `unwrap_of_altered`: how it refuses everything else.
-/

namespace Lorawan.Crypto

/-! ## Halves as bytes -/

namespace Half

theorem length_toBytes (h : Half) : h.toBytes.length = 8 := rfl

theorem length_flatMap_toBytes (halves : List Half) :
    (halves.flatMap toBytes).length = 8 * halves.length := by
  induction halves with
  | nil => rfl
  | cons h rest ih =>
    rw [List.flatMap_cons, List.length_append, length_toBytes, ih, List.length_cons]
    omega

theorem ofBytes?_flatMap_toBytes (halves : List Half) :
    ofBytes? (halves.flatMap toBytes) = some halves := by
  induction halves with
  | nil => rfl
  | cons h rest ih =>
    show (ofBytes? (rest.flatMap toBytes)).map (h :: ·) = some (h :: rest)
    rw [ih]
    rfl

theorem eq_flatMap_of_ofBytes? {bs : List UInt8} {halves : List Half} (h : ofBytes? bs = some halves) :
    bs = halves.flatMap toBytes := by
  fun_induction ofBytes? bs generalizing halves with
  | case1 => cases h; rfl
  | case2 a b c d e f g i rest ih =>
    obtain ⟨halves', hRest, rfl⟩ := Option.map_eq_some_iff.mp h
    rw [ih hRest]
    rfl
  | case3 => cases h

theorem exists_ofBytes? {bs : List UInt8} (h : bs.length % 8 = 0) : ∃ halves, ofBytes? bs = some halves := by
  fun_induction ofBytes? bs with
  | case1 => exact ⟨[], rfl⟩
  | case2 a b c d e f g i rest ih =>
    have hRest : rest.length % 8 = 0 := by
      simp only [List.length_cons] at h
      omega
    obtain ⟨halves, hHalves⟩ := ih hRest
    exact ⟨_, by rw [hHalves]; rfl⟩
  | case3 bs hNil hLong =>
    -- fewer than eight bytes, and not none
    exfalso
    match bs with
    | [] => exact hNil rfl
    | [_] | [_, _] | [_, _, _] | [_, _, _, _] | [_, _, _, _, _] | [_, _, _, _, _, _]
    | [_, _, _, _, _, _, _] => simp at h
    | _ :: _ :: _ :: _ :: _ :: _ :: _ :: _ :: _ => exact hLong _ _ _ _ _ _ _ _ _ rfl

end Half

namespace KeyWrap

/-! ## Steps and passes -/

section Passes

variable {cipher decipher : Block → Block}

theorem unwrapStep_wrapStep (h : ∀ b, decipher (cipher b) = b) (t : Nat) (check half : Half) :
    unwrapStep decipher t (wrapStep cipher t check half).1 (wrapStep cipher t check half).2 =
      (check, half) := by
  unfold unwrapStep wrapStep
  dsimp only
  rw [Half.xor_xor_cancel, h]

theorem wrapStep_unwrapStep (h : ∀ b, cipher (decipher b) = b) (t : Nat) (check half : Half) :
    wrapStep cipher t (unwrapStep decipher t check half).1 (unwrapStep decipher t check half).2 =
      (check, half) := by
  unfold unwrapStep wrapStep
  dsimp only
  rw [h, Half.xor_xor_cancel]

theorem length_wrapPass (t : Nat) (check : Half) (halves : List Half) :
    (wrapPass cipher t check halves).halves.length = halves.length := by
  induction halves generalizing t check with
  | nil => rfl
  | cons half rest ih => rw [wrapPass, List.length_cons, List.length_cons, ih]

theorem length_unwrapPass (t : Nat) (check : Half) (halves : List Half) :
    (unwrapPass decipher t check halves).halves.length = halves.length := by
  induction halves generalizing t check with
  | nil => rfl
  | cons half rest ih => rw [unwrapPass, List.length_cons, List.length_cons, ih]

/-- The last step of a pass is undone first, the induction being on the halves in their order. -/
theorem unwrapPass_wrapPass (h : ∀ b, decipher (cipher b) = b) (t : Nat) (check : Half)
    (halves : List Half) :
    unwrapPass decipher t (wrapPass cipher t check halves).check
      (wrapPass cipher t check halves).halves = ⟨check, halves⟩ := by
  induction halves generalizing t check with
  | nil => rfl
  | cons half rest ih => rw [wrapPass, unwrapPass, ih, unwrapStep_wrapStep h]

theorem wrapPass_unwrapPass (h : ∀ b, cipher (decipher b) = b) (t : Nat) (check : Half)
    (halves : List Half) :
    wrapPass cipher t (unwrapPass decipher t check halves).check
      (unwrapPass decipher t check halves).halves = ⟨check, halves⟩ := by
  induction halves generalizing t check with
  | nil => rfl
  | cons half rest ih =>
    rw [unwrapPass, wrapPass, wrapStep_unwrapStep h]
    dsimp only
    rw [ih]

/-! ## All passes -/

theorem length_wrap (material : List Half) : (wrap cipher material).halves.length = material.length := by
  unfold wrap
  -- in every state on the way, not only in the last
  refine List.foldlRecOn (motive := fun s : State => s.halves.length = material.length) _ _ rfl ?_
  intro s hs t _
  rw [length_wrapPass, hs]

theorem length_unwind (s : State) : (unwind decipher s).halves.length = s.halves.length := by
  unfold unwind
  refine List.foldrRecOn (motive := fun s' : State => s'.halves.length = s.halves.length) _ _ rfl ?_
  intro s' hs' t _
  rw [length_unwrapPass, hs']

theorem unwind_wrap (h : ∀ b, decipher (cipher b) = b) (material : List Half) :
    unwind decipher (wrap cipher material) = ⟨initialCheck, material⟩ := by
  rw [unwind, length_wrap, wrap]
  exact foldr_foldl_cancel (fun t s => unwrapPass_wrapPass h t s.check s.halves) _ _

theorem wrap_unwind (h : ∀ b, cipher (decipher b) = b) {s : State}
    (hCheck : (unwind decipher s).check = initialCheck) :
    wrap cipher (unwind decipher s).halves = s := by
  have hStart : (⟨initialCheck, (unwind decipher s).halves⟩ : State) = unwind decipher s := by
    rw [← hCheck]
  rw [wrap, hStart, length_unwind, unwind]
  exact foldl_foldr_cancel (fun t s => wrapPass_unwrapPass h t s.check s.halves) _ _

end Passes

/-! ## Wrapped keys -/

/-- Whether a byte string is the standard wrap of some key material under a key-encryption key. -/
def IsWrap (kek material wrapped : List UInt8) : Prop :=
  ∃ halves : List Half, material = halves.flatMap Half.toBytes ∧
    wrapped = (wrap (Block.encrypt (.ofKey kek)) halves).toBytes

variable {kek material wrapped : List UInt8}

theorem toBytes_eq_flatMap (s : State) : s.toBytes = (s.check :: s.halves).flatMap Half.toBytes := rfl

/-- The check value is put in front. -/
theorem IsWrap.length_eq (h : IsWrap kek material wrapped) : wrapped.length = material.length + 8 := by
  obtain ⟨halves, rfl, rfl⟩ := h
  rw [toBytes_eq_flatMap, Half.length_flatMap_toBytes, Half.length_flatMap_toBytes, List.length_cons,
    length_wrap]
  omega

theorem unwrap_eq_ok_iff (hKek : IsKeySize kek.length) :
    unwrap kek wrapped = .ok material ↔ IsWrap kek material wrapped := by
  unfold unwrap
  rw [if_pos hKek]
  constructor
  · intro h
    split at h
    · rename_i check halves hHalves
      dsimp only at h
      split_ifs at h with hCheck
      cases h
      -- wrapping goes back the way unwrapping came, if the check value has come out
      refine ⟨_, rfl, ?_⟩
      rw [wrap_unwind (Block.encrypt_decrypt _) hCheck]
      exact Half.eq_flatMap_of_ofBytes? hHalves
    · cases h
  · rintro ⟨halves, rfl, rfl⟩
    rw [toBytes_eq_flatMap, Half.ofBytes?_flatMap_toBytes]
    dsimp only
    rw [unwind_wrap (Block.decrypt_encrypt _), if_pos rfl]

theorem unwrap_of_ragged (hKek : IsKeySize kek.length) (h : wrapped = [] ∨ wrapped.length % 8 ≠ 0) :
    unwrap kek wrapped = .error (.invalidKeyMaterial raggedDetail) := by
  unfold unwrap
  rw [if_pos hKek]
  split
  · rename_i check halves hHalves
    have hBytes := Half.eq_flatMap_of_ofBytes? hHalves
    have hLength := Half.length_flatMap_toBytes (check :: halves)
    rw [← hBytes, List.length_cons] at hLength
    rcases h with rfl | h
    · simp at hLength
    · omega
  · rfl

/-- Of a byte string of the right length that is no wrap, the check value does not come out. -/
theorem unwrap_of_altered (hKek : IsKeySize kek.length) (hNonempty : wrapped ≠ [])
    (hLength : wrapped.length % 8 = 0) (h : ∀ material, ¬IsWrap kek material wrapped) :
    unwrap kek wrapped = .error .keyUnwrapIntegrity := by
  obtain ⟨halves, hHalves⟩ := Half.exists_ofBytes? hLength
  cases hOutcome : unwrap kek wrapped with
  | ok material => exact absurd ((unwrap_eq_ok_iff hKek).mp hOutcome) (h material)
  | error e =>
    rw [unwrap, if_pos hKek, hHalves] at hOutcome
    cases halves with
    | nil => exact absurd (Half.eq_flatMap_of_ofBytes? hHalves) hNonempty
    | cons check halves =>
      dsimp only at hOutcome
      split_ifs at hOutcome
      exact hOutcome.symm

end KeyWrap

end Lorawan.Crypto
