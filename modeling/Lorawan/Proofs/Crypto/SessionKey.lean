import Lorawan.Crypto.SessionKey
import Lorawan.Proofs.Crypto.Aes
import Mathlib.Data.List.Basic

/-!
# Session keys keep joins apart

The block that the root key encrypts has a place for the kind of key and for every byte that the two sides
of a join agree on, so that different joins, and the two keys of one join, have different blocks
(`JoinParameters.derivationBytes_inj`).  It always is one whole block, which the checks of sizes are there
for (`Aes128Key.checkedSessionKey_eq`); and encryption keeps different blocks apart
(`Aes128Key.deriveSessionKey_inj`).
-/

namespace Lorawan

theorem SessionKeyKind.code_inj {kind kind' : SessionKeyKind} : kind.code = kind'.code ↔ kind = kind' := by
  cases kind <;> cases kind' <;> decide

theorem Octets.toList_inj {n : Nat} {o o' : Octets n} : o.toList = o'.toList ↔ o = o' := by
  obtain ⟨bs, _⟩ := o
  obtain ⟨bs', _⟩ := o'
  simp

namespace JoinParameters

/-- Kind, network and both nonces can be read off the bytes that are encrypted. -/
theorem derivationBytes_inj {kind kind' : SessionKeyKind} {p p' : JoinParameters} :
    p.derivationBytes kind = p'.derivationBytes kind' ↔ kind = kind' ∧ p = p' := by
  constructor
  · intro h
    obtain ⟨netId, appNonce, devNonce⟩ := p
    obtain ⟨netId', appNonce', devNonce'⟩ := p'
    unfold derivationBytes at h
    dsimp only at h
    -- from the end to the start, each field as long as its counterpart
    have hDevLength : devNonce.toList.reverse.length = devNonce'.toList.reverse.length := by
      rw [List.length_reverse, List.length_reverse, devNonce.length_eq, devNonce'.length_eq]
    have hNetLength : netId.bytes.reverse.length = netId'.bytes.reverse.length := by
      rw [List.length_reverse, List.length_reverse, netId.size_eq, netId'.size_eq]
    have h := List.append_cancel_right h
    obtain ⟨h, hDev⟩ := List.append_inj' h hDevLength
    obtain ⟨h, hNet⟩ := List.append_inj' h hNetLength
    obtain ⟨hKind, hApp⟩ := List.cons.inj h
    obtain rfl : kind = kind' := SessionKeyKind.code_inj.mp hKind
    obtain rfl : netId = netId' := Identifier.bytes_injective (List.reverse_inj.mp hNet)
    obtain rfl : appNonce = appNonce' := Octets.toList_inj.mp (List.reverse_inj.mp hApp)
    obtain rfl : devNonce = devNonce' := Octets.toList_inj.mp (List.reverse_inj.mp hDev)
    exact ⟨rfl, rfl⟩
  · rintro ⟨rfl, rfl⟩
    rfl

end JoinParameters

namespace Aes128Key

theorem ofBlock_inj {b b' : Crypto.Block} : ofBlock b = ofBlock b' ↔ b = b' := by
  constructor
  · intro h
    exact Crypto.Block.toBytes_inj.mp (congrArg bytes h)
  · rintro rfl
    rfl

/-- No check of a size ever fails. -/
theorem checkedSessionKey_eq (root : Aes128Key) (kind : SessionKeyKind) (p : JoinParameters) :
    root.checkedSessionKey kind p = .ok (root.deriveSessionKey kind p) := by
  have hBlock := p.length_derivationBytes kind
  have hRoot : root.bytes.length = 16 := root.octets.length_eq
  unfold checkedSessionKey encryptToKey
  rw [if_neg (by omega), if_neg (by omega), ofBytes, dif_pos (Crypto.Block.length_toBytes _)]
  rfl

theorem deriveSessionKey_inj {root : Aes128Key} {kind kind' : SessionKeyKind} {p p' : JoinParameters} :
    root.deriveSessionKey kind p = root.deriveSessionKey kind' p' ↔ kind = kind' ∧ p = p' := by
  unfold deriveSessionKey cipher
  rw [ofBlock_inj, Crypto.Block.encrypt_inj,
    Crypto.Block.ofBytes_inj (p.length_derivationBytes kind) (p'.length_derivationBytes kind'),
    JoinParameters.derivationBytes_inj]

/-- Deriving a session key never fails.  The key is the encryption of one block: the kind of the key, the
nonce of the join server, the network and the nonce of the device, each least significant byte first, and
seven zeros.  Two derivations under one root key agree only in what they were given, and the network key of
a join is the application key of none. -/
theorem derives_apart (root : Aes128Key) :
    (∀ (kind : SessionKeyKind) (p : JoinParameters), ∃ a₀ a₁ a₂ n₀ n₁ n₂ d₀ d₁ : UInt8,
      p.appNonce.toList = [a₀, a₁, a₂] ∧ p.netId.bytes = [n₀, n₁, n₂] ∧ p.devNonce.toList = [d₀, d₁] ∧
      root.checkedSessionKey kind p = .ok (root.deriveSessionKey kind p) ∧
      root.deriveSessionKey kind p = ofBlock (root.cipher (.ofBytes
        [if kind = .network then 1 else 2,
          a₂, a₁, a₀, n₂, n₁, n₀, d₁, d₀, 0, 0, 0, 0, 0, 0, 0]))) ∧
    (∀ (kind kind' : SessionKeyKind) (p p' : JoinParameters),
      root.deriveSessionKey kind p = root.deriveSessionKey kind' p' ↔ kind = kind' ∧ p = p') ∧
    ∀ p p' : JoinParameters, root.deriveNetworkKey p ≠ root.deriveApplicationKey p' := by
  refine ⟨fun kind p => ?_, fun _ _ _ _ => deriveSessionKey_inj, fun p p' h => ?_⟩
  · -- the parts have fixed sizes, so that each byte of the block can be named
    obtain ⟨a₀, a₁, a₂, hApp⟩ := List.length_eq_three.mp p.appNonce.length_eq
    obtain ⟨n₀, n₁, n₂, hNet⟩ := List.length_eq_three.mp p.netId.size_eq
    obtain ⟨d₀, d₁, hDev⟩ := List.length_eq_two.mp p.devNonce.length_eq
    refine ⟨a₀, a₁, a₂, n₀, n₁, n₂, d₀, d₁, hApp, hNet, hDev, checkedSessionKey_eq root kind p, ?_⟩
    rw [deriveSessionKey, JoinParameters.derivationBytes, hApp, hNet, hDev]
    cases kind <;> rfl
  · obtain ⟨hKind, -⟩ := deriveSessionKey_inj.mp h
    cases hKind

end Aes128Key

end Lorawan
