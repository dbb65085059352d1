import Lorawan.Codec.Uplink

/-!
# When decoding is cut short

Of all codecs only the scripts can be cut short, and they are exactly when reading or evaluating the
script is (`UplinkDecoder.ofCodec_eq_abort_iff`): nothing on the way from the evaluation to the decoder
turns an abort into an error.
-/

namespace Lorawan

namespace Attempt

variable {ε δ α β : Type}

theorem bind_eq_abort_iff {x : Attempt ε α} {f : α → Attempt ε β} :
    (x >>= f) = .error .abort ↔ x = .error .abort ∨ ∃ a, x = .ok a ∧ f a = .error .abort := by
  rcases x with (e | _) | a <;> simp [bind, Except.bind]

theorem map_eq_abort_iff {x : Attempt ε α} {f : α → β} :
    f <$> x = .error .abort ↔ x = .error .abort := by
  rcases x with (e | _) | a <;> simp [Functor.map, Except.map]

theorem mapError_eq_abort_iff {x : Attempt ε α} {f : ε → δ} :
    x.mapError f = .error .abort ↔ x = .error .abort := by
  rcases x with (e | _) | a <;> simp [mapError, fail, abort]

theorem mapError_eq_ok_iff {x : Attempt ε α} {f : ε → δ} {a : α} :
    x.mapError f = .ok a ↔ x = .ok a := by
  rcases x with (e | _) | a' <;> simp [mapError, fail, abort]

theorem ofOption_ne_abort {e : ε} {o : Option α} : ofOption e o ≠ .error .abort := by
  cases o <;> simp [ofOption, fail]

theorem ofExcept_ne_abort {x : Except ε α} : ofExcept x ≠ .error .abort := by
  cases x <;> simp [ofExcept, fail]

end Attempt

/-- Whether reading a script, or evaluating what it was read as, is cut short. -/
def Script.Aborts (script : String) (port : UInt8) (payload : List UInt8) : Prop :=
  Script.Expr.parse script = .error .abort ∨
    ∃ e, Script.Expr.parse script = .ok e ∧
      e.eval (Script.payloadScope port payload) = .error .abort

theorem Script.decode_eq_abort_iff {script : String} {port : UInt8} {payload : List UInt8} :
    Script.decode script port payload = .error .abort ↔ Script.Aborts script port payload := by
  unfold Script.decode Script.Aborts
  rw [Attempt.bind_eq_abort_iff, Attempt.mapError_eq_abort_iff]
  refine or_congr Iff.rfl (exists_congr fun e => ?_)
  rw [Attempt.mapError_eq_ok_iff, Attempt.bind_eq_abort_iff, Attempt.mapError_eq_abort_iff]
  -- a value that is no JSON is an error, not an abort
  have hValue : ¬∃ v, (e.eval (Script.payloadScope port payload)).mapError
      (fun cause => PayloadError.scriptExecution cause.message) = .ok v ∧
        Attempt.ofOption PayloadError.invalidJsonOutput v.toJson? = .error .abort := by
    rintro ⟨v, -, hAbort⟩
    exact Attempt.ofOption_ne_abort hAbort
  rw [or_iff_left hValue]

/-- A script that divides by zero is cut short on every payload. -/
theorem Script.aborts_division (port : UInt8) (payload : List UInt8) :
    Script.Aborts "1 / 0" port payload := by
  have hParse : Script.Expr.parse "1 / 0" =
      .ok (.arithmetic (.literal (.int 1)) .divide (.literal (.int 0))) := rfl
  exact Or.inr ⟨_, hParse, rfl⟩

/-- Whether a codec is a script that is cut short. -/
def PayloadCodec.Aborts (codec : PayloadCodec) (port : UInt8) (payload : List UInt8) : Prop :=
  ∃ encoder decoder, codec = .customScript encoder decoder ∧ Script.Aborts decoder port payload

theorem PayloadCodec.decode_eq_abort_iff {codec : PayloadCodec} {port : UInt8}
    {payload : List UInt8} :
    codec.decode port payload = .error .abort ↔ codec.Aborts port payload := by
  unfold PayloadCodec.Aborts
  cases codec with
  | none => simp [PayloadCodec.decode]
  | cayenneLpp =>
    rw [PayloadCodec.decode, Attempt.map_eq_abort_iff]
    simp [Attempt.ofExcept_ne_abort]
  | customScript encoder decoder =>
    rw [PayloadCodec.decode, Attempt.map_eq_abort_iff, Script.decode_eq_abort_iff]
    constructor
    · intro h
      exact ⟨encoder, decoder, rfl, h⟩
    · rintro ⟨_, _, hCodec, h⟩
      cases hCodec
      exact h

theorem UplinkDecoder.ofCodec_eq_abort_iff {codec : PayloadCodec} {port : UInt8}
    {payload : List UInt8} :
    UplinkDecoder.ofCodec codec port payload = .error .abort ↔ codec.Aborts port payload := by
  unfold UplinkDecoder.ofCodec
  rw [Attempt.mapError_eq_abort_iff, PayloadCodec.decode_eq_abort_iff]

end Lorawan
