import Lorawan.Codec.Uplink
import Lorawan.Proofs.Codec.Payload

/-!
# Built-in decoding from a script

A script can hand the payload to the built-in decoder.  What it then gives is what an application without
a script would get: the document goes through a value of the script and comes back unchanged, because
documents of payloads are proper (`Cayenne.decode_isProper`) and proper documents do
(`Script.Value.toJson?_ofJson`).  A payload that the built-in decoder refuses makes the script fail, with
an error that quotes the refusal.

* `PayloadCodec.decodes_alike_from_script`: documents survive a script, and so the two ways of decoding
  agree on every payload and port.
-/

namespace Lorawan

namespace Script

/-- The script that hands the payload to the built-in decoder. -/
def builtinScript : String := "cayenne_lpp_decode(input)"

/-- The call of a function on a variable. -/
def callOn (function argument : String) : Expr := .call function none [.name argument]

/-- Whether a script was read as the call of a function on a variable. -/
def isCallOn (function argument : String) : Attempt SyntaxFault Expr → Bool
  | .ok (.call f none [.name x]) => f == function && x == argument
  | _ => false

theorem eq_callOn {function argument : String} {read : Attempt SyntaxFault Expr}
    (h : isCallOn function argument read = true) : read = .ok (callOn function argument) := by
  unfold isCallOn at h
  split at h
  · rw [Bool.and_eq_true, beq_iff_eq, beq_iff_eq] at h
    rw [callOn, h.1, h.2]
  · cases h

/-- The call that the script is read as. -/
def builtinCall : Expr := callOn Call.payloadFunction "input"

theorem parse_builtinScript : Expr.parse builtinScript = .ok builtinCall :=
  eq_callOn (by decide +kernel)

theorem function?_payloadFunction : function? Call.payloadFunction = some Call.decodePayload := rfl

/-- The call has the decoder's document as its value, or fails as the decoder does. -/
theorem eval_builtinCall (port : UInt8) (payload : List UInt8) :
    builtinCall.eval (payloadScope port payload) =
      match Cayenne.decode payload with
      | .ok j => .ok (.ofJson j)
      | .error e => .fail (.function Call.payloadFunction e.message) := by
  rw [builtinCall, callOn, Expr.eval, function?_payloadFunction]
  rfl

/-- The script gives the decoder's document as it is, or fails with an error that quotes the decoder's. -/
theorem decode_builtinScript (port : UInt8) (payload : List UInt8) :
    decode builtinScript port payload =
      match Cayenne.decode payload with
      | .ok j => .ok j
      | .error e =>
        .fail (.scriptExecution (ScriptError.function Call.payloadFunction e.message).message) := by
  unfold decode
  rw [parse_builtinScript]
  change ((builtinCall.eval (payloadScope port payload)).mapError _ >>= fun v =>
    Attempt.ofOption PayloadError.invalidJsonOutput v.toJson?) = _
  rw [eval_builtinCall]
  cases hDecode : Cayenne.decode payload with
  | ok j =>
    -- of an improper document the script might give another one, or none
    have hBack : (Value.ofJson j).toJson? = some j :=
      Value.toJson?_ofJson (Cayenne.decode_isProper hDecode)
    change Attempt.ofOption PayloadError.invalidJsonOutput (Value.ofJson j).toJson? = .ok j
    rw [hBack]
    rfl
  | error e => rfl

end Script

open Script

/-- Every proper document comes back from a script as it was, and up to the order of members where a map
has its entries in another order.  So on every payload and port the script that calls the built-in decoder
gives what that decoder gives, a proper document, and fails with its error when it fails. -/
theorem PayloadCodec.decodes_alike_from_script {document : Json} (hProper : document.IsProper) :
    (Value.ofJson document).toJson? = some document ∧
    (∀ v, (Value.ofJson document).Same v → ∃ back, v.toJson? = some back ∧ document.Same back) ∧
    ∀ (encoder : String) (port : UInt8) (payload : List UInt8),
      (∀ object, cayenneLpp.decode port payload = .ok object →
        (customScript encoder builtinScript).decode port payload = .ok object ∧
          ∃ j, object = some j ∧ j.IsProper) ∧
      (∀ halt, cayenneLpp.decode port payload = .error halt →
        ∃ e, halt = .error e ∧ (customScript encoder builtinScript).decode port payload =
          .fail (.scriptExecution (ScriptError.function Call.payloadFunction e.message).message)) := by
  refine ⟨Value.toJson?_ofJson hProper, Value.exists_toJson?_of_same hProper, ?_⟩
  intro encoder port payload
  -- both codecs go by what the decoder gives
  have hScript := decode_builtinScript port payload
  cases hDecode : Cayenne.decode payload with
  | ok j =>
    rw [hDecode] at hScript
    constructor
    · intro object hObject
      rw [PayloadCodec.decode, hDecode] at hObject
      cases hObject
      refine ⟨?_, j, rfl, Cayenne.decode_isProper hDecode⟩
      rw [PayloadCodec.decode, hScript]
      rfl
    · intro halt hHalt
      rw [PayloadCodec.decode, hDecode] at hHalt
      cases hHalt
  | error e =>
    rw [hDecode] at hScript
    constructor
    · intro object hObject
      rw [PayloadCodec.decode, hDecode] at hObject
      cases hObject
    · intro halt hHalt
      rw [PayloadCodec.decode, hDecode] at hHalt
      cases hHalt
      refine ⟨e, rfl, ?_⟩
      rw [PayloadCodec.decode, hScript]
      rfl

/-- The outermost integers of 64 bits stand next to a double in an array inside an object, and a digital
input is decoded on port 1. -/
theorem PayloadCodec.decodes_alike_from_script_sample :
    let document : Json := .object
      [("numbers", .array [.int (-2 ^ 63), .int (2 ^ 64 - 1), .float 0.5]), ("none", .null)]
    (Value.ofJson document).toJson? = some document ∧
      (customScript "" builtinScript).decode 1 [3, 0, 7] =
        .ok (some (.object [("digital_input_3", .int 7)])) := by
  intro document
  have hNumbers : (Json.array [.int (-2 ^ 63), .int (2 ^ 64 - 1), .float 0.5]).IsProper := by
    refine .array fun j hj => ?_
    simp only [List.mem_cons, List.not_mem_nil, or_false] at hj
    rcases hj with rfl | rfl | rfl
    · exact .int (by decide) (by decide)
    · exact .int (by decide) (by decide)
    · exact .float (by decide +kernel)
  have hProper : document.IsProper := by
    refine .object (by decide) fun m hm => ?_
    simp only [List.mem_cons, List.not_mem_nil, or_false] at hm
    rcases hm with rfl | rfl
    · exact hNumbers
    · exact .null
  obtain ⟨hBack, -, hAlike⟩ := PayloadCodec.decodes_alike_from_script hProper
  have hInput : cayenneLpp.decode 1 [3, 0, 7] = .ok (some (.object [("digital_input_3", .int 7)])) := by
    cbv
  exact ⟨hBack, ((hAlike "" 1 [3, 0, 7]).1 _ hInput).1⟩

end Lorawan
