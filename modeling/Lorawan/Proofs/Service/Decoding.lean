import Lorawan.Proofs.Codec.Abort
import Lorawan.Proofs.Service.Delivery

/-!
# Decoding within an uplink

A codec is meant never to stand in the way of a payload: what it cannot decode is reported, and the raw
bytes are delivered all the same.  This holds of every codec that returns.  A script that is cut short
takes the uplink with it: after the approach nothing is logged and nothing sent
(`delivers_unless_codec_aborts`).
-/

namespace Lorawan.Service

variable {σ : Type} {k : Conditions σ} {keks : KekSet} {r : UplinkRequest} {w v : World σ}
  {l : Located} {data : List UInt8}

/-- Whether these are the effects of reporting what a decoder has made of a payload: an error is logged
and sent, and else there is nothing to report. -/
def Reports (l : Located) (fCnt : UInt32) :
    Attempt ServiceError (Option Json) → List Effect → Prop
  | .error (.error e), effects => ∃ logged sent, effects =
    [.logged l.device.devEui (.ofNotification (codecFault l.device l.application fCnt e)) logged,
      .sent (codecFault l.device l.application fCnt e) sent]
  | _, effects => effects = []

theorem reports_decodePayload {decoder : UplinkDecoder} {es : List Exchange}
    {o : Option (Except ServiceError (Option Json))}
    (h : (decodePayload decoder l.device l.application r.fCnt r.fPort data).Ends es o) :
    Reports l r.fCnt (decoder l.application.codec r.fPort data) (es.filterMap Exchange.effect?) := by
  rcases decodePayload_cases h with ⟨object, hObject, rfl, -⟩ | ⟨e, logged, sent, hError, rfl, -⟩ |
    ⟨hAbort, rfl, -⟩
  · rw [hObject]
    rfl
  · rw [hError]
    exact ⟨logged.isOk, sent.isOk, rfl⟩
  · rw [hAbort]
    rfl

/-- A handover ends where its codec is cut short. -/
theorem run_handover_of_aborts
    (hData : FramePayload.decryptUplink l.session.appSKey l.session.devAddr r.fCnt r.data = .ok data)
    (hAborts : l.application.codec.Aborts r.fPort data) :
    v.run k (handover .ofCodec r l).program = (none, v) := by
  have hDecoder := UplinkDecoder.ofCodec_eq_abort_iff.mpr hAborts
  obtain ⟨es, hEnds, hPlays⟩ := World.exists_plays k (handover .ofCodec r l).program v
  rcases handover_cases hData hEnds with ⟨report, object, -, -, -, hReport, -⟩ | ⟨-, rfl, hNone⟩
  · rcases decodePayload_cases hReport with ⟨_, hObject, -⟩ | ⟨_, _, _, hError, -⟩ | ⟨-, -, hNone⟩
    · rw [hDecoder] at hObject
      cases hObject
    · rw [hDecoder] at hError
      cases hError
    · cases hNone
  · exact Prod.ext hNone hPlays

/-- A handover whose codec returns records what the codec has made of the payload, and hands the raw
bytes over. -/
theorem run_handover_of_returns
    (hData : FramePayload.decryptUplink l.session.appSKey l.session.devAddr r.fCnt r.data = .ok data)
    (hReturns : ¬l.application.codec.Aborts r.fPort data) :
    ∃ outcome n report logged sent,
      (v.run k (handover .ofCodec r l).program).1 = some outcome ∧
      n.data = data ∧ n.object = objectOf (UplinkDecoder.ofCodec l.application.codec r.fPort data) ∧
      Reports l r.fCnt (UplinkDecoder.ofCodec l.application.codec r.fPort data) report ∧
      (v.run k (handover .ofCodec r l).program).2.effects = v.effects ++ report ++
        [.logged l.device.devEui (.ofNotification (.dataUp n)) logged, .sent (.dataUp n) sent] := by
  obtain ⟨es, hEnds, hPlays⟩ := World.exists_plays k (handover .ofCodec r l).program v
  rcases handover_cases hData hEnds with
    ⟨report, object, known, logged, sent, hReport, rfl, hOutcome⟩ | ⟨hAbort, -, -⟩
  · refine ⟨_, dataUp r l (knownGateways known) data object, report.filterMap Exchange.effect?,
      logged.isOk, sent.isOk, hOutcome, rfl, decodePayload_object hReport,
      reports_decodePayload hReport, ?_⟩
    rw [hPlays.effects, List.filterMap_append, List.append_assoc]
    rfl
  · exact absurd (UplinkDecoder.ofCodec_eq_abort_iff.mp hAbort) hReturns

namespace Sample

/-- A world in which the application of the device has this script as its decoder. -/
def scriptedWorld (script : String) : World Faults :=
  ⟨(store [session 0]).insertApplication { application with codec := .customScript "" script },
    ⟨[], []⟩, []⟩

end Sample

/-- A decoder script ends with a value or an error exactly unless reading or evaluating it is cut short.
An uplink that gets to its payload records the outcome of the codec and hands over the raw bytes exactly
unless its codec is such a script; then the run is cut short too, and leaves nothing beyond the
approach. -/
theorem delivers_unless_codec_aborts (hLocates : Locates k keks r w l v)
    (hSize : r.data.length ≤ FramePayload.maxSize) :
    (∀ script port payload,
      ((∃ j, Script.decode script port payload = .ok j) ∨
        ∃ e, Script.decode script port payload = .error (.error e)) ↔
        ¬Script.Aborts script port payload) ∧
    ∃ data, FramePayload.decryptUplink l.session.appSKey l.session.devAddr r.fCnt r.data = .ok data ∧
      (l.application.codec.Aborts r.fPort data →
        w.run k (uplink keks .ofCodec r).program = (none, v)) ∧
      (¬l.application.codec.Aborts r.fPort data → ∃ outcome n report logged sent,
        (w.run k (uplink keks .ofCodec r).program).1 = some outcome ∧
        n.data = data ∧ n.object = objectOf (UplinkDecoder.ofCodec l.application.codec r.fPort data) ∧
        Reports l r.fCnt (UplinkDecoder.ofCodec l.application.codec r.fPort data) report ∧
        (w.run k (uplink keks .ofCodec r).program).2.effects = v.effects ++ report ++
          [.logged l.device.devEui (.ofNotification (.dataUp n)) logged,
            .sent (.dataUp n) sent]) := by
  constructor
  · intro script port payload
    rw [← Script.decode_eq_abort_iff]
    rcases Script.decode script port payload with (e | _) | j <;> simp
  · obtain ⟨data, hData⟩ := FramePayload.decryptUplink_ok l.session.appSKey l.session.devAddr r.fCnt hSize
    rw [hLocates.run_uplink]
    exact ⟨data, hData, run_handover_of_aborts hData, run_handover_of_returns hData⟩

theorem delivers_unless_codec_aborts_sample :
    ((Sample.scriptedWorld "1 / 0").run Sample.conditions
      (uplink .empty .ofCodec (Sample.request none)).program).1 = none ∧
    ((Sample.scriptedWorld "1 / 0").run Sample.conditions
      (uplink .empty .ofCodec (Sample.request none)).program).2.effects = [] := by
  have hLocates : Locates Sample.conditions .empty (Sample.request none)
      (Sample.scriptedWorld "1 / 0") ⟨_, _, _, Sample.session 0⟩ _ :=
    ⟨rfl, _, _, _, _, _, rfl, rfl, rfl, rfl, rfl⟩
  obtain ⟨-, data, -, hCut, -⟩ := delivers_unless_codec_aborts hLocates (by decide)
  rw [hCut ⟨"", "1 / 0", rfl, Script.aborts_division _ _⟩]
  exact ⟨rfl, rfl⟩

end Lorawan.Service
