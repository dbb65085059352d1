import Lorawan.Proofs.Ingress.Interleaving
import Lorawan.Proofs.Service.Delivery
import Lorawan.Proofs.Service.Failure

/-!
# Which messages are given back

A message is a request if the last part of its subject names one of five events and its payload is a
request of that kind (`IsRequest`, `request?_eq_some_iff`).  A message that is no request is acknowledged
before any call is made.  One that is a request is given back exactly if a call of its operation has
failed in a way that passes, and else acknowledged (`nak_iff_transient`).  This holds of every run that is
not cut short by the decoder (`ComesToAbort`).
-/

namespace Lorawan.Ingress

open Json (Reader)
open Service

/-! ## Requests -/

/-- Whether a text is what stands after the last dot of a subject. -/
def IsLastPart (subject part : String) : Prop :=
  '.' ∉ part.toList ∧ (subject = part ∨ ∃ before, subject = before ++ "." ++ part)

/-- What comes before the first of some characters is without it, and that character follows if anything
does. -/
theorem takeWhile_ne_eq_iff {c : Char} {l p : List Char} :
    l.takeWhile (· ≠ c) = p ↔ c ∉ p ∧ (l = p ∨ ∃ rest, l = p ++ c :: rest) := by
  induction l generalizing p with
  | nil =>
    constructor
    · rintro rfl
      simp
    · rintro ⟨-, h | ⟨rest, h⟩⟩
      · simp [← h]
      · simp at h
  | cons d l ih =>
    by_cases hd : d = c
    · -- the character itself comes first, so that nothing is before it
      subst hd
      rw [List.takeWhile_cons_of_neg (by simp)]
      constructor
      · rintro rfl
        exact ⟨by simp, Or.inr ⟨l, rfl⟩⟩
      · rintro ⟨hc, h⟩
        cases p with
        | nil => rfl
        | cons e p => rcases h with h | ⟨rest, h⟩ <;> simp_all
    · -- another character is kept, and has to be the first one of the piece
      rw [List.takeWhile_cons_of_pos (by simpa using hd)]
      cases p with
      | nil => simp [hd]
      | cons e p =>
        rw [List.cons.injEq, ih]
        constructor
        · rintro ⟨rfl, hc, h⟩
          exact ⟨by simp [hc, Ne.symm hd], by simpa using h⟩
        · rintro ⟨hc, h⟩
          have hde : d = e := by rcases h with h | ⟨rest, h⟩ <;> exact (List.cons.inj h).1
          subst hde
          exact ⟨rfl, fun h => hc (List.mem_cons_of_mem d h), by simpa using h⟩

theorem lastPart_eq_iff {subject part : String} :
    lastPart subject = part ↔ IsLastPart subject part := by
  -- the last part is read from the end
  have hReversed : lastPart subject = part ↔
      subject.toList.reverse.takeWhile (· ≠ '.') = part.toList.reverse := by
    unfold lastPart
    rw [← String.toList_inj, String.toList_ofList, List.reverse_eq_iff]
  rw [hReversed, takeWhile_ne_eq_iff, List.mem_reverse, List.reverse_inj, String.toList_inj]
  refine and_congr Iff.rfl (or_congr Iff.rfl ?_)
  constructor
  · rintro ⟨rest, h⟩
    refine ⟨String.ofList rest.reverse, ?_⟩
    rw [← String.toList_inj]
    simpa using List.reverse_eq_iff.mp h
  · rintro ⟨before, rfl⟩
    exact ⟨before.toList.reverse, by simp⟩

/-- The five events that requests tell of, each with the reader of its requests. -/
def requestReaders : List (String × Reader Request) :=
  [("uplink", fun o => .uplink <$> UplinkRequest.read o), ("ack", fun o => .ack <$> AckRequest.read o),
    ("error", fun o => .error <$> ErrorRequest.read o),
    ("status", fun o => .status <$> StatusRequest.read o),
    ("location", fun o => .location <$> LocationRequest.read o)]

/-- Whether a message is this request. -/
def IsRequest (subject : String) (payload : List UInt8) (r : Request) : Prop :=
  ∃ event ∈ requestReaders,
    IsLastPart subject event.1 ∧ Json.decodeBytes event.2 payload = .ok r

theorem eventOf?_eq_some_iff {subject : String} {t : EventType} :
    eventOf? subject = some t ↔ IsLastPart subject t.label := by
  rw [← lastPart_eq_iff]
  unfold eventOf? EventType.ofLabel?
  constructor
  · intro h
    have hLabel := List.find?_some h
    exact (of_decide_eq_true hLabel).symm
  · intro h
    rw [h]
    cases t <;> rfl

/-- The events that are read as requests are the five. -/
theorem mem_requestReaders_iff {label : String} {reader : Reader Request} :
    (label, reader) ∈ requestReaders ↔
      ∃ t : EventType, t.label = label ∧ Request.reader? t = some reader := by
  constructor
  · intro h
    simp only [requestReaders, List.mem_cons, Prod.mk.injEq, List.not_mem_nil, or_false] at h
    rcases h with ⟨rfl, rfl⟩ | ⟨rfl, rfl⟩ | ⟨rfl, rfl⟩ | ⟨rfl, rfl⟩ | ⟨rfl, rfl⟩
    · exact ⟨.uplink, rfl, rfl⟩
    · exact ⟨.ack, rfl, rfl⟩
    · exact ⟨.error, rfl, rfl⟩
    · exact ⟨.status, rfl, rfl⟩
    · exact ⟨.location, rfl, rfl⟩
  · rintro ⟨t, rfl, h⟩
    cases t <;> cases h <;> simp [requestReaders, EventType.label]

theorem request?_eq_some_iff {subject : String} {payload : List UInt8} {r : Request} :
    request? subject payload = some r ↔ IsRequest subject payload r := by
  have hRead (reader : Reader Request) :
      (Json.decodeBytes reader payload).toOption = some r ↔
        Json.decodeBytes reader payload = .ok r := by
    cases Json.decodeBytes reader payload <;> simp [Except.toOption]
  unfold request? IsRequest
  simp only [Option.bind_eq_bind, Option.bind_eq_some_iff, eventOf?_eq_some_iff, hRead]
  constructor
  · rintro ⟨reader, ⟨t, hPart, hReader⟩, hPayload⟩
    exact ⟨(t.label, reader), mem_requestReaders_iff.mpr ⟨t, rfl, hReader⟩, hPart, hPayload⟩
  · rintro ⟨⟨label, reader⟩, hEvent, hPart, hPayload⟩
    obtain ⟨t, rfl, hReader⟩ := mem_requestReaders_iff.mp hEvent
    exact ⟨reader, ⟨t, hPart, hReader⟩, hPayload⟩

/-! ## Runs of operations -/

variable {σ : Type} {k : Conditions σ} {server : Server} {subject : String} {payload : List UInt8}
  {w : World σ}

/-- Whether carrying out a request in a world comes to a decoder that is cut short there. -/
def ComesToAbort (k : Conditions σ) (server : Server) (w : World σ) : Request → Prop
  | .uplink r => ∃ l v data, Locates k server.keks r w l v ∧
      FramePayload.decryptUplink l.session.appSKey l.session.devAddr r.fCnt r.data = .ok data ∧
      server.decoder l.application.codec r.fPort data = .error .abort
  | _ => False

/-- A run of an operation that does not come to a decoder which is cut short returns, and ends in an error
that may be mended exactly if a call of it has failed in a way that passes. -/
theorem handle_returns {request : Request} (hReturns : ¬ComesToAbort k server w request)
    {es : List Exchange} {o : Option (Except ServiceError Unit)} {v : World σ}
    (hEnds : (server.handle request).Ends es o) (hPlays : World.Plays k w es v) :
    ∃ result, o = some result ∧ (EndsRetryable result ↔ ∃ e ∈ es, e.IsTransient) := by
  cases request with
  | uplink r =>
    have hSplit : (approach server.keks r >>= handover server.decoder r).Ends es o := by
      rw [← uplink_eq]
      exact hEnds
    refine (approach_propagates server.keks r).ends_bind hSplit ?_
    rintro l es₁ es₂ rfl hGives
    -- the approach of this very run has led to the handover
    obtain ⟨u, hPlaysApproach, -⟩ := World.plays_append_iff.mp hPlays
    have hLocates : Locates k server.keks r w l u :=
      locates_iff.mpr (World.run_eq_iff.mpr ⟨es₁, hGives, hPlaysApproach⟩)
    exact handover_propagates fun data hData hAbort =>
      hReturns ⟨l, u, data, hLocates, hData, hAbort⟩
  | ack r => exact ack_propagates r es o hEnds
  | error r => exact error_propagates r es o hEnds
  | status r => exact status_propagates r es o hEnds
  | location r => exact location_propagates r es o hEnds

/-! ## The law -/

/-- A message that is no request is acknowledged at once. -/
theorem route_of_not_request (h : ¬∃ r, IsRequest subject payload r) :
    route server subject payload = .done .ack := by
  have hNone : request? subject payload = none := by
    rw [Option.eq_none_iff_forall_ne_some]
    intro r hr
    exact h ⟨r, request?_eq_some_iff.mp hr⟩
  unfold route
  rw [hNone]

theorem ofResult_eq_nak_iff {result : Except ServiceError Unit} :
    (∃ reason, Outcome.ofResult result = .nak reason) ↔ EndsRetryable result := by
  rcases result with e | ⟨⟨⟩⟩
  · rw [endsRetryable_error_iff, Outcome.ofResult]
    split <;> simp_all
  · exact iff_of_false (by simp [Outcome.ofResult]) not_endsRetryable_ok

/-- Whether routing a message comes to a call that fails in a way that passes. -/
def MeetsTransient (k : Conditions σ) (server : Server) (subject : String) (payload : List UInt8)
    (w : World σ) : Prop :=
  ∃ r, IsRequest subject payload r ∧ ∃ e, w.Meets k (server.handle r).program e ∧ e.IsTransient

theorem Outcome.eq_ack_iff {outcome : Outcome} :
    outcome = .ack ↔ ¬∃ reason, outcome = .nak reason := by
  cases outcome <;> simp

/-- A message that is a request meets a failure that passes exactly if its operation ends so. -/
theorem meetsTransient_iff {r : Request} (hRequest : IsRequest subject payload r)
    (hReturns : ¬ComesToAbort k server w r) {result : Except ServiceError Unit}
    (hResult : (w.run k (server.handle r).program).1 = some result) :
    MeetsTransient k server subject payload w ↔ EndsRetryable result := by
  constructor
  · rintro ⟨r', hRequest', e, ⟨es, hEnds, hPlays, he⟩, hTransient⟩
    obtain rfl : r' = r := Option.some.inj <|
      (request?_eq_some_iff.mpr hRequest').symm.trans (request?_eq_some_iff.mpr hRequest)
    obtain ⟨result', hResult', hIff⟩ := handle_returns hReturns hEnds hPlays
    obtain rfl := Option.some.inj (hResult.symm.trans hResult')
    exact hIff.mpr ⟨e, he, hTransient⟩
  · intro hRetryable
    obtain ⟨es, hEnds, hPlays⟩ := World.exists_plays k (server.handle r).program w
    obtain ⟨result', hResult', hIff⟩ := handle_returns hReturns hEnds hPlays
    obtain rfl := Option.some.inj (hResult.symm.trans hResult')
    obtain ⟨e, he, hTransient⟩ := hIff.mp hRetryable
    exact ⟨r, hRequest, e, ⟨es, hEnds, hPlays, he⟩, hTransient⟩

/-- The run of a message returns unless it comes to a decoder that is cut short.  The message is given
back exactly if it is a request and a call of its operation fails in a way that passes; in every other
case it is acknowledged.  A message that is no request makes no call at all. -/
theorem nak_iff_transient (k : Conditions σ) (server : Server) (w : World σ)
    (hReturns : ∀ r, IsRequest subject payload r → ¬ComesToAbort k server w r) :
    ∃ outcome, (w.run k (route server subject payload)).1 = some outcome ∧
      ((∃ reason, outcome = .nak reason) ↔ MeetsTransient k server subject payload w) ∧
      (outcome = .ack ↔ ¬MeetsTransient k server subject payload w) ∧
      ((¬∃ r, IsRequest subject payload r) →
        ∀ es o, (route server subject payload).Ends es o → es = []) := by
  by_cases hRequest : ∃ r, IsRequest subject payload r
  · -- the handler comes to a result, and the outcome is made of that
    obtain ⟨r, hr⟩ := hRequest
    obtain ⟨es, hEnds, hPlays⟩ := World.exists_plays k (server.handle r).program w
    obtain ⟨result, hResult, -⟩ := handle_returns (hReturns r hr) hEnds hPlays
    have hNak := ofResult_eq_nak_iff.trans (meetsTransient_iff hr (hReturns r hr) hResult).symm
    refine ⟨.ofResult result, ?_, hNak, Outcome.eq_ack_iff.trans (not_congr hNak), ?_⟩
    · rw [route_eq_handler (request?_eq_some_iff.mpr hr), run_handler, hResult]
      rfl
    · intro hNone
      exact absurd ⟨r, hr⟩ hNone
  · -- without a request there is nothing to meet
    have hQuiet : ¬MeetsTransient k server subject payload w := fun ⟨r, hr, _⟩ => hRequest ⟨r, hr⟩
    rw [route_of_not_request hRequest]
    exact ⟨.ack, rfl, iff_of_false (by simp) hQuiet, iff_of_true rfl hQuiet,
      fun _ es o h => h.1⟩

/-- Whether a request is an uplink, which alone has a payload to decode. -/
def isUplink : Request → Bool
  | .uplink _ => true
  | _ => false

theorem ComesToAbort.isUplink {r : Request} (h : ComesToAbort k server w r) : isUplink r = true := by
  cases r with
  | uplink r => rfl
  | _ => exact h.elim

namespace Sample

/-- A status report as a message of the network server. -/
def statusReport : List UInt8 := Utf8.encode
  "\x7b\"devEui\":\"0000000000000000\",\"battery\":80,\"margin\":5\x7d"

/-- A world in which the integration does not take status reports, with an error that would stay if it
came from storage. -/
def deafWorld : World Faults :=
  Service.Sample.world [] ⟨[⟨.send .status, .validation "closed", none⟩], []⟩

end Sample

theorem nak_iff_transient_sample :
    MeetsTransient Service.Sample.conditions ⟨.empty, .ofCodec⟩ "ns.status" Sample.statusReport
      Sample.deafWorld := by
  have hStatus : (request? "ns.status" Sample.statusReport).any isUplink = false ∧
      (Sample.deafWorld.run Service.Sample.conditions
        (route ⟨.empty, .ofCodec⟩ "ns.status" Sample.statusReport)).1 =
          some (.nak "Integration dispatch error: Validation error: closed") := by
    decide +kernel
  have hReturns : ∀ r, IsRequest "ns.status" Sample.statusReport r →
      ¬ComesToAbort Service.Sample.conditions ⟨.empty, .ofCodec⟩ Sample.deafWorld r := by
    intro r hr hAbort
    have hUplink : (request? "ns.status" Sample.statusReport).any isUplink = true := by
      rw [request?_eq_some_iff.mpr hr]
      exact hAbort.isUplink
    rw [hStatus.1] at hUplink
    cases hUplink
  obtain ⟨outcome, hOutcome, hNak, -⟩ := nak_iff_transient Service.Sample.conditions
    ⟨.empty, .ofCodec⟩ Sample.deafWorld hReturns
  exact hNak.mp ⟨_, Option.some.inj (hOutcome.symm.trans hStatus.2)⟩

end Lorawan.Ingress
