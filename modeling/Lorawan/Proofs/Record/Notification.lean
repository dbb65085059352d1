import Lorawan.Notification
import Lorawan.Proofs.Json.Fields
import Lorawan.Proofs.Time.Rfc3339

/-!
# Reading notifications back

Every notification that can be written at all (`Location.IsWritable`, `RxInfo.IsWritable`,
`DataUp.IsWritable`) is read back from its document, in whatever order the members are.  The one thing that
is lost is an object that is null: it is read as no object.
-/

namespace Lorawan

open Json (Field Fills Slots Gives)
open Json.Outline

theorem bind_of_eq_ok {x : Except ε α} {a : α} (h : x = .ok a) (f : α → Except ε β) : (x >>= f) = f a := by
  rw [h]
  rfl

/-! ## Parts of notifications -/

namespace Origin

theorem fills (o : Origin) : Fills fields o.members :=
  .given (Json.gives_int64 o.applicationId).required <|
    .given (Json.gives_string o.applicationName).required <|
    .given (Json.gives_string o.deviceName).required <| .given (Json.gives_identifier o.devEui).required .nil

/-- The origin is found where its members were written. -/
theorem ofSlots_eq {o : Origin} {s : Slots} {fs : List Field} {ms : List (String × Json)} {j : Json}
    (h : s.Hold fs ms j) (hMembers : o.members ⊆ ms) : ofSlots s = .ok o := by
  have hId := h.required "applicationID" (hMembers (by simp [members])) (Json.gives_int64 o.applicationId)
  have hName :=
    h.required "applicationName" (hMembers (by simp [members])) (Json.gives_string o.applicationName)
  have hDevice := h.required "deviceName" (hMembers (by simp [members])) (Json.gives_string o.deviceName)
  have hDevEui := h.required "devEui" (hMembers (by simp [members])) (Json.gives_identifier o.devEui)
  rw [ofSlots, bind_of_eq_ok hId, bind_of_eq_ok hName, bind_of_eq_ok hDevice, bind_of_eq_ok hDevEui]
  rfl

/-- What is found in a notification, which opens with its origin. -/
theorem exists_slots (o : Origin) {fs : List Field} {ms : List (String × Json)} {j : Json}
    (hFills : Fills fs ms) (hNames : ((fields ++ fs).map Field.name).Nodup)
    (hSame : (Json.object (o.members ++ ms)).Same j) :
    ∃ s, Slots.of (fields ++ fs) (ofJson j) = .ok s ∧ ofSlots s = .ok o ∧
      s.Hold (fields ++ fs) (o.members ++ ms) j := by
  obtain ⟨s, hSlots, hHold⟩ := (o.fills.append hFills).exists_slots hNames hSame
  exact ⟨s, hSlots, ofSlots_eq hHold (List.subset_append_left _ _), hHold⟩

end Origin

theorem Json.gives_instant {t : Time.Instant} (h : t.IsRepresentable) :
    (Json.text t.text).Gives readInstant t := by
  refine gives_of_isAtom trivial ?_
  simp only [readInstant, ofJson, readString, bind, Except.bind, Time.Instant.parseRelaxed?_text h]
  rfl

namespace Location

/-- Whether a location can be written: its numbers are finite. -/
structure IsWritable (l : Location) : Prop where
  latitude : l.latitude.isFinite = true
  longitude : l.longitude.isFinite = true
  altitude : l.altitude.isFinite = true

theorem gives {l : Location} (h : l.IsWritable) : l.toJson.Gives read l := by
  intro j hSame
  have hLatitude := Json.gives_float h.latitude
  have hLongitude := Json.gives_float h.longitude
  have hAltitude := Json.gives_float h.altitude
  have hFills : Fills fields [("latitude", .ofFloat l.latitude), ("longitude", .ofFloat l.longitude),
      ("altitude", .ofFloat l.altitude)] :=
    .given hLatitude.required <| .given hLongitude.required <| .given hAltitude.required .nil
  obtain ⟨s, hSlots, hHold⟩ := hFills.exists_slots (by decide) hSame
  rw [read, bind_of_eq_ok hSlots, bind_of_eq_ok (hHold.required "latitude" (by simp) hLatitude),
    bind_of_eq_ok (hHold.required "longitude" (by simp) hLongitude),
    bind_of_eq_ok (hHold.required "altitude" (by simp) hAltitude)]
  rfl

end Location

namespace RxInfo

/-- Whether a reception can be written. -/
structure IsWritable (r : RxInfo) : Prop where
  time : ∀ t ∈ r.time, t.IsRepresentable
  loraSnr : r.loraSnr.isFinite = true
  location : ∀ l ∈ r.location, l.IsWritable

/-- The members of a reception. -/
def members (r : RxInfo) : List (String × Json) :=
  [("gatewayID", .text r.gatewayId.text), ("name", .text r.name)]
    ++ Json.optionalMember "time" (r.time.map fun t => .text t.text)
    ++ [("rssi", .ofInt32 r.rssi), ("loRaSNR", .ofFloat r.loraSnr)]
    ++ Json.optionalMember "location" (r.location.map Location.toJson)

theorem fills {r : RxInfo} (h : r.IsWritable) : Fills fields r.members := by
  have hTime : Fills [.optional "time" readInstant]
      (Json.optionalMember "time" (r.time.map fun t => .text t.text)) := by
    cases hCase : r.time with
    | none => exact .leftOut .nil
    | some t => exact .given ((Json.gives_instant (h.time t hCase)).optional nofun) .nil
  have hLocation : Fills [.optional "location" Location.read]
      (Json.optionalMember "location" (r.location.map Location.toJson)) := by
    cases hCase : r.location with
    | none => exact .leftOut .nil
    | some l => exact .given ((Location.gives (h.location l hCase)).optional nofun) .nil
  have hFirst : Fills [.required "gatewayID" (readIdentifier .eui64), .required "name" readString]
      [("gatewayID", .text r.gatewayId.text), ("name", .text r.name)] :=
    .given (Json.gives_identifier r.gatewayId).required <| .given (Json.gives_string r.name).required .nil
  have hSignal : Fills [.required "rssi" readInt32, .required "loRaSNR" readFloat]
      [("rssi", .ofInt32 r.rssi), ("loRaSNR", .ofFloat r.loraSnr)] :=
    .given (Json.gives_int32 r.rssi).required <| .given (Json.gives_float h.loraSnr).required .nil
  exact ((hFirst.append hTime).append hSignal).append hLocation

theorem gives {r : RxInfo} (h : r.IsWritable) : r.toJson.Gives read r := by
  intro j hSame
  obtain ⟨s, hSlots, hHold⟩ := (fills h).exists_slots (by decide) hSame
  have hGateway := hHold.required "gatewayID" (by simp [members]) (Json.gives_identifier r.gatewayId)
  have hName := hHold.required "name" (by simp [members]) (Json.gives_string r.name)
  have hRssi := hHold.required "rssi" (by simp [members]) (Json.gives_int32 r.rssi)
  have hSnr := hHold.required "loRaSNR" (by simp [members]) (Json.gives_float h.loraSnr)
  have hTime : s.optional "time" readInstant = .ok r.time := by
    refine hHold.optional "time" (by decide) (fun t ht => ?_) (fun hNone => ?_)
      (fun t ht => Json.gives_instant (h.time t ht)) nofun
    · simp [members, Option.mem_def.mp ht, Json.optionalMember]
    · cases hCase : r.location <;> simp [members, hNone, hCase, Json.optionalMember]
  have hLocation : s.optional "location" Location.read = .ok r.location := by
    refine hHold.optional "location" (by decide) (fun l hl => ?_) (fun hNone => ?_)
      (fun l hl => Location.gives (h.location l hl)) nofun
    · simp [members, Option.mem_def.mp hl, Json.optionalMember]
    · cases hCase : r.time <;> simp [members, hNone, hCase, Json.optionalMember]
  rw [read, bind_of_eq_ok hSlots, bind_of_eq_ok hGateway, bind_of_eq_ok hName, bind_of_eq_ok hTime,
    bind_of_eq_ok hRssi, bind_of_eq_ok hSnr, bind_of_eq_ok hLocation]
  rfl

end RxInfo

namespace TxInfo

theorem gives (t : TxInfo) : t.toJson.Gives read t := by
  intro j hSame
  have hFrequency := Json.gives_int64 t.frequency
  have hRate := Json.gives_int32 t.dr
  have hFills : Fills fields [("frequency", .ofInt64 t.frequency), ("dr", .ofInt32 t.dr)] :=
    .given hFrequency.required <| .given hRate.required .nil
  obtain ⟨s, hSlots, hHold⟩ := hFills.exists_slots (by decide) hSame
  rw [read, bind_of_eq_ok hSlots, bind_of_eq_ok (hHold.required "frequency" (by simp) hFrequency),
    bind_of_eq_ok (hHold.required "dr" (by simp) hRate)]
  rfl

end TxInfo

/-! ## The six notifications -/

namespace DataUp

/-- Whether data can be written: so can how they were received, and the object is a document. -/
structure IsWritable (n : DataUp) : Prop where
  rxInfo : ∀ r ∈ n.rxInfo, r.IsWritable
  object : ∀ o ∈ n.object, o.IsProper

/-- An object as it is read back: one that is null is read as none. -/
def objectBack : Option Json → Option Json
  | some .null => none
  | o => o

/-- The members of data after those that open every notification. -/
def ownMembers (n : DataUp) : List (String × Json) :=
  [("rxInfo", .array (n.rxInfo.map RxInfo.toJson)), ("txInfo", n.txInfo.toJson),
    ("adr", .bool n.adr), ("fCnt", .ofUInt32 n.fCnt), ("fPort", .ofUInt8 n.fPort),
    ("data", .text (Base64.encode n.data))] ++ Json.optionalMember "object" n.object

theorem toJson_eq (n : DataUp) : n.toJson = .object (n.origin.members ++ n.ownMembers) := by
  rw [toJson, ownMembers, List.append_assoc]

theorem names_nodup (depth : Nat) : ((fields depth).map Field.name).Nodup :=
  (by decide : ((fields 0).map Field.name).Nodup)

/-- An object is read back in any order of its members, where it is not nested too deep. -/
theorem readOption_of_same {o o' : Json} (hProper : o.IsProper) {depth : Nat} (hDepth : o.nesting < depth)
    (hSame : o.Same o') : readOption (readJson depth) (ofJson o') = .ok (objectBack (some o')) := by
  have hRead : readJson depth (ofJson o') = .ok o' := by
    refine Json.readJson_ofJson (hSame.isProper hProper o') ?_
    rwa [hSame.nesting_eq hProper o']
  by_cases hNull : o' = .null
  · rw [hNull]
    rfl
  · have hBack : objectBack (some o') = some o' := by
      cases o'
      case null => exact absurd rfl hNull
      all_goals rfl
    rw [Json.readOption_ofJson hNull, hRead, hBack]
    rfl

/-- Data are read back from their document, but for an object that is null; the object has its members in
the order of the document that is read. -/
theorem read_of_same {n : DataUp} (h : n.IsWritable) {j : Json} (hSame : n.toJson.Same j) {depth : Nat}
    (hDepth : ∀ o ∈ n.object, o.nesting < depth) :
    Option.Rel Json.Same n.object (j.get? "object") ∧
      readWithin depth (ofJson j) = .ok { n with object := objectBack (j.get? "object") } := by
  have hReceived := Json.gives_list fun r hr => RxInfo.gives (h.rxInfo r hr)
  have hSent := TxInfo.gives n.txInfo
  have hAdr := Json.gives_bool n.adr
  have hCounter := Json.gives_uint32 n.fCnt
  have hPort := Json.gives_uint8 n.fPort
  have hData := Json.gives_base64 n.data
  have hObject : Fills [.optional "object" (readJson depth)] (Json.optionalMember "object" n.object) := by
    cases hCase : n.object with
    | none => exact .leftOut .nil
    | some o =>
      refine .given (fun o' hSame => ?_) .nil
      have hRead := readOption_of_same (h.object o hCase) (hDepth o hCase) hSame
      show discard (readOption (readJson depth) (ofJson o')) = _
      rw [hRead]
      rfl
  have hFills : Fills _ n.ownMembers :=
    .given hReceived.required <| .given hSent.required <| .given hAdr.required <|
      .given hCounter.required <| .given hPort.required <| .given hData.required hObject
  rw [toJson_eq] at hSame
  obtain ⟨s, hSlots, hOrigin, hHold⟩ := n.origin.exists_slots hFills (names_nodup depth) hSame
  -- the object is the one part that need not come back as it was written
  obtain ⟨hRel, hRead⟩ : Option.Rel Json.Same n.object (j.get? "object") ∧
      s.optional "object" (readJson depth) = .ok (objectBack (j.get? "object")) := by
    rw [Slots.optional, Slots.defaulted]
    cases hCase : n.object with
    | none =>
      have hOut : "object" ∉ (n.origin.members ++ n.ownMembers).map Prod.fst := by
        simp [Origin.members, ownMembers, hCase, Json.optionalMember]
      have hName : "object" ∈ (fields depth).map Field.name :=
        (by decide : "object" ∈ (fields 0).map Field.name)
      obtain ⟨hGet, hFound⟩ := hHold.leftOut "object" hName hOut
      rw [hGet, hFound]
      exact ⟨.none, rfl⟩
    | some o =>
      have hMem : ("object", o) ∈ n.origin.members ++ n.ownMembers := by
        simp [ownMembers, hCase, Json.optionalMember]
      obtain ⟨v, hV, hGet, hFound⟩ := hHold.given _ hMem
      rw [hGet, hFound]
      exact ⟨.some hV, readOption_of_same (h.object o hCase) (hDepth o hCase) hV⟩
  have hR := hHold.required "rxInfo" (by simp [ownMembers]) hReceived
  have hT := hHold.required "txInfo" (by simp [ownMembers]) hSent
  have hA := hHold.required "adr" (by simp [ownMembers]) hAdr
  have hC := hHold.required "fCnt" (by simp [ownMembers]) hCounter
  have hP := hHold.required "fPort" (by simp [ownMembers]) hPort
  have hD := hHold.required "data" (by simp [ownMembers]) hData
  refine ⟨hRel, ?_⟩
  rw [readWithin, fields, bind_of_eq_ok hSlots, bind_of_eq_ok hOrigin, bind_of_eq_ok hR, bind_of_eq_ok hT,
    bind_of_eq_ok hA, bind_of_eq_ok hC, bind_of_eq_ok hP, bind_of_eq_ok hD, bind_of_eq_ok hRead]
  rfl

end DataUp

namespace JoinNotification

theorem gives (n : JoinNotification) : n.toJson.Gives read n := by
  intro j hSame
  have hAddress := Json.gives_identifier n.devAddr
  have hFills : Fills _ [("devAddr", .text n.devAddr.text)] :=
    .given hAddress.required .nil
  obtain ⟨s, hSlots, hOrigin, hHold⟩ := n.origin.exists_slots hFills (by decide) hSame
  rw [read, fields, bind_of_eq_ok hSlots, bind_of_eq_ok hOrigin,
    bind_of_eq_ok (hHold.required "devAddr" (by simp) hAddress)]
  rfl

end JoinNotification

namespace AckNotification

theorem gives (n : AckNotification) : n.toJson.Gives read n := by
  intro j hSame
  have hAcknowledged := Json.gives_bool n.acknowledged
  have hCounter := Json.gives_uint32 n.fCnt
  have hFills : Fills _ [("acknowledged", .bool n.acknowledged), ("fCnt", .ofUInt32 n.fCnt)] :=
    .given hAcknowledged.required <| .given hCounter.required .nil
  obtain ⟨s, hSlots, hOrigin, hHold⟩ := n.origin.exists_slots hFills (by decide) hSame
  rw [read, fields, bind_of_eq_ok hSlots, bind_of_eq_ok hOrigin,
    bind_of_eq_ok (hHold.required "acknowledged" (by simp) hAcknowledged),
    bind_of_eq_ok (hHold.required "fCnt" (by simp) hCounter)]
  rfl

end AckNotification

namespace ErrorNotification

theorem gives (n : ErrorNotification) : n.toJson.Gives read n := by
  intro j hSame
  have hType := Json.gives_string n.type
  have hError := Json.gives_string n.error
  have hCounter := Json.gives_uint32 n.fCnt
  have hFills : Fills _ [("type", .text n.type), ("error", .text n.error), ("fCnt", .ofUInt32 n.fCnt)] :=
    .given hType.required <| .given hError.required <| .given hCounter.required .nil
  obtain ⟨s, hSlots, hOrigin, hHold⟩ := n.origin.exists_slots hFills (by decide) hSame
  rw [read, fields, bind_of_eq_ok hSlots, bind_of_eq_ok hOrigin,
    bind_of_eq_ok (hHold.required "type" (by simp) hType),
    bind_of_eq_ok (hHold.required "error" (by simp) hError),
    bind_of_eq_ok (hHold.required "fCnt" (by simp) hCounter)]
  rfl

end ErrorNotification

namespace StatusNotification

theorem gives (n : StatusNotification) : n.toJson.Gives read n := by
  intro j hSame
  have hBattery := Json.gives_int32 n.battery
  have hMargin := Json.gives_int32 n.margin
  have hFills : Fills _ [("battery", .ofInt32 n.battery), ("margin", .ofInt32 n.margin)] :=
    .given hBattery.required <| .given hMargin.required .nil
  obtain ⟨s, hSlots, hOrigin, hHold⟩ := n.origin.exists_slots hFills (by decide) hSame
  rw [read, fields, bind_of_eq_ok hSlots, bind_of_eq_ok hOrigin,
    bind_of_eq_ok (hHold.required "battery" (by simp) hBattery),
    bind_of_eq_ok (hHold.required "margin" (by simp) hMargin)]
  rfl

end StatusNotification

namespace LocationNotification

theorem gives {n : LocationNotification} (h : n.location.IsWritable) : n.toJson.Gives read n := by
  intro j hSame
  have hLocation := Location.gives h
  have hFills : Fills _ [("location", n.location.toJson)] :=
    .given hLocation.required .nil
  obtain ⟨s, hSlots, hOrigin, hHold⟩ := n.origin.exists_slots hFills (by decide) hSame
  rw [read, fields, bind_of_eq_ok hSlots, bind_of_eq_ok hOrigin,
    bind_of_eq_ok (hHold.required "location" (by simp) hLocation)]
  rfl

end LocationNotification

end Lorawan
