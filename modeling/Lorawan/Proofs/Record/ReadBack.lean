import Lorawan.Proofs.Record.Codec

/-!
# Reading back what was written

Everything that is written as JSON is a record of one of nine kinds: the six notifications, entries of the
event log, key envelopes and codecs.  A record is read back from its document as it was, with one exception:
data with an object that is null are read back without an object.

Documents are taken up to the order of members here, as are the documents inside records (`Record.Same`).
Two different records have different documents.  For records of one kind this follows from their being read
back; the kinds are told apart by a member that only they have (`Record.Kind.mark`).

* `Record.decode?_of_same`: what is read from a document in any order.
* `Record.kind_eq_of_same`: the kind of a record from its document.
* `Record.reads_back`: both, for every record that can be written.
-/

namespace Lorawan

open Json (Reader Field Fills Slots Gives)
open Json.Outline

/-- What is written as JSON. -/
inductive Record where
  | notification (n : Notification)
  | logEntry (e : EventLogEntry)
  | envelope (e : KeyEnvelope)
  | codec (c : PayloadCodec)

namespace Record

/-! ## Writing and reading -/

/-- The kinds of record. -/
inductive Kind where
  | notification (type : EventType)
  | logEntry
  | envelope
  | codec
  deriving DecidableEq

def kind : Record → Kind
  | notification n => .notification n.eventType
  | logEntry _ => .logEntry
  | envelope _ => .envelope
  | codec _ => .codec

/-- A record as JSON. -/
def toJson : Record → Json
  | notification n => n.toJson
  | logEntry e => e.toJson
  | envelope e => e.toJson
  | codec c => c.toJson

/-- Reads a record of a kind, in which documents are nested in fewer than `depth` arrays and objects. -/
def read (kind : Kind) (depth : Nat) : Reader Record := fun o =>
  match kind with
  | .notification .uplink => (fun n => notification (.dataUp n)) <$> DataUp.readWithin depth o
  | .notification .join => (fun n => notification (.join n)) <$> JoinNotification.read o
  | .notification .ack => (fun n => notification (.ack n)) <$> AckNotification.read o
  | .notification .error => (fun n => notification (.error n)) <$> ErrorNotification.read o
  | .notification .status => (fun n => notification (.status n)) <$> StatusNotification.read o
  | .notification .location => (fun n => notification (.location n)) <$> LocationNotification.read o
  | .logEntry => logEntry <$> EventLogEntry.readWithin depth o
  | .envelope => envelope <$> KeyEnvelope.read o
  | .codec => codec <$> PayloadCodec.readWithin depth o

/-- The record of a kind that a document stands for. -/
def decode? (kind : Kind) (j : Json) : Option Record := Json.decode? (read kind) j

/-- Whether a record can be written: its numbers are finite, its times can be written down, and the documents
in it can be read. -/
def IsWritable : Record → Prop
  | notification (.dataUp n) => n.IsWritable
  | notification (.location n) => n.location.IsWritable
  | logEntry e => e.payload.IsProper
  | _ => True

/-- A record as it is read back: an object that is null is lost. -/
def readBack : Record → Record
  | notification (.dataUp n) => notification (.dataUp { n with object := DataUp.objectBack n.object })
  | r => r

/-- Whether records differ in the order of members at most, in the documents in them. -/
inductive Same : Record → Record → Prop
  | refl (r : Record) : Same r r
  | object {n : DataUp} {o o' : Json} (h : o.Same o') :
      Same (notification (.dataUp { n with object := some o }))
        (notification (.dataUp { n with object := some o' }))
  | payload {t : EventType} {p p' : Json} (h : p.Same p') : Same (logEntry ⟨t, p⟩) (logEntry ⟨t, p'⟩)

/-- The record with the documents in it taken from the document `j`. -/
def withPartsOf (j : Json) : Record → Record
  | notification (.dataUp n) => notification (.dataUp { n with object := j.get? "object" })
  | logEntry e => logEntry { e with payload := (j.get? "payload").getD e.payload }
  | r => r

/-! ## Records of one kind -/

theorem decode?_of_gives {k : Kind} {reader : Reader α} {j j' : Json} {a : α} (build : α → Record)
    (hRead : read k j'.nesting (ofJson j') = build <$> reader (ofJson j')) (hGives : j.Gives reader a)
    (hSame : j.Same j') : decode? k j' = some (build a) := by
  rw [decode?, Json.decode?, hRead, hGives j' hSame]
  rfl

/-- Data are read back whole: no object in a document is nested too deep for the reader. -/
theorem decode?_dataUp {n : DataUp} (h : n.IsWritable) {j : Json} (hSame : n.toJson.Same j) :
    Option.Rel Json.Same n.object (j.get? "object") ∧ decode? (.notification .uplink) j =
      some (notification (.dataUp { n with object := DataUp.objectBack (j.get? "object") })) := by
  -- read with depth to spare, the object turns up as a member of the document, which is nested deeper
  have hDepth : ∀ o ∈ n.object, o.nesting < j.nesting := by
    intro o ho
    have hEnough : ∀ o' ∈ n.object, o'.nesting < o.nesting + 1 := by
      intro o' ho'
      cases Option.mem_unique ho ho'
      exact Nat.lt_succ_self _
    have hRel := (DataUp.read_of_same h hSame hEnough).1
    rw [Option.mem_def.mp ho] at hRel
    cases hGet : j.get? "object" with
    | none => rw [hGet] at hRel; cases hRel
    | some v =>
      rw [hGet] at hRel
      cases hRel with
      | some hV => exact hV.nesting_eq (h.object o ho) v ▸ Json.nesting_lt_of_get? hGet
  obtain ⟨hRel, hRead⟩ := DataUp.read_of_same h hSame hDepth
  refine ⟨hRel, ?_⟩
  rw [decode?, Json.decode?, read, hRead]
  rfl

theorem decode?_logEntry {e : EventLogEntry} (h : e.payload.IsProper) {j : Json}
    (hSame : e.toJson.Same j) :
    ∃ p, j.get? "payload" = some p ∧ e.payload.Same p ∧
      decode? .logEntry j = some (logEntry ⟨e.type, p⟩) := by
  obtain ⟨p, hGet, hP, -⟩ := EventLogEntry.read_of_same h hSame (Nat.lt_succ_self _)
  have hDepth : e.payload.nesting < j.nesting := hP.nesting_eq h p ▸ Json.nesting_lt_of_get? hGet
  obtain ⟨p', hGet', -, hRead⟩ := EventLogEntry.read_of_same h hSame hDepth
  cases hGet.symm.trans hGet'
  refine ⟨p, hGet, hP, ?_⟩
  rw [decode?, Json.decode?, read, hRead]
  rfl

theorem get?_object_toJson (n : DataUp) : n.toJson.get? "object" = n.object := by
  obtain ⟨origin, rxInfo, txInfo, adr, fCnt, fPort, data, object⟩ := n
  cases object <;> rfl

theorem withPartsOf_toJson (r : Record) : r.withPartsOf r.toJson = r := by
  cases r with
  | notification n =>
    cases n with
    | dataUp n =>
      show notification (.dataUp { n with object := n.toJson.get? "object" }) = _
      rw [get?_object_toJson]
    | _ => rfl
  | _ => rfl

theorem same_of_object {n : DataUp} {o : Option Json} (h : Option.Rel Json.Same n.object o) :
    (notification (.dataUp n)).Same (notification (.dataUp { n with object := o })) := by
  obtain ⟨origin, rxInfo, txInfo, adr, fCnt, fPort, data, object⟩ := n
  cases h with
  | none => exact .refl _
  | some hO => exact Same.object (n := ⟨origin, rxInfo, txInfo, adr, fCnt, fPort, data, none⟩) hO

/-- Reading a document of a record gives the record, with the documents in it in the order that they have
there. -/
theorem decode?_of_same {r : Record} (h : r.IsWritable) {j : Json} (hSame : r.toJson.Same j) :
    r.Same (r.withPartsOf j) ∧ decode? r.kind j = some (r.withPartsOf j).readBack := by
  cases r with
  | notification n =>
    cases n with
    | dataUp n =>
      obtain ⟨hRel, hRead⟩ := decode?_dataUp h hSame
      exact ⟨same_of_object hRel, hRead⟩
    | join n => exact ⟨.refl _, decode?_of_gives (fun n => notification (.join n)) rfl n.gives hSame⟩
    | ack n => exact ⟨.refl _, decode?_of_gives (fun n => notification (.ack n)) rfl n.gives hSame⟩
    | error n => exact ⟨.refl _, decode?_of_gives (fun n => notification (.error n)) rfl n.gives hSame⟩
    | status n => exact ⟨.refl _, decode?_of_gives (fun n => notification (.status n)) rfl n.gives hSame⟩
    | location n =>
      have hGives := LocationNotification.gives h
      exact ⟨.refl _, decode?_of_gives (fun n => notification (.location n)) rfl hGives hSame⟩
  | logEntry e =>
    -- besides the object of an uplink only a payload is a document that may be read in another order
    obtain ⟨p, hGet, hP, hRead⟩ := decode?_logEntry h hSame
    have hParts : (logEntry e).withPartsOf j = logEntry ⟨e.type, p⟩ := by rw [withPartsOf, hGet]; rfl
    rw [hParts]
    exact ⟨.payload hP, hRead⟩
  | envelope e => exact ⟨.refl _, decode?_of_gives envelope rfl e.gives hSame⟩
  | codec c => exact ⟨.refl _, decode?_of_gives codec rfl (c.gives j.nesting) hSame⟩

/-! ## Records of different kinds -/

/-- A member that only records of a kind have. -/
def Kind.mark : Kind → String
  | .notification .uplink => "rxInfo"
  | .notification .join => "devAddr"
  | .notification .ack => "acknowledged"
  | .notification .error => "error"
  | .notification .status => "battery"
  | .notification .location => "location"
  | .logEntry => "payload"
  | .envelope => "aesKey"
  | .codec => "kind"

/-- The names of the members of a record, which are few or many. -/
def Kind.names (many : Bool) : Kind → List String
  | .notification type =>
    ["applicationID", "applicationName", "deviceName", "devEui"] ++
      match type with
      | .uplink => ["rxInfo", "txInfo", "adr", "fCnt", "fPort", "data"] ++ if many then ["object"] else []
      | .join => ["devAddr"]
      | .ack => ["acknowledged", "fCnt"]
      | .error => ["type", "error", "fCnt"]
      | .status => ["battery", "margin"]
      | .location => ["location"]
  | .logEntry => ["type", "payload"]
  | .envelope => ["aesKey", "kekLabel"]
  | .codec => "kind" :: if many then ["encoder_script", "decoder_script"] else []

theorem Kind.mark_mem_names_iff (many : Bool) (k k' : Kind) : k'.mark ∈ k.names many ↔ k = k' := by
  rcases k with (_ | _ | _ | _ | _ | _) | _ | _ | _ <;> rcases k' with (_ | _ | _ | _ | _ | _) | _ | _ | _ <;>
    cases many <;> decide

theorem exists_members (r : Record) :
    ∃ many members, r.toJson = .object members ∧ members.map Prod.fst = r.kind.names many := by
  cases r with
  | notification n =>
    cases n with
    | dataUp n =>
      refine ⟨n.object.isSome, _, n.toJson_eq, ?_⟩
      rw [DataUp.ownMembers]
      cases n.object <;> rfl
    | _ => exact ⟨false, _, rfl, rfl⟩
  | codec c =>
    cases c with
    | customScript => exact ⟨true, _, rfl, rfl⟩
    | _ => exact ⟨false, _, rfl, rfl⟩
  | _ => exact ⟨false, _, rfl, rfl⟩

/-- The kind of a record can be told from its document. -/
theorem kind_eq_of_same {r r' : Record} (h : r.toJson.Same r'.toJson) : r.kind = r'.kind := by
  obtain ⟨many, members, hMembers, hNames⟩ := exists_members r
  obtain ⟨many', members', hMembers', hNames'⟩ := exists_members r'
  rw [hMembers, hMembers'] at h
  have hPerm := h.names_perm
  rw [hNames, hNames'] at hPerm
  have hMark : r.kind.mark ∈ r'.kind.names many' :=
    hPerm.mem_iff.mp ((Kind.mark_mem_names_iff many r.kind r.kind).mpr rfl)
  exact ((Kind.mark_mem_names_iff many' r'.kind r.kind).mp hMark).symm

/-! ## What is read back -/

theorem exists_dataUp {r : Record} (h : r.kind = .notification .uplink) :
    ∃ n, r = notification (.dataUp n) := by
  cases r with
  | notification n =>
    cases n with
    | dataUp n => exact ⟨n, rfl⟩
    | _ => cases h
  | _ => cases h

theorem readBack_of_kind {r : Record} (h : r.kind ≠ .notification .uplink) : r.readBack = r := by
  cases r with
  | notification n =>
    cases n with
    | dataUp n => exact absurd rfl h
    | _ => rfl
  | _ => rfl

theorem kind_withPartsOf (r : Record) (j : Json) : (r.withPartsOf j).kind = r.kind := by
  cases r with
  | notification n => cases n <;> rfl
  | _ => rfl

theorem objectBack_eq_iff {o : Option Json} : DataUp.objectBack o = o ↔ o ≠ some .null := by
  rcases o with _ | _ | _ | _ | _ | _ | _ | _
  case some.null => exact iff_of_false nofun (absurd rfl)
  all_goals exact iff_of_true rfl nofun

/-- Nothing is lost but an object that is null. -/
theorem readBack_ne_iff {r : Record} :
    r.readBack ≠ r ↔ ∃ n, r = notification (.dataUp n) ∧ n.object = some .null := by
  by_cases hUplink : r.kind = .notification .uplink
  · obtain ⟨n, rfl⟩ := exists_dataUp hUplink
    have hSame : (notification (.dataUp n)).readBack = notification (.dataUp n) ↔
        DataUp.objectBack n.object = n.object := by
      obtain ⟨origin, rxInfo, txInfo, adr, fCnt, fPort, data, object⟩ := n
      simp [readBack]
    rw [ne_eq, hSame, objectBack_eq_iff, not_ne_iff]
    constructor
    · exact fun hNull => ⟨n, rfl, hNull⟩
    · rintro ⟨n', hEq, hNull⟩
      cases hEq
      exact hNull
  · refine iff_of_false (fun h => h (readBack_of_kind hUplink)) ?_
    rintro ⟨n, rfl, -⟩
    exact hUplink rfl

/-- A record is determined by its document, up to the order of members in the documents in it. -/
theorem withPartsOf_eq_of_same {r r' : Record} (h : r.IsWritable) (h' : r'.IsWritable)
    (hSame : r.toJson.Same r'.toJson) : r.withPartsOf r'.toJson = r' := by
  have hKind := kind_eq_of_same hSame
  by_cases hUplink : r.kind = .notification .uplink
  · obtain ⟨n, rfl⟩ := exists_dataUp hUplink
    obtain ⟨n', rfl⟩ := exists_dataUp (hKind.symm.trans hUplink)
    have hRead := (decode?_dataUp h hSame).2
    have hRead' := (decode?_dataUp h' (.refl _)).2
    -- both are read from one document, with the object that it has
    have hEq := Option.some.inj (hRead.symm.trans hRead')
    have hObject : (notification (.dataUp n')).toJson.get? "object" = n'.object := get?_object_toJson n'
    rw [withPartsOf, hObject]
    obtain ⟨origin, rxInfo, txInfo, adr, fCnt, fPort, data, object⟩ := n
    obtain ⟨origin', rxInfo', txInfo', adr', fCnt', fPort', data', object'⟩ := n'
    cases hEq
    rfl
  · have hRead := (decode?_of_same h hSame).2
    have hRead' := (decode?_of_same h' (.refl _)).2
    rw [withPartsOf_toJson, readBack_of_kind (hKind ▸ hUplink)] at hRead'
    rw [readBack_of_kind ((kind_withPartsOf r _).symm ▸ hUplink), hKind, hRead'] at hRead
    exact (Option.some.inj hRead).symm

/-- Every record that can be written is read back from its document, but for an object of data that is null:
it is read as none.  In whatever order the members of the document are, what is read is the record up to the
order of members in the documents in it.  And records with one document, up to the order of members, are one
record, up to the order of members. -/
theorem reads_back (r : Record) (h : r.IsWritable) :
    decode? r.kind r.toJson = some r.readBack ∧
    (r.readBack ≠ r ↔ ∃ n, r = notification (.dataUp n) ∧ n.object = some .null) ∧
    (∀ j, r.toJson.Same j → ∃ r', r.Same r' ∧ decode? r.kind j = some r'.readBack) ∧
    ∀ r', r'.IsWritable →
      (r.toJson = r'.toJson → r = r') ∧ (r.toJson.Same r'.toJson → r.Same r') := by
  refine ⟨?_, ?_, fun j hSame => ⟨_, decode?_of_same h hSame⟩, fun r' h' => ⟨fun hEq => ?_, fun hSame => ?_⟩⟩
  · have hRead := (decode?_of_same h (.refl _)).2
    rwa [withPartsOf_toJson] at hRead
  · exact readBack_ne_iff
  · have hParts := withPartsOf_eq_of_same h h' (hEq ▸ .refl _)
    rwa [← hEq, withPartsOf_toJson] at hParts
  · have hParts := (decode?_of_same h hSame).1
    rwa [withPartsOf_eq_of_same h h' hSame] at hParts

/-- Data received within a leap second, with an object that is null. -/
def leapSecondData : DataUp where
  origin := ⟨-7, "farm", "soil-1", .zero .eui64⟩
  rxInfo := [⟨.zero .eui64, "barn", some ⟨1483228799, 1500000000⟩, -57, 9.5, some ⟨52.5, -0.25, 34⟩⟩]
  txInfo := ⟨868100000, 5⟩
  adr := true
  fCnt := 4294967295
  fPort := 255
  data := [104, 101, 108, 108, 111]
  object := some .null

theorem leapSecondData_isWritable : leapSecondData.IsWritable where
  rxInfo := by
    intro r hr
    obtain rfl := List.mem_singleton.mp hr
    refine ⟨fun t ht => ?_, by decide, fun l hl => ?_⟩
    · cases ht
      decide
    · cases hl
      exact ⟨by decide, by decide, by decide⟩
  object := by
    intro o ho
    cases ho
    exact .null

theorem reads_back_sample : (notification (.dataUp leapSecondData)).IsWritable ∧
    decode? (.notification .uplink) leapSecondData.toJson =
      some (notification (.dataUp { leapSecondData with object := none })) :=
  ⟨leapSecondData_isWritable, (reads_back (notification (.dataUp leapSecondData)) leapSecondData_isWritable).1⟩

end Record

end Lorawan
