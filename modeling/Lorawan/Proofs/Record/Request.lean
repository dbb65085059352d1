import Mathlib.Tactic.SplitIfs
import Lorawan.Proofs.Json.Part
import Lorawan.Proofs.Record.Notification
import Lorawan.Request

/-!
# Requests in any layout

A request is a record with parts, some of which are records themselves.  Each has a form: the names under
which its parts stand, and which of them may be left out or null.  Every reader honours its form, so a request
is read from every object that has its parts, in whatever order they stand and whatever else is there; and
nothing is read from an object where a part is missing, comes twice or is out of its range, be it the
request itself or an object inside it.

* `UplinkRequest.form` and its like: the documented names.
* `Request.reader?_honours`: all readers honour their forms.
* `Request.reads_any_layout`: what becomes of a document.
-/

namespace Lorawan

open Json
open Json.Outline

/-! ## Parts of requests -/

namespace Location

def form : Form Location := .record [
  .required "latitude" latitude .double,
  .required "longitude" longitude .double,
  .required "altitude" altitude .double]

theorem read_honours : Reader.Honours read form :=
  Form.honours_record (fun _ => rfl) (by decide) fun _ =>
    .required honours_double fun _ => .required honours_double fun _ => .required honours_double fun _ =>
    .done fun _ h => by
      obtain ⟨⟨⟨-, rfl⟩, rfl⟩, rfl⟩ := h
      rfl

end Location

namespace KeyEnvelope

def form : Form KeyEnvelope := .record [
  .required "aesKey" aesKey .base64,
  .defaulted "kekLabel" kekLabel .text ""]

theorem read_honours : Reader.Honours read form :=
  Form.honours_record (fun _ => rfl) (by decide) fun _ =>
    .required honours_base64 fun _ => .defaulted honours_text fun _ => .done fun _ h => by
      obtain ⟨⟨-, rfl⟩, rfl⟩ := h
      rfl

end KeyEnvelope

namespace ActivationContext

def form : Form ActivationContext := .record [
  .required "devAddr" devAddr (.identifier .devAddr),
  .nullable "appSKey" appSKey KeyEnvelope.form]

theorem read_honours : Reader.Honours read form :=
  Form.honours_record (fun _ => rfl) (by decide) fun _ =>
    .required (honours_identifier _) fun _ => .nullable KeyEnvelope.read_honours fun _ =>
    .done fun _ h => by
      obtain ⟨⟨-, rfl⟩, rfl⟩ := h
      rfl

end ActivationContext

namespace TxReport

def form : Form TxReport := .record [
  .required "frequency" frequency .int64,
  .required "dr" dr .int32,
  .defaulted "adr" adr .bool false]

theorem read_honours : Reader.Honours read form :=
  Form.honours_record (fun _ => rfl) (by decide) fun _ =>
    .required honours_int64 fun _ => .required honours_int32 fun _ => .defaulted honours_bool fun _ =>
    .done fun _ h => by
      obtain ⟨⟨⟨-, rfl⟩, rfl⟩, rfl⟩ := h
      rfl

end TxReport

namespace RxReport

def form : Form RxReport := .record [
  .required "gatewayID" gatewayId (.identifier .eui64),
  .nullable "time" time .text,
  .required "rssi" rssi .int32,
  .required "loRaSNR" loraSnr .double,
  .nullable "location" location Location.form]

theorem read_honours : Reader.Honours read form :=
  Form.honours_record (fun _ => rfl) (by decide) fun _ =>
    .required (honours_identifier _) fun _ => .nullable honours_text fun _ =>
    .required honours_int32 fun _ => .required honours_double fun _ =>
    .nullable Location.read_honours fun _ => .done fun _ h => by
      obtain ⟨⟨⟨⟨⟨-, rfl⟩, rfl⟩, rfl⟩, rfl⟩, rfl⟩ := h
      rfl

end RxReport

/-! ## The five requests -/

namespace UplinkRequest

def form : Form UplinkRequest := .record [
  .required "devEui" devEui (.identifier .eui64),
  .nullable "txInfo" txInfo TxReport.form,
  .defaulted "rxInfo" rxInfo (.list RxReport.form) [],
  .required "fCnt" fCnt .uint32,
  .required "fPort" fPort .uint8,
  .required "data" data .base64,
  .nullable "deviceActivationContext" context ActivationContext.form]

theorem read_honours : Reader.Honours read form :=
  Form.honours_record (fun _ => rfl) (by decide) fun _ =>
    .required (honours_identifier _) fun _ => .nullable TxReport.read_honours fun _ =>
    .defaulted RxReport.read_honours.list fun _ => .required honours_uint32 fun _ =>
    .required honours_uint8 fun _ => .required honours_base64 fun _ =>
    .nullable ActivationContext.read_honours fun _ => .done fun _ h => by
      obtain ⟨⟨⟨⟨⟨⟨⟨-, rfl⟩, rfl⟩, rfl⟩, rfl⟩, rfl⟩, rfl⟩, rfl⟩ := h
      rfl

end UplinkRequest

namespace AckRequest

def form : Form AckRequest := .record [
  .required "devEui" devEui (.identifier .eui64),
  .required "fCnt" fCnt .uint32,
  .required "acknowledged" acknowledged .bool]

theorem read_honours : Reader.Honours read form :=
  Form.honours_record (fun _ => rfl) (by decide) fun _ =>
    .required (honours_identifier _) fun _ => .required honours_uint32 fun _ =>
    .required honours_bool fun _ => .done fun _ h => by
      obtain ⟨⟨⟨-, rfl⟩, rfl⟩, rfl⟩ := h
      rfl

end AckRequest

namespace ErrorRequest

def form : Form ErrorRequest := .record [
  .required "devEui" devEui (.identifier .eui64),
  .required "type" type .text,
  .required "error" error .text,
  .defaulted "fCnt" fCnt .uint32 0]

theorem read_honours : Reader.Honours read form :=
  Form.honours_record (fun _ => rfl) (by decide) fun _ =>
    .required (honours_identifier _) fun _ => .required honours_text fun _ =>
    .required honours_text fun _ => .defaulted honours_uint32 fun _ => .done fun _ h => by
      obtain ⟨⟨⟨⟨-, rfl⟩, rfl⟩, rfl⟩, rfl⟩ := h
      rfl

end ErrorRequest

namespace StatusRequest

def form : Form StatusRequest := .record [
  .required "devEui" devEui (.identifier .eui64),
  .required "battery" battery .int32,
  .required "margin" margin .int32]

theorem read_honours : Reader.Honours read form :=
  Form.honours_record (fun _ => rfl) (by decide) fun _ =>
    .required (honours_identifier _) fun _ => .required honours_int32 fun _ =>
    .required honours_int32 fun _ => .done fun _ h => by
      obtain ⟨⟨⟨-, rfl⟩, rfl⟩, rfl⟩ := h
      rfl

end StatusRequest

namespace LocationRequest

def form : Form LocationRequest := .record [
  .required "devEui" devEui (.identifier .eui64),
  .nullable "location" location Location.form]

theorem read_honours : Reader.Honours read form :=
  Form.honours_record (fun _ => rfl) (by decide) fun _ =>
    .required (honours_identifier _) fun _ => .nullable Location.read_honours fun _ => .done fun _ h => by
      obtain ⟨⟨-, rfl⟩, rfl⟩ := h
      rfl

end LocationRequest

/-! ## Requests of any kind -/

namespace Request

/-- The form of the requests of a kind of event. -/
def form? : EventType → Option (Form Request)
  | .uplink => some (UplinkRequest.form.map .uplink)
  | .ack => some (AckRequest.form.map .ack)
  | .error => some (ErrorRequest.form.map .error)
  | .status => some (StatusRequest.form.map .status)
  | .location => some (LocationRequest.form.map .location)
  | .join => none

variable {type : EventType} {reader : Reader Request} {form : Form Request}

theorem reader?_honours (hReader : reader? type = some reader) (hForm : form? type = some form) :
    reader.Honours form := by
  cases type <;> cases hReader <;> cases hForm
  case uplink => exact UplinkRequest.read_honours.map _
  case ack => exact AckRequest.read_honours.map _
  case error => exact ErrorRequest.read_honours.map _
  case status => exact StatusRequest.read_honours.map _
  case location => exact LocationRequest.read_honours.map _

theorem exists_closed_of_writes {r : Request} {o : Outline} (hForm : form? type = some form)
    (h : form.Writes r o) : ∃ members, o = .object members true := by
  cases type <;> cases hForm <;> obtain ⟨_, -, members, rfl, -⟩ := h <;> exact ⟨members, rfl⟩

/-- A document that is a request, in whatever layout, is read as that request; and a document with a fault
is read as none. -/
theorem reads_any_layout (hReader : reader? type = some reader) (hForm : form? type = some form)
    (bs : List UInt8) :
    (∀ r, (Document.read bs).clean = true → form.Writes r (Document.read bs).root →
      decodeBytes reader bs = .ok r) ∧
    (form.Faults (Document.read bs).root → ∃ e, decodeBytes reader bs = .error e) := by
  have hHonours := reader?_honours hReader hForm
  constructor
  · intro r hClean hWrites
    -- a record that is written has all its members, so the text was read to its end
    obtain ⟨members, hRoot⟩ := exists_closed_of_writes hForm hWrites
    have hRead := hHonours.reads r _ (Document.isWhole_of_closed hRoot) hWrites
    rw [decodeBytes, Document.decode, bind_of_eq_ok hRead, if_pos hClean]
    rfl
  · intro hFault
    cases hDecoded : decodeBytes reader bs with
    | error e => exact ⟨e, rfl⟩
    | ok r =>
      obtain ⟨r', hRead, -⟩ := exists_of_bind_eq_ok hDecoded
      exact absurd hRead (hHonours.rejects _ hFault r')

namespace Sample

/-- An uplink that was received by nobody. -/
def uplink : UplinkRequest :=
  ⟨⟨[0, 0, 0, 0, 0, 0, 0, 0xab], rfl⟩, some ⟨868100000, 5, false⟩, [], 7, 1, [], none⟩

/-- The uplink with its members and those of its transmission in no particular order, one of them unknown,
and with blanks between them. -/
def message : List UInt8 := Utf8.encode
  "\x7b\"fPort\": 1,\n\"x\": [0],\n\"txInfo\": \x7b\"dr\": 5, \"frequency\": 868100000\x7d,\n\"data\":\"\",\"fCnt\":7,\"devEui\":\"00000000000000Ab\" \x7d\n"

def txMembers : List (Option String × Outline) := [
  (some "dr", .number ⟨false, [5], none, none⟩),
  (some "frequency", .number ⟨false, [8, 6, 8, 1, 0, 0, 0, 0, 0], none, none⟩)]

def members : List (Option String × Outline) := [
  (some "fPort", .number ⟨false, [1], none, none⟩),
  (some "x", .array [.number ⟨false, [0], none, none⟩] true),
  (some "txInfo", .object txMembers true),
  (some "data", .text (some "")),
  (some "fCnt", .number ⟨false, [7], none, none⟩),
  (some "devEui", .text (some "00000000000000Ab"))]

/-- A frame counter that is too large. -/
def overrun : List UInt8 := Utf8.encode "\x7b\"fCnt\":4294967296\x7d"

def overrunMembers : List (Option String × Outline) :=
  [(some "fCnt", .number ⟨false, [4, 2, 9, 4, 9, 6, 7, 2, 9, 6], none, none⟩)]

theorem read_message : Document.read message = ⟨.object members true, true⟩ := by decide +kernel

theorem read_overrun : Document.read overrun = ⟨.object overrunMembers true, true⟩ := by
  decide +kernel

theorem tx_writes : TxReport.form.Writes ⟨868100000, 5, false⟩ (.object txMembers true) := by
  refine ⟨txMembers, rfl, by decide, ?_⟩
  simp only [List.forall_mem_cons]
  exact ⟨⟨_, rfl, _, rfl, rfl, rfl, rfl, rfl⟩, ⟨_, rfl, _, rfl, rfl, rfl, rfl, rfl⟩, .inl ⟨rfl, rfl⟩,
    List.forall_mem_nil _⟩

theorem uplink_writes :
    (UplinkRequest.form.map .uplink).Writes (Request.uplink uplink) (.object members true) := by
  refine ⟨uplink, rfl, members, rfl, by decide, ?_⟩
  simp only [List.forall_mem_cons]
  have hDevEui : "00000000000000Ab".toLower = uplink.devEui.text := by
    rw [← String.toList_inj, Hex.toList_toLower]
    decide +kernel
  have hData : Outline.text (some "") = .text (some (Base64.encode uplink.data)) := by decide +kernel
  exact ⟨⟨_, rfl, _, rfl, hDevEui⟩, .inr ⟨_, _, rfl, rfl, tx_writes⟩, .inl ⟨rfl, rfl⟩,
    ⟨_, rfl, _, rfl, rfl, rfl, rfl, rfl⟩, ⟨_, rfl, _, rfl, rfl, rfl, rfl, rfl⟩, ⟨_, rfl, hData⟩,
    .inl ⟨rfl, .inl rfl⟩, List.forall_mem_nil _⟩

theorem overrun_faults :
    (UplinkRequest.form.map Request.uplink).Faults (.object overrunMembers true) := by
  refine ⟨_, rfl, .required "fCnt" UplinkRequest.fCnt .uint32, by simp, .inr ⟨_, List.mem_cons_self, ?_⟩⟩
  exact ⟨_, 4294967296, rfl, ⟨rfl, rfl, rfl, rfl⟩, by decide⟩

end Sample

theorem reads_any_layout_sample :
    decodeBytes (fun o => Request.uplink <$> UplinkRequest.read o) Sample.message =
      .ok (.uplink Sample.uplink) ∧
    ∃ e, decodeBytes (fun o => Request.uplink <$> UplinkRequest.read o) Sample.overrun =
      .error e := by
  have hForm : form? .uplink = some (UplinkRequest.form.map .uplink) := rfl
  obtain ⟨hReads, -⟩ := reads_any_layout rfl hForm Sample.message
  obtain ⟨-, hRejects⟩ := reads_any_layout rfl hForm Sample.overrun
  rw [Sample.read_message] at hReads
  rw [Sample.read_overrun] at hRejects
  exact ⟨hReads _ rfl Sample.uplink_writes, hRejects Sample.overrun_faults⟩

end Request

end Lorawan
