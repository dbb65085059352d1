import Lorawan.Codec.Error
import Lorawan.Json.Basic

/-!
# Cayenne low-power payloads

A payload is a sequence of readings: a channel byte, a byte for the sensor type, and data whose width the
type fixes.  Decoding gives an object with one member for each type and channel, holding the last such
reading.  Data are big-endian integers, most of them scaled.

Two tables say what the data of a type are: how many bytes they have (`SensorType.width`), and where among
them each integer stands (`SensorType.layout`).  Decoding asks for bytes by their position; that it never
asks for one outside of the payload (`decodeAt?_isSome`) is because the tables fit together
(`SensorType.offset_add_width_le`).
-/

namespace Lorawan.Cayenne

/-- The sensor types. -/
inductive SensorType where
  | digitalInput
  | digitalOutput
  | analogInput
  | analogOutput
  | illuminance
  | presence
  | temperature
  | humidity
  | accelerometer
  | barometer
  | gyrometer
  | gps
  deriving DecidableEq, Repr

/-- One integer among the data of a reading. -/
structure Component where
  /-- Its position among the data. -/
  offset : Nat
  /-- How many bytes it takes. -/
  width : Nat
  /-- Whether it is in two's complement. -/
  signed : Bool
  /-- What it is divided by; an integer that is not scaled stays one. -/
  scale : Option Nat
  deriving DecidableEq, Repr

/-- The data of a sensor type: one integer, or several with names. -/
inductive Layout where
  | single (component : Component)
  | fields (components : List (String × Component))
  deriving DecidableEq, Repr

/-- The integers of a layout in order. -/
def Layout.components : Layout → List Component
  | .single c => [c]
  | .fields cs => cs.map Prod.snd

namespace SensorType

/-- All sensor types. -/
def all : List SensorType :=
  [.digitalInput, .digitalOutput, .analogInput, .analogOutput, .illuminance, .presence, .temperature,
   .humidity, .accelerometer, .barometer, .gyrometer, .gps]

/-- The byte that stands for the type. -/
def code : SensorType → UInt8
  | digitalInput => 0
  | digitalOutput => 1
  | analogInput => 2
  | analogOutput => 3
  | illuminance => 101
  | presence => 102
  | temperature => 103
  | humidity => 104
  | accelerometer => 113
  | barometer => 115
  | gyrometer => 134
  | gps => 136

/-- The type that a byte stands for. -/
def ofCode? (b : UInt8) : Option SensorType := all.find? (·.code = b)

/-- The name of the type in a decoded object. -/
def label : SensorType → String
  | digitalInput => "digital_input"
  | digitalOutput => "digital_output"
  | analogInput => "analog_input"
  | analogOutput => "analog_output"
  | illuminance => "illuminance"
  | presence => "presence"
  | temperature => "temperature"
  | humidity => "humidity"
  | accelerometer => "accelerometer"
  | barometer => "barometer"
  | gyrometer => "gyrometer"
  | gps => "gps"

/-- How many bytes of data a reading of the type has. -/
def width : SensorType → Nat
  | digitalInput => 1
  | digitalOutput => 1
  | analogInput => 2
  | analogOutput => 2
  | illuminance => 2
  | presence => 1
  | temperature => 2
  | humidity => 1
  | accelerometer => 6
  | barometer => 2
  | gyrometer => 6
  | gps => 9

/-- What the data of the type are. -/
def layout : SensorType → Layout
  | digitalInput | digitalOutput | presence => .single ⟨0, 1, false, none⟩
  | analogInput | analogOutput => .single ⟨0, 2, true, some 100⟩
  | illuminance => .single ⟨0, 2, false, none⟩
  | temperature => .single ⟨0, 2, true, some 10⟩
  | humidity => .single ⟨0, 1, false, some 2⟩
  | barometer => .single ⟨0, 2, false, some 10⟩
  | accelerometer =>
    .fields [("x", ⟨0, 2, true, some 1000⟩), ("y", ⟨2, 2, true, some 1000⟩),
      ("z", ⟨4, 2, true, some 1000⟩)]
  | gyrometer =>
    .fields [("x", ⟨0, 2, true, some 100⟩), ("y", ⟨2, 2, true, some 100⟩), ("z", ⟨4, 2, true, some 100⟩)]
  | gps =>
    .fields [("latitude", ⟨0, 3, true, some 10000⟩), ("longitude", ⟨3, 3, true, some 10000⟩),
      ("altitude", ⟨6, 3, true, some 100⟩)]

/-- No integer of a type reaches past the data of the type. -/
theorem offset_add_width_le (t : SensorType) :
    ∀ c ∈ t.layout.components, c.offset + c.width ≤ t.width := by
  cases t <;> decide

end SensorType

/-- A reading: its integers are those of the type's layout, before scaling. -/
structure Reading where
  channel : UInt8
  type : SensorType
  raw : List Int
  deriving DecidableEq, Repr

/-- A number without sign from its bytes, most significant first. -/
def unsignedOf (bs : List UInt8) : Nat := bs.foldl (fun n b => n * 256 + b.toNat) 0

/-- The bytes at some positions one after the other, if there is a byte at each of them. -/
def bytesAt? (data : List UInt8) (start : Nat) : (count : Nat) → Option (List UInt8)
  | 0 => some []
  | count + 1 => do
    let b ← data[start]?
    let bs ← bytesAt? data (start + 1) count
    return b :: bs

theorem bytesAt?_eq_some {data : List UInt8} {start count : Nat} (h : start + count ≤ data.length) :
    bytesAt? data start count = some ((data.drop start).take count) := by
  induction count generalizing start with
  | zero => rfl
  | succ count ih =>
    have hStart : start < data.length := by omega
    rw [bytesAt?, List.getElem?_eq_getElem hStart, ih (by omega), List.drop_eq_getElem_cons hStart]
    rfl

namespace Component

/-- The integer that some bytes hold. -/
def read (c : Component) (bs : List UInt8) : Int :=
  if c.signed then (BitVec.ofNat (8 * c.width) (unsignedOf bs)).toInt else unsignedOf bs

/-- The integer at its place among some data, if its bytes are there. -/
def readAt? (c : Component) (data : List UInt8) : Option Int := c.read <$> bytesAt? data c.offset c.width

/-- The integer that stands at its place among data that are long enough. -/
def readIn (c : Component) (data : List UInt8) : Int := c.read ((data.drop c.offset).take c.width)

theorem readAt?_eq_some {c : Component} {data : List UInt8} (h : c.offset + c.width ≤ data.length) :
    c.readAt? data = some (c.readIn data) := by
  rw [readAt?, bytesAt?_eq_some h]
  rfl

/-- The value of an integer in a decoded object. -/
def value (c : Component) (n : Int) : Json :=
  match c.scale with
  | none => .int n
  | some s => .float (Float.ofInt n / Float.ofNat s)

end Component

namespace Reading

/-- The name of the reading's member. -/
def name (r : Reading) : String := s!"{r.type.label}_{r.channel.toNat}"

/-- The value of the reading's member. -/
def value (r : Reading) : Json :=
  match r.type.layout with
  | .single c => c.value (r.raw.headD 0)
  | .fields cs => .object (cs.zipWith (fun (n, c) k => (n, c.value k)) r.raw)

end Reading

namespace SensorType

/-- The integers of a type among some data, if the bytes of all of them are there. -/
def readAll? (t : SensorType) (data : List UInt8) : Option (List Int) :=
  t.layout.components.mapM (·.readAt? data)

/-- The integers of a type among its data. -/
def readAll (t : SensorType) (data : List UInt8) : List Int := t.layout.components.map (·.readIn data)

theorem readAll?_eq_some {t : SensorType} {data : List UInt8} (h : t.width ≤ data.length) :
    t.readAll? data = some (t.readAll data) := by
  have hRead : ∀ c ∈ t.layout.components, c.readAt? data = some (c.readIn data) := fun c hc =>
    Component.readAt?_eq_some (Nat.le_trans (t.offset_add_width_le c hc) h)
  unfold readAll? readAll
  generalize t.layout.components = cs at hRead ⊢
  induction cs with
  | nil => rfl
  | cons c cs ih =>
    rw [List.mapM_cons, hRead c List.mem_cons_self, ih fun c hc => hRead c (List.mem_cons_of_mem _ hc)]
    rfl

end SensorType

/-! ## Decoding -/

/-- Part of a payload, if the payload has it. -/
def slice? (payload : List UInt8) (start count : Nat) : Option (List UInt8) :=
  if start + count ≤ payload.length then some ((payload.drop start).take count) else none

/-- The reading at a position, or what is wrong with it.  There is no answer if a byte is asked for that is
outside of the payload. -/
def readingAt? (payload : List UInt8) (offset : Nat) : Option (Except PayloadError Reading) :=
  if payload.length < offset + 2 then
    some (.error (.insufficientData 2 (payload.length - offset)))
  else do
    let channel ← payload[offset]?
    let code ← payload[offset + 1]?
    match SensorType.ofCode? code with
    | none => return .error (.unsupportedType code)
    | some t =>
      if payload.length < offset + 2 + t.width then
        return .error (.insufficientData t.width (payload.length - (offset + 2)))
      else
        let data ← slice? payload (offset + 2) t.width
        let raw ← t.readAll? data
        return .ok ⟨channel, t, raw⟩

/-- The readings from a position on, or what is wrong with the first that is not well formed.  There is no
answer if a byte is asked for that is outside of the payload. -/
def decodeAt? (payload : List UInt8) (offset : Nat) : Option (Except PayloadError (List Reading)) :=
  if offset < payload.length then
    match readingAt? payload offset with
    | none => none
    | some (.error e) => some (.error e)
    | some (.ok r) => (decodeAt? payload (offset + 2 + r.type.width)).map (Except.map (r :: ·))
  else some (.ok [])
termination_by payload.length - offset

theorem readingAt?_isSome (payload : List UInt8) (offset : Nat) :
    (readingAt? payload offset).isSome := by
  unfold readingAt?
  by_cases hHeader : payload.length < offset + 2
  · rw [if_pos hHeader]
    rfl
  have hChannel : offset < payload.length := by omega
  have hCode : offset + 1 < payload.length := by omega
  rw [if_neg hHeader, List.getElem?_eq_getElem hChannel, List.getElem?_eq_getElem hCode]
  simp only [Option.bind_eq_bind, Option.bind_some]
  cases SensorType.ofCode? payload[offset + 1] with
  | none => rfl
  | some t =>
    dsimp only
    by_cases hShort : payload.length < offset + 2 + t.width
    · rw [if_pos hShort]
      rfl
    have hData : t.width ≤ ((payload.drop (offset + 2)).take t.width).length := by
      rw [List.length_take, List.length_drop]
      omega
    rw [if_neg hShort, slice?, if_pos (Nat.le_of_not_lt hShort), Option.bind_some,
      SensorType.readAll?_eq_some hData]
    rfl

/-- All bytes that decoding asks for lie in the payload. -/
theorem decodeAt?_isSome (payload : List UInt8) (offset : Nat) :
    (decodeAt? payload offset).isSome := by
  induction offset using decodeAt?.induct payload with
  | case1 offset hMore hNone =>
    have hSome := readingAt?_isSome payload offset
    rw [hNone] at hSome
    cases hSome
  | case2 offset hMore e hError =>
    rw [decodeAt?, if_pos hMore, hError]
    rfl
  | case3 offset hMore r hReading ih =>
    rw [decodeAt?, if_pos hMore, hReading]
    exact Option.isSome_map.trans ih
  | case4 offset hEnd =>
    rw [decodeAt?, if_neg hEnd]
    rfl

/-- The readings of a payload, or what is wrong with the first that is not well formed. -/
def decodeReadings (payload : List UInt8) : Except PayloadError (List Reading) :=
  (decodeAt? payload 0).get (decodeAt?_isSome payload 0)

/-- The object that a list of readings makes: the last reading of a type and channel counts. -/
def object (readings : List Reading) : Json :=
  .object (readings.foldl (fun members r => Json.insertMember members r.name r.value) [])

/-- Decodes a payload. -/
def decode (payload : List UInt8) : Except PayloadError Json := object <$> decodeReadings payload

end Lorawan.Cayenne
