import Lorawan.Json.Shape

/-!
# Locations

Where a device or a gateway is, in degrees and metres.
-/

namespace Lorawan

open Json (Reader Field Slots)
open Json.Outline (readFloat)

/-- A point on the earth. -/
structure Location where
  latitude : Float
  longitude : Float
  altitude : Float
  deriving Repr

namespace Location

/-- A location as JSON. -/
def toJson (l : Location) : Json :=
  .object [("latitude", .ofFloat l.latitude), ("longitude", .ofFloat l.longitude),
    ("altitude", .ofFloat l.altitude)]

/-- The fields of a location. -/
def fields : List Field :=
  [.required "latitude" readFloat, .required "longitude" readFloat, .required "altitude" readFloat]

/-- Reads a location. -/
def read : Reader Location := fun o => do
  let s ← Slots.of fields o
  return {
    latitude := ← s.required "latitude" readFloat
    longitude := ← s.required "longitude" readFloat
    altitude := ← s.required "altitude" readFloat }

end Location

end Lorawan
