import Lorawan.Codec.PayloadCodec
import Lorawan.Crypto.Key
import Lorawan.Device
import Lorawan.Table

/-!
# The store

Devices, applications, gateways and activations.  Activations are only ever added; the newest one of a
device is its session.
-/

namespace Lorawan

/-- An application, which owns devices. -/
structure Application where
  id : Int64
  name : String
  codec : PayloadCodec
  deriving DecidableEq

/-- A gateway. -/
structure Gateway where
  gatewayId : Eui64
  name : String
  deriving DecidableEq

/-- A completed join. -/
structure Activation where
  /-- The place in the order of insertion, counted from one. -/
  id : Nat
  devEui : Eui64
  devAddr : DevAddr
  appSKey : Aes128Key
  createdAt : Time.Instant
  deriving DecidableEq

/-- Whether the first activation is no newer than the second: of two that were created at the same time
the one that was inserted later is the newer. -/
def Activation.le (a b : Activation) : Bool :=
  if a.createdAt = b.createdAt then a.id ≤ b.id else a.createdAt ≤ b.createdAt

/-- The store. -/
structure Store where
  devices : Table Eui64 Device
  applications : Table Int64 Application
  gateways : Table Eui64 Gateway
  activations : List Activation

namespace Store

/-- The store that holds nothing. -/
def empty : Store := ⟨.empty, .empty, .empty, []⟩

instance : Inhabited Store := ⟨empty⟩

/-! ## Registration -/

/-- Registers a device. -/
def insertDevice (s : Store) (d : Device) : Store :=
  { s with devices := s.devices.insert d.devEui d }

/-- Registers an application. -/
def insertApplication (s : Store) (a : Application) : Store :=
  { s with applications := s.applications.insert a.id a }

/-- Registers a gateway. -/
def insertGateway (s : Store) (g : Gateway) : Store :=
  { s with gateways := s.gateways.insert g.gatewayId g }

/-! ## Devices, applications and gateways -/

/-- A device by its identifier. -/
def getDevice (s : Store) (devEui : Eui64) : Option Device := s.devices.get? devEui

/-- Changes a device, and gives its record after the change. -/
def updateDevice (s : Store) (devEui : Eui64) (mutation : DeviceMutation) : Option Device × Store :=
  match s.getDevice devEui with
  | none => (none, s)
  | some d =>
    let d := d.apply mutation
    (some d, { s with devices := s.devices.insert devEui d })

/-- An application by its identifier. -/
def getApplication (s : Store) (id : Int64) : Option Application := s.applications.get? id

/-- The known ones among some gateways. -/
def getGateways (s : Store) (ids : List Eui64) : Table Eui64 Gateway :=
  Table.empty.insertAll (ids.filterMap fun id => (s.gateways.get? id).map (id, ·))

/-! ## Activations -/

/-- The activation that would be inserted next. -/
def nextActivation (s : Store) (devEui : Eui64) (devAddr : DevAddr) (appSKey : Aes128Key)
    (createdAt : Time.Instant) : Activation :=
  ⟨s.activations.length + 1, devEui, devAddr, appSKey, createdAt⟩

/-- Adds an activation. -/
def insertActivation (s : Store) (devEui : Eui64) (devAddr : DevAddr) (appSKey : Aes128Key)
    (createdAt : Time.Instant) : Activation × Store :=
  let a := s.nextActivation devEui devAddr appSKey createdAt
  (a, { s with activations := s.activations ++ [a] })

/-- The activations of a device in the order of insertion. -/
def activationsOf (s : Store) (devEui : Eui64) : List Activation :=
  s.activations.filter (·.devEui = devEui)

/-- The newest of some activations. -/
def newest (as : List Activation) : Option Activation :=
  as.foldl (fun best a => if best.all (·.le a) then some a else best) none

/-- The newest activation of a device, which is its session. -/
def lastActivation (s : Store) (devEui : Eui64) : Option Activation :=
  newest (s.activationsOf devEui)

end Store

end Lorawan
