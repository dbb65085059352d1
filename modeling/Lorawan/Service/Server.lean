import Lorawan.Service.DeviceState
import Lorawan.Service.Uplink

/-!
# The server

All services together: one operation for each kind of request.
-/

namespace Lorawan

/-- What the services of a server share. -/
structure Server where
  keks : KekSet
  decoder : UplinkDecoder

namespace Server

/-- Carries out a request. -/
def handle (server : Server) : Request → Service Unit
  | .uplink r => Service.uplink server.keks server.decoder r
  | .ack r => Service.ack r
  | .error r => Service.error r
  | .status r => Service.status r
  | .location r => Service.location r

end Server

end Lorawan
