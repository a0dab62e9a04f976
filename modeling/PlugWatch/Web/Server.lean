import PlugWatch.Config
import PlugWatch.Web.Address
/-!
# Options of the web server

## Main Definitions

* `ServerOptions` : where to listen, and whether pages of any origin may ask.
* `ServerOptions.ofConfig` : the options that a configuration asks for.
-/

namespace PlugWatch

/-- Where the server listens, and whether pages of any origin may ask. -/
structure ServerOptions where
  address : SocketAddress := ⟨.any, 8080⟩
  corsPermissive : Bool := true
  deriving DecidableEq, Repr

namespace ServerOptions

/-- The usual options at an address. -/
def listeningAt (address : SocketAddress) : ServerOptions := { address := address }

/-- The same options with the given leave for other origins. -/
def withCors (options : ServerOptions) (permissive : Bool) : ServerOptions :=
  { options with corsPermissive := permissive }

/-- The options that a configuration asks for. A host that is no address means all interfaces. -/
def ofConfig (config : WebConfig) : ServerOptions where
  address := ⟨(IpAddress.parse? config.host.text.toList).getD .any, config.port⟩
  corsPermissive := config.corsPermissive

end ServerOptions

end PlugWatch
