import TgWsProxy.Source.Socks.Auth

/-!
# Configuration

`config.rs`, as far as a running proxy depends on it: the command line's values and
the routing configuration made of them, or the text of the error that stops the
start.
-/

set_option autoImplicit false

namespace TgWsProxy.Source.Config
open Source.Socks

structure CliConfig where
  host : String
  port : UInt16
  readTimeoutSecs : UInt64
  connectTimeoutSecs : UInt64
  healthAddr : String
  socksUsers : String
  deriving DecidableEq, Repr

/-- The values of a command line without arguments. -/
def CliConfig.default : CliConfig := ⟨"::", 1080, 15, 10, "[::]:8080", ""⟩

structure RoutedConfig where
  readTimeoutSecs : UInt64
  connectTimeoutSecs : UInt64
  socksAuth : Option SocksAuthConfig
  deriving DecidableEq, Repr

def RoutedConfig.tryFrom (cfg : CliConfig) : Except String RoutedConfig := do
  let socksAuth ← parseSocksAuth cfg.socksUsers
  return ⟨cfg.readTimeoutSecs, cfg.connectTimeoutSecs, socksAuth⟩

end TgWsProxy.Source.Config
