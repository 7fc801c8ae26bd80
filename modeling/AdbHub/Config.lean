import Mathlib

/-!
# Configured backends

The configuration data the device pipeline reads (`config.rs`): `SocketAddr` and
`BackendConfig`.
-/

namespace AdbHub

/-- A socket address. Source: `std::net::SocketAddr`. -/
inductive SocketAddr
  | v4 (ip : BitVec 32) (port : UInt16)
  | v6 (ip : BitVec 128) (port : UInt16) (flowinfo scopeId : UInt32)
  deriving DecidableEq

/-- `127.0.0.1:port`. -/
def SocketAddr.loopback (port : UInt16) : SocketAddr := .v4 0x7f000001#32 port

/-- A configured backend. Source: `config.rs`, `BackendConfig`. -/
structure BackendConfig where
  name : String
  addr : SocketAddr
  /-- Pair code for remote adb-proxy auth; `none` for local adb. -/
  pairCode : Option String
  /-- When false, the backend is not polled and its devices are hidden. -/
  enabled : Bool
  deriving DecidableEq

end AdbHub
