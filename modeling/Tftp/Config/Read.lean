import Tftp.Config.Settings
import Tftp.Json.Typed

/-!
# Settings as JSON

Settings are read from a JSON object whose keys are the field names, `bind_ip`, `port`,
`root_dir`, `max_sessions`, `server`, `compress` and `transfer` (itself an object of
`timeout_ms`, `recv_tries` and `max_retries`), or from an array of the fields in that order.
Missing fields keep their defaults and unknown keys are ignored. Addresses are strings in their
usual text; a failure to read one is reported as `invalid IP address syntax` or
`invalid socket address syntax`.
-/

namespace Tftp.Config

open Tftp.Json Tftp.Net

/-- The largest value of a 32-bit count. -/
def u32Max : Nat := Nat.pow 2 32 - 1

/-- Reads an IP address from a string. -/
def readIp : ReadM IpAddr :=
  readText "IP address" fun s =>
    match IpAddr.parse? s with
    | some ip => .ok ip
    | none => .error "invalid IP address syntax"

/-- Reads a socket address from a string. -/
def readSocketAddr : ReadM SocketAddr :=
  readText "socket address" fun s =>
    match SocketAddr.parse? s with
    | some a => .ok a
    | none => .error "invalid socket address syntax"

/-- Reads a path from a string. -/
def readPath : ReadM String := readText "path string" .ok

/-- The fields of `TransferSettings`. -/
def transferShape : Shape TransferSettings where
  name := "TransferConfig"
  fields := ["timeout_ms", "recv_tries", "max_retries"]
  field
    | 0, t => return { t with timeoutMs := ← readUnsigned u64Max "u64" }
    | 1, t => return { t with recvTries := ← readUnsigned u32Max "u32" }
    | _, t => return { t with maxRetries := ← readUnsigned u32Max "u32" }

/-- The fields of `ServerSettings`. -/
def serverShape : Shape ServerSettings where
  name := "ServerConfig"
  fields := ["bind_ip", "port", "root_dir", "max_sessions", "transfer"]
  field
    | 0, s => return { s with bindIp := ← readIp }
    | 1, s => return { s with port := (← readUnsigned 0xFFFF "u16").toUInt16 }
    | 2, s => return { s with rootDir := ← readPath }
    | 3, s => return { s with maxSessions := ← readUnsigned u64Max "usize" }
    | _, s => return { s with transfer := ← readRecord transferShape .default }

/-- The fields of `ClientSettings`. -/
def clientShape : Shape ClientSettings where
  name := "ClientConfig"
  fields := ["bind_ip", "server", "root_dir", "compress", "transfer"]
  field
    | 0, c => return { c with bindIp := ← readIp }
    | 1, c => return { c with server := ← readSocketAddr }
    | 2, c => return { c with rootDir := ← readPath }
    | 3, c => return { c with compress := ← readBool }
    | _, c => return { c with transfer := ← readRecord transferShape .default }

/-- Server settings from JSON text. -/
def ServerSettings.ofJson (text : String) : Except Json.Error ServerSettings :=
  readDocument serverShape .default text

/-- Client settings from JSON text. -/
def ClientSettings.ofJson (text : String) : Except Json.Error ClientSettings :=
  readDocument clientShape .default text

end Tftp.Config
