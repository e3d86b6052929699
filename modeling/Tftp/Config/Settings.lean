import Tftp.Net.Address

/-!
# Settings

What a server and a client are configured with, and their defaults.

Every session waits `timeoutMs` milliseconds per attempt to receive, absorbs `recvTries` timeouts
inside one receive, and gives up after `maxRetries` invalid or missing responses in a row. A
server listens on `bindIp:port`, serves the files under `rootDir` and runs at most
`maxSessions` sessions at once; a client binds its session sockets to `bindIp`, talks to
`server`, keeps its files under `rootDir`, and compresses what it sends and decompresses what it
receives when `compress` is set.

Numbers keep the ranges of their fields: `timeoutMs` and `maxSessions` below `2^64`, the
counts below `2^32`.
-/

namespace Tftp.Config

open Tftp.Net

/-- The well-known TFTP port. -/
def wellKnownPort : UInt16 := 69

/-- The home directory the default roots live in. -/
def homeDir : String := "/home/tftp"

/-- Timing and retry budget of one session. -/
structure TransferSettings where
  timeoutMs : Nat
  recvTries : Nat
  maxRetries : Nat
  deriving DecidableEq, Repr

/-- 1800 ms per attempt, three receive attempts, three retries. -/
def TransferSettings.default : TransferSettings :=
  { timeoutMs := 1800, recvTries := 3, maxRetries := 3 }

/-- The longest one receive can wait: the timeout once per attempt, at least once. -/
def TransferSettings.receiveWindow (t : TransferSettings) : Nat :=
  t.timeoutMs * max t.recvTries 1

/-- How a server runs. -/
structure ServerSettings where
  bindIp : IpAddr
  port : UInt16
  rootDir : String
  maxSessions : Nat
  transfer : TransferSettings
  deriving DecidableEq, Repr

/-- A server on every interface at port 69, serving `~/tftpServer`, with 64 sessions. -/
def ServerSettings.default : ServerSettings :=
  { bindIp := .unspecified, port := wellKnownPort, rootDir := homeDir ++ "/tftpServer",
    maxSessions := 64, transfer := .default }

/-- The address a server listens on. -/
def ServerSettings.bindAddr (s : ServerSettings) : SocketAddr :=
  .ofIp s.bindIp s.port

/-- How a client runs. -/
structure ClientSettings where
  bindIp : IpAddr
  server : SocketAddr
  rootDir : String
  compress : Bool
  transfer : TransferSettings
  deriving DecidableEq, Repr

/-- A client of the server at `127.0.0.1:69`, keeping files in `~/tftpClient`, compressing. -/
def ClientSettings.default : ClientSettings :=
  { bindIp := .unspecified, server := .ofIp .localhost wellKnownPort,
    rootDir := homeDir ++ "/tftpClient", compress := true, transfer := .default }

end Tftp.Config
