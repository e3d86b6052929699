import Tftp.Command.Args
import Tftp.Config.Env
import Tftp.Transfer.Server
import Tftp.Transfer.Client
import Std.Async.UDP
import Std.Async.Timer

/-!
# The programs

`tftp server BIND_IP ...` serves a store held in memory on a UDP socket until a line
`END_SERVER` is typed, then lets its running transfers finish. `tftp client OPERATION FILE
SERVER_IP ...` runs one operation against a server: what it writes is read from standard input,
and what it reads is printed to standard output. Settings come from the defaults and the
environment, and the command line overrides them.

The transfer machines only react to what they are handed; here they run on real sockets and the
real clock. Each loop waits for the first datagram on any of the sockets that matter or for the
earliest deadline, whichever comes first, and hands it over.
-/

namespace Tftp.Live

open Tftp.Net Tftp.Config Tftp.Command Std.Async

/-- The size of the receive buffer; the machines cut what they read to their own limit. -/
def receiveSize : UInt64 := 65536

/-- How long the server waits at most before looking at the console again. -/
def pollMs : Nat := 200

/-- The address in the socket library's terms. -/
def stdIp : IpAddr → Std.Net.IPAddr
  | .v4 a b c d => .v4 (.ofParts a b c d)
  | .v6 gs => .v6 { segments := Vector.ofFn fun (i : Fin 8) => gs.getD i.val 0 }

/-- A socket address in the socket library's terms. -/
def stdAddress (a : SocketAddr) : Std.Net.SocketAddress :=
  match stdIp a.ip with
  | .v4 ip => .v4 { addr := ip, port := a.port }
  | .v6 ip => .v6 { addr := ip, port := a.port }

/-- A socket address from the socket library. -/
def ofStdAddress : Std.Net.SocketAddress → SocketAddr
  | .v4 sa =>
    .ofIp (.v4 sa.addr.octets[0] sa.addr.octets[1] sa.addr.octets[2] sa.addr.octets[3]) sa.port
  | .v6 sa => .ofIp (.v6 sa.addr.segments.toList) sa.port

/-- The system error behind a failed socket call. -/
def errnoOf : IO.Error → Errno
  | .alreadyExists _ code text | .otherError code text | .resourceBusy code text
  | .resourceVanished code text | .unsupportedOperation code text | .hardwareFault code text
  | .unsatisfiedConstraints code text | .illegalOperation code text | .protocolError code text
  | .timeExpired code text | .interrupted _ code text | .noFileOrDirectory _ code text
  | .invalidArgument _ code text | .permissionDenied _ code text
  | .resourceExhausted _ code text | .inappropriateType _ code text
  | .noSuchThing _ code text => .other code.toNat text
  | e => .other 0 (toString e)

/-- The sockets the programs hold, by the address each is bound to, and when they started. -/
structure Sockets where
  bound : List (SocketAddr × UDP.Socket) := []
  start : Nat

/-- Computations on the real host. -/
abbrev LiveM := StateT Sockets IO

/-- Binds a socket and keeps it: the address it got. -/
def bindSocket (addr : SocketAddr) : LiveM (Except Errno SocketAddr) := do
  try
    let s ← UDP.Socket.mk
    s.bind (stdAddress addr)
    let addr := ofStdAddress (← s.getSockName)
    modify fun k => { k with bound := k.bound ++ [(addr, s)] }
    return .ok addr
  catch e => return .error (errnoOf e)

/-- The real host. -/
instance : Host LiveM where
  transmit src dst payload := do
    match (← get).bound.lookup src with
    | none => return .error .badDescriptor
    | some s =>
      try
        (s.send (ByteArray.mk payload.toArray) (some (stdAddress dst))).block
        return .ok payload.length
      catch e => return .error (errnoOf e)
  now := do return (← IO.monoMsNow) - (← get).start
  bindTransfer ip := do
    match ← bindSocket (.ofIp ip 0) with
    | .ok addr => return some addr
    | .error _ => return none
  release addr := modify fun k => { k with bound := k.bound.filter (·.1 != addr) }

/-- Waits up to `ms` for a datagram at any of some tagged sockets. -/
def awaitAny {τ : Type} (socks : List (τ × SocketAddr)) (ms : Nat) :
    LiveM (Option (τ × Datagram)) := do
  let bound := (← get).bound
  let sleeper ← (Selector.sleep (Std.Time.Millisecond.Offset.ofNat (max ms 1))).block
  let cases := socks.filterMap fun (t, addr) => (bound.lookup addr).map fun s =>
    Selectable.case (s.recvSelector receiveSize) fun (bytes, source) =>
      pure (some (t, { source := (source.map ofStdAddress).getD addr, payload := bytes.toList }))
  (Selectable.one (cases.toArray.push (.case sleeper fun _ => pure none))).block

/-! ## The server -/

/-- Where a datagram reached the server. -/
inductive Arrival where
  | request
  | session (i : Nat)

/-- Reads console lines until `END_SERVER`, which raises `stop`, or the end of input. -/
partial def watchConsole (stop : IO.Ref Bool) : IO Unit := do
  let line ← (← IO.getStdin).getLine
  if line.isEmpty then return
  if isEndCommand line then
    IO.eprintln (endCommand ++ " received, shutting down")
    stop.set true
  else watchConsole stop

/-- Runs the server until it is stopped and its sessions have run out. -/
partial def serve (stop : IO.Ref Bool) (srv : Server) : LiveM Unit := do
  let srv := if ← stop.get then { srv with accepting := false } else srv
  if !srv.accepting && srv.sessions.isEmpty then return
  let now ← Host.now
  match srv.sessions.findIdx? (·.deadline ≤ now) with
  | some i => serve stop (← srv.expire i)
  | none =>
    let horizon := srv.sessions.foldl (fun t ss => min t ss.deadline) (now + pollMs)
    let socks := (if srv.accepting then [(Arrival.request, srv.listen)] else []) ++
      srv.sessions.mapIdx fun i ss => (Arrival.session i, ss.session.socket)
    match ← awaitAny socks (horizon - now) with
    | some (.request, d) => serve stop (← srv.dispatch d)
    | some (.session i, d) => serve stop (← srv.deliver i d)
    | none => serve stop srv

/-- The server program. -/
def runServer (args : ServerArgs) (env : Env) : IO UInt32 := do
  let settings := args.apply (ServerSettings.load none env)
  let stop ← IO.mkRef false
  let run : LiveM UInt32 := do
    match ← bindSocket settings.bindAddr with
    | .error e =>
      IO.eprintln ("Error: Failed to bind TFTP server socket on " ++ settings.bindAddr.toText ++
        "\n\nCaused by:\n    " ++ e.message)
      return 1
    | .ok listen =>
      IO.eprintln ("TFTP server listening on " ++ listen.toText)
      discard <| IO.asTask (watchConsole stop) Task.Priority.dedicated
      serve stop { settings, listen, store := .ofVolume settings.rootDir {} }
      return 0
  run.run' { start := ← IO.monoMsNow }

/-! ## The client -/

/-- Reads standard input to its end. -/
partial def readInput (acc : ByteArray) : IO ByteArray := do
  let chunk ← (← IO.getStdin).read 65536
  if chunk.isEmpty then return acc else readInput (acc ++ chunk)

/-- Follows an operation to its end. -/
partial def follow (c : Client) : ClientFlow → LiveM (Client × Except TransferError Summary)
  | .finished r => return (c, r)
  | .running run => do
    let now ← Host.now
    if run.deadline ≤ now then
      let (c, flow) ← c.step run .timeout
      follow c flow
    else
      match ← awaitAny [((), run.session.socket)] (run.deadline - now) with
      | some (_, d) =>
        let (c, flow) ← c.deliver run d
        follow c flow
      | none => follow c (.running run)

/-- The client program. -/
def runClient (args : ClientArgs) (env : Env) : IO UInt32 := do
  let settings := args.apply (ClientSettings.load none env)
  let volume : Volume ← match args.operation with
    | .write =>
      let bytes ← readInput .empty
      match ({} : Volume).writeFile args.file bytes.toList with
      | .ok v => pure v
      | .error _ => pure {}
    | _ => pure {}
  let client : Client := { settings, store := .ofVolume settings.rootDir volume }
  let run : LiveM (Client × Except TransferError Summary) := do
    let (c, flow) ← client.begin args.operation args.file
    follow c flow
  let ((c, result), _) ← run.run { start := ← IO.monoMsNow }
  match result with
  | .error e =>
    IO.eprintln ("Error: Failed to " ++ args.operation.name ++ " '" ++ args.file ++
      "'\n\nCaused by:\n    " ++ e.message)
    return 1
  | .ok summary =>
    if args.operation == .read then
      match c.store.volume.readFile args.file with
      | .ok bytes => (← IO.getStdout).write (ByteArray.mk bytes.toArray)
      | .error _ => pure ()
    IO.eprintln ("Done: " ++ summary.operation.name ++ " '" ++ summary.fileName ++ "' (" ++
      toString summary.stats.blocks ++ " blocks, " ++ toString summary.stats.bytes ++ " bytes)")
    return 0

/-- The variables the settings read, as they are now. -/
def environment : IO Env := do
  let keys := [serverRootVar, clientRootVar, timeoutVar, maxRetriesVar]
  let values ← keys.mapM fun k => return (k, ← IO.getEnv k)
  return fun k => (values.lookup k).join

/-- Prints what reading a command line gave, or runs the program. -/
def launch {α : Type} (spec : Spec α) (init : α) (args : List String)
    (start : α → IO UInt32) : IO UInt32 := do
  match spec.parse init args with
  | .run a => start a
  | .help text => IO.println text; return 0
  | .error text =>
    IO.eprintln (text ++ "\nRun " ++ spec.command ++ " --help for more information.")
    return 1

end Tftp.Live

open Tftp.Live Tftp.Command in
/-- Runs the server or the client, as the first argument says. -/
def main (args : List String) : IO UInt32 := do
  let env ← environment
  match args with
  | "server" :: rest => launch serverSpec {} rest fun a => runServer a env
  | "client" :: rest => launch clientSpec {} rest fun a => runClient a env
  | _ =>
    IO.eprintln "Usage: tftp server|client ARGS..."
    return 1
