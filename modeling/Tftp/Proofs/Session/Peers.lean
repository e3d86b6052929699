import Tftp.Proofs.Session.Retries
import Tftp.Transfer.Server
import Mathlib

/-!
# Transfer IDs

A session talks to one peer address. A session made with `withPeer a` takes datagrams from `a`
only. A session made with `withServer s` takes the first datagram from any port of `s`'s host,
and that datagram fixes the peer to its source: from then on the session is the `withPeer` session
of that source. Every other datagram is a stranger's. It is answered with one ERROR
`Unknown transfer ID` sent to its own source, and it changes nothing else. The session and its
count of soft failures are left alone, and so is the caller's transfer.

`Peer.admits` states which sources a peer takes. `Session.recv` is a receive over the datagrams
that arrive, in order. `recv_run_cases` gives its run on every sequence of datagrams.
`Client.deliver_run_stranger` and `Server.deliver_run_stranger` are the stranger cases of the two
callers.
-/

namespace Tftp

open Tftp.Net

/-- Whether a session with this peer takes a datagram from `src`. A fixed peer takes its own
address only; a pending one takes any port of the server's host. -/
def Peer.admits : Peer → SocketAddr → Bool
  | .fixed a, src => a == src
  | .pending server, src => server.ip == src.ip

/-- What a datagram from the peer brings: the packet that the first receive buffer of it decodes
to, or `invalid`. -/
def Incoming.ofPayload (payload : List UInt8) : Incoming :=
  match Packet.decode (payload.take receiveBufferSize) with
  | .ok p => .packet p
  | .error _ => .invalid

/-- The datagram that answers a stranger: ERROR 5 with its standard text. -/
def strangerReply : List UInt8 := [0, 5, 0, 5] ++ Utf8.encode "Unknown transfer ID" ++ [0]

theorem toBytes_unknownTid :
    (Packet.error .unknownTid ErrorCode.unknownTid.defaultMessage).toBytes = .ok strangerReply := by
  decide

/-- A stranger reads its answer as ERROR `Unknown transfer ID`. -/
theorem decode_strangerReply :
    Packet.decode strangerReply = .ok (.error .unknownTid "Unknown transfer ID") := by
  have hz : (0 : UInt8) ∉ Utf8.encode "Unknown transfer ID" := by decide
  rw [strangerReply, show ([0, 5, 0, 5] : List UInt8) =
    wordBytes Opcode.error.toNat ++ wordBytes ErrorCode.unknownTid.toNat from rfl,
    decode_error_bytes _ hz, Utf8.decodeLossy_encode]

@[simp] theorem Peer.admits_fixed (a src : SocketAddr) :
    (Peer.fixed a).admits src = true ↔ src = a := by
  simp only [admits, beq_iff_eq]
  exact eq_comm

@[simp] theorem Peer.admits_pending (server src : SocketAddr) :
    (Peer.pending server).admits src = true ↔ src.ip = server.ip := by
  simp only [admits, beq_iff_eq]
  exact eq_comm

/-- Once fixed, the peer of a client session is that of the server session of its source. -/
theorem withServer_fix (socket server src : SocketAddr) (n : Nat) :
    { Session.withServer socket server n with peer := .fixed src } =
      Session.withPeer socket src n := rfl

namespace Session

variable {w : Wiretap}

/-- The answers to the strangers among `ds`: one ERROR each, from the session's socket to the
stranger's own source. -/
def replies (s : Session) (ds : List Datagram) : List Transmission :=
  ds.map fun d => ⟨s.socket, d.source, strangerReply⟩

/-- A stranger is answered once, whatever the host does with the answer. -/
theorem rejectStranger_run (s : Session) (src : SocketAddr) :
    (s.rejectStranger src : TapM _).run w = ((), w.record [⟨s.socket, src, strangerReply⟩]) := by
  simp only [rejectStranger, toBytes_unknownTid]
  rw [StateM.run_bind_of_run (TapM.run_transmit _ _ _)]
  rfl

/-- A datagram the peer admits is handed over, with the peer fixed to its source; nothing is
sent. -/
theorem classify_run_admitted (s : Session) {d : Datagram} (h : s.peer.admits d.source = true) :
    (s.classify d : TapM _).run w =
      (some ({ s with peer := .fixed d.source }, .ofPayload d.payload), w) := by
  unfold classify
  cases hp : s.peer with
  | fixed a =>
    -- a fixed peer admits its own address only, so fixing it changes nothing
    rw [hp, Peer.admits_fixed] at h
    subst h
    rw [show { s with peer := .fixed d.source } = s by rw [← hp]]
    simp only [beq_self_eq_true, if_true]
    split <;> simp only [Incoming.ofPayload, *] <;> rfl
  | pending server =>
    rw [hp] at h
    simp only [Peer.admits] at h
    simp only [h, if_true]
    split <;> simp only [Incoming.ofPayload, *] <;> rfl

/-- A stranger's datagram is answered once and not handed over; the session is not returned, so
whoever waits keeps the one it had. -/
theorem classify_run_stranger (s : Session) {d : Datagram} (h : s.peer.admits d.source = false) :
    (s.classify d : TapM _).run w = (none, w.record [⟨s.socket, d.source, strangerReply⟩]) := by
  unfold classify
  -- whichever kind of peer it is, it refuses the source, and the stranger is answered
  cases hp : s.peer <;> simp only [hp, Peer.admits] at h <;>
    simp only [h, Bool.false_eq_true, if_false] <;>
    rw [StateM.run_bind_of_run (rejectStranger_run s d.source)] <;> rfl

/-! ## A receive -/

variable {m : Type → Type} [Monad m] [Host m]

/-- A receive over the datagrams that arrive, in order. Each stranger is answered and skipped. The
first datagram the peer admits is handed over, with the session it leaves and the datagrams after
it. -/
def recv (s : Session) : List Datagram → m (Option (Session × Incoming) × List Datagram)
  | [] => pure (none, [])
  | d :: ds => do
    match ← s.classify d with
    | none => s.recv ds
    | some r => pure (some r, ds)

/-- A receive over strangers only answers each of them, in order, and hands nothing over. -/
theorem recv_run_strangers (s : Session) {ds : List Datagram}
    (h : ∀ d ∈ ds, s.peer.admits d.source = false) :
    (s.recv ds : TapM _).run w = ((none, []), w.record (s.replies ds)) := by
  induction ds generalizing w with
  | nil =>
    simp only [replies, List.map_nil, Wiretap.record_nil]
    rfl
  | cons d ds ih =>
    rw [recv, StateM.run_bind_of_run (classify_run_stranger s (h d List.mem_cons_self))]
    simp only
    rw [ih fun x hx => h x (List.mem_cons_of_mem _ hx)]
    simp [replies]

/-- A receive answers the strangers before the first datagram the peer admits and hands that
datagram over, with the peer fixed to its source. -/
theorem recv_run_admitted (s : Session) {pre rest : List Datagram} {d : Datagram}
    (hpre : ∀ x ∈ pre, s.peer.admits x.source = false) (hd : s.peer.admits d.source = true) :
    (s.recv (pre ++ d :: rest) : TapM _).run w =
      ((some ({ s with peer := .fixed d.source }, .ofPayload d.payload), rest),
        w.record (s.replies pre)) := by
  induction pre generalizing w with
  | nil =>
    rw [List.nil_append, recv, StateM.run_bind_of_run (classify_run_admitted s hd)]
    simp [replies]
    rfl
  | cons x pre ih =>
    rw [List.cons_append, recv,
      StateM.run_bind_of_run (classify_run_stranger s (hpre x List.mem_cons_self))]
    simp only
    rw [ih fun y hy => hpre y (List.mem_cons_of_mem _ hy)]
    simp [replies]

/-- Every receive, over every sequence of datagrams from any sources, is one of two runs. Either
no datagram is admitted, and each is answered as a stranger's. Or the first admitted one is handed
over, with the peer fixed to its source, after the strangers before it are answered; the datagrams
after it wait for the next receive. -/
theorem recv_run_cases (s : Session) (ds : List Datagram) (w : Wiretap) :
    ((∀ d ∈ ds, s.peer.admits d.source = false) ∧
      (s.recv ds : TapM _).run w = ((none, []), w.record (s.replies ds))) ∨
    ∃ pre d rest, ds = pre ++ d :: rest ∧ (∀ x ∈ pre, s.peer.admits x.source = false) ∧
      s.peer.admits d.source = true ∧
      (s.recv ds : TapM _).run w =
        ((some ({ s with peer := .fixed d.source }, .ofPayload d.payload), rest),
          w.record (s.replies pre)) := by
  by_cases hall : ∀ d ∈ ds, s.peer.admits d.source = false
  · exact .inl ⟨hall, recv_run_strangers s hall⟩
  · -- split at the first datagram the peer admits
    simp only [not_forall, Bool.not_eq_false] at hall
    obtain ⟨d, hmem, hd⟩ := hall
    have hfind : ds.find? (fun x => s.peer.admits x.source) ≠ none := by
      rw [ne_eq, List.find?_eq_none]
      exact fun hnone => hnone d hmem hd
    obtain ⟨y, hy⟩ := Option.ne_none_iff_exists'.1 hfind
    obtain ⟨hys, pre, rest, hsplit, hpre⟩ := List.find?_eq_some_iff_append.1 hy
    have hpre' : ∀ x ∈ pre, s.peer.admits x.source = false := fun x hx => by
      simpa using hpre x hx
    refine .inr ⟨pre, y, rest, hsplit, hpre', hys, ?_⟩
    rw [hsplit]
    exact recv_run_admitted s hpre' hys

/-- What a receive hands over: the first datagram the peer admits, after strangers that were each
answered, with the peer fixed to its source. -/
theorem recv_run_eq_some {s s' : Session} {ds rest : List Datagram} {i : Incoming} {w w' : Wiretap}
    (h : (s.recv ds : TapM _).run w = ((some (s', i), rest), w')) :
    ∃ pre d, ds = pre ++ d :: rest ∧ (∀ x ∈ pre, s.peer.admits x.source = false) ∧
      s.peer.admits d.source = true ∧ i = .ofPayload d.payload ∧
      s' = { s with peer := .fixed d.source } ∧ w' = w.record (s.replies pre) := by
  rcases recv_run_cases s ds w with ⟨-, hrun⟩ | ⟨pre, d, rest', hds, hpre, hd, hrun⟩
  · rw [hrun] at h
    cases h
  · rw [hrun] at h
    have h' : ((some ({ s with peer := .fixed d.source }, Incoming.ofPayload d.payload), rest'),
        w.record (s.replies pre)) = ((some (s', i), rest), w') := h
    simp only [Prod.mk.injEq, Option.some.injEq] at h'
    obtain ⟨⟨⟨rfl, rfl⟩, rfl⟩, rfl⟩ := h'
    exact ⟨pre, d, hds, hpre, hd, rfl, rfl, rfl⟩

end Session

/-! ## The callers -/

section Callers

variable {w : Wiretap}

/-- A stranger's datagram delivered to a client operation is answered once, and the operation
goes on exactly as it was: same session, same count of soft failures, same wait. -/
theorem Client.deliver_run_stranger (c : Client) (run : ClientRun) {d : Datagram}
    (h : run.session.peer.admits d.source = false) :
    (c.deliver run d : TapM _).run w =
      ((c, .running run), w.record [⟨run.session.socket, d.source, strangerReply⟩]) := by
  unfold Client.deliver
  rw [StateM.run_bind_of_run (Session.classify_run_stranger _ h)]
  rfl

/-- An admitted datagram delivered to a client operation reaches its machine, with the peer fixed
to the datagram's source. -/
theorem Client.deliver_run_admitted (c : Client) (run : ClientRun) {d : Datagram}
    (h : run.session.peer.admits d.source = true) :
    (c.deliver run d : TapM _).run w =
      (c.step { run with session := { run.session with peer := .fixed d.source } }
        (.ofPayload d.payload) : TapM _).run w := by
  unfold Client.deliver
  rw [StateM.run_bind_of_run (Session.classify_run_admitted _ h)]

/-- A stranger's datagram delivered to a server session is answered once, and the server goes on
exactly as it was. -/
theorem Server.deliver_run_stranger (srv : Server) {i : Nat} {ss : ServerSession} {d : Datagram}
    (hi : srv.sessions[i]? = some ss) (h : ss.session.peer.admits d.source = false) :
    (srv.deliver i d : TapM _).run w =
      (srv, w.record [⟨ss.session.socket, d.source, strangerReply⟩]) := by
  unfold Server.deliver
  simp only [hi]
  rw [StateM.run_bind_of_run (Session.classify_run_stranger _ h)]
  rfl

end Callers

/-! ## Transfer IDs -/

/-- The transfer IDs of a session. A receive over any sequence of datagrams from any sources either
answers them all as strangers or hands over the first one the peer admits, after answering the
strangers before it. A `withPeer a` session hands over datagrams from `a` only and stays as it was.
A `withServer` session hands over the first datagram from the server's host, and from then on it
is the `withPeer` session of that datagram's source. Each stranger gets one datagram, from the
session's socket to its own source, which reads as ERROR `Unknown transfer ID`. A stranger's
datagram leaves a client operation or a server exactly as they were, nothing counted. -/
theorem transfer_ids :
    (∀ (s : Session) (ds : List Datagram) (w : Wiretap),
      ((∀ d ∈ ds, s.peer.admits d.source = false) ∧
        (s.recv ds : TapM _).run w = ((none, []), w.record (s.replies ds))) ∨
      ∃ pre d rest, ds = pre ++ d :: rest ∧ (∀ x ∈ pre, s.peer.admits x.source = false) ∧
        s.peer.admits d.source = true ∧
        (s.recv ds : TapM _).run w =
          ((some ({ s with peer := .fixed d.source }, .ofPayload d.payload), rest),
            w.record (s.replies pre))) ∧
    (∀ (socket a : SocketAddr) (n : Nat) (ds rest : List Datagram) (s' : Session) (i : Incoming)
      (w w' : Wiretap),
      ((Session.withPeer socket a n).recv ds : TapM _).run w = ((some (s', i), rest), w') →
      ∃ pre d, ds = pre ++ d :: rest ∧ (∀ x ∈ pre, x.source ≠ a) ∧ d.source = a ∧
        i = .ofPayload d.payload ∧ s' = Session.withPeer socket a n ∧
        w' = w.record ((Session.withPeer socket a n).replies pre)) ∧
    (∀ (socket server : SocketAddr) (n : Nat) (ds rest : List Datagram) (s' : Session)
      (i : Incoming) (w w' : Wiretap),
      ((Session.withServer socket server n).recv ds : TapM _).run w = ((some (s', i), rest), w') →
      ∃ pre d, ds = pre ++ d :: rest ∧ (∀ x ∈ pre, x.source.ip ≠ server.ip) ∧
        d.source.ip = server.ip ∧ i = .ofPayload d.payload ∧
        s' = Session.withPeer socket d.source n ∧
        w' = w.record ((Session.withServer socket server n).replies pre)) ∧
    Packet.decode strangerReply = .ok (.error .unknownTid "Unknown transfer ID") ∧
    (∀ (c : Client) (run : ClientRun) (d : Datagram) (w : Wiretap),
      run.session.peer.admits d.source = false →
      (c.deliver run d : TapM _).run w =
        ((c, .running run), w.record [⟨run.session.socket, d.source, strangerReply⟩])) ∧
    (∀ (srv : Server) (i : Nat) (ss : ServerSession) (d : Datagram) (w : Wiretap),
      srv.sessions[i]? = some ss → ss.session.peer.admits d.source = false →
      (srv.deliver i d : TapM _).run w =
        (srv, w.record [⟨ss.session.socket, d.source, strangerReply⟩])) := by
  refine ⟨Session.recv_run_cases, ?_, ?_, decode_strangerReply,
    fun c run _ _ h => Client.deliver_run_stranger c run h,
    fun srv _ _ _ _ hi h => Server.deliver_run_stranger srv hi h⟩
  · -- a fixed peer admits its own address and nothing else, and fixing it again changes nothing
    intro socket a n ds rest s' i w w' h
    obtain ⟨pre, d, hds, hpre, hd, hi, hs', hw'⟩ := Session.recv_run_eq_some h
    have hda : d.source = a := (Peer.admits_fixed a d.source).1 hd
    refine ⟨pre, d, hds, fun x hx hxa => ?_, hda, hi, by rw [hs', hda]; rfl, hw'⟩
    have := hpre x hx
    rw [show (Session.withPeer socket a n).peer = .fixed a from rfl, hxa] at this
    simp [Peer.admits] at this
  · -- a pending peer admits the server's host, and fixing it gives the server session's peer
    intro socket server n ds rest s' i w w' h
    obtain ⟨pre, d, hds, hpre, hd, hi, hs', hw'⟩ := Session.recv_run_eq_some h
    refine ⟨pre, d, hds, fun x hx hip => ?_, (Peer.admits_pending server d.source).1 hd, hi,
      by rw [hs', withServer_fix], hw'⟩
    have := hpre x hx
    rw [show (Session.withServer socket server n).peer = .pending server from rfl] at this
    simp [Peer.admits, hip] at this

/-- A client session waiting for the server at 127.0.0.1:69 answers a datagram from another host
as a stranger's, takes the ACK that comes next from port 7000 of the server's host, and is from
then on the session of 127.0.0.1:7000. -/
theorem recv_fixes_peer_after_stranger :
    ((Session.withServer (.ofIp .localhost 1024) (.ofIp .localhost 69) 3).recv
        [⟨.ofIp (.v4 10 0 0 1) 5000, [0, 4, 0, 0]⟩, ⟨.ofIp .localhost 7000, [0, 4, 0, 0]⟩] :
        TapM _).run Wiretap.faithful =
      ((some (Session.withPeer (.ofIp .localhost 1024) (.ofIp .localhost 7000) 3,
          .ofPayload [0, 4, 0, 0]), []),
        Wiretap.faithful.record [⟨.ofIp .localhost 1024, .ofIp (.v4 10 0 0 1) 5000, strangerReply⟩]) ∧
    ∃ pre d, [⟨.ofIp (.v4 10 0 0 1) 5000, [0, 4, 0, 0]⟩, ⟨.ofIp .localhost 7000, [0, 4, 0, 0]⟩] =
        pre ++ d :: [] ∧ (∀ x ∈ pre, x.source.ip ≠ (SocketAddr.ofIp .localhost 69).ip) ∧
      d.source.ip = (SocketAddr.ofIp .localhost 69).ip ∧ Incoming.ofPayload [0, 4, 0, 0] = .ofPayload d.payload ∧
      Session.withPeer (.ofIp .localhost 1024) (.ofIp .localhost 7000) 3 =
        Session.withPeer (.ofIp .localhost 1024) d.source 3 ∧
      Wiretap.faithful.record [⟨.ofIp .localhost 1024, .ofIp (.v4 10 0 0 1) 5000, strangerReply⟩] =
        Wiretap.faithful.record
          ((Session.withServer (.ofIp .localhost 1024) (.ofIp .localhost 69) 3).replies pre) :=
  have h : ((Session.withServer (.ofIp .localhost 1024) (.ofIp .localhost 69) 3).recv
        [⟨.ofIp (.v4 10 0 0 1) 5000, [0, 4, 0, 0]⟩, ⟨.ofIp .localhost 7000, [0, 4, 0, 0]⟩] :
        TapM _).run Wiretap.faithful =
      ((some (Session.withPeer (.ofIp .localhost 1024) (.ofIp .localhost 7000) 3,
          .ofPayload [0, 4, 0, 0]), []),
        Wiretap.faithful.record [⟨.ofIp .localhost 1024, .ofIp (.v4 10 0 0 1) 5000, strangerReply⟩]) := by
    rw [← List.singleton_append]
    exact Session.recv_run_admitted _ (by decide) (by decide)
  ⟨h, transfer_ids.2.2.1 _ _ _ _ _ _ _ _ _ h⟩

end Tftp
