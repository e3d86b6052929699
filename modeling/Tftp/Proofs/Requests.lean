import Tftp.Proofs.Release.Server
import Tftp.Proofs.Decoding
import Mathlib

/-!
# Answering requests

What the dispatcher does with a datagram that reached the well-known socket, on any host
(`dispatch_answers`). An ERROR is ignored: nothing is sent and the server stays as it was. Anything
else that is not an acceptable request gets one ERROR back from the well-known socket, and the
server, its sessions and its store stay as they were (`Server.Refuses`). The checks run in a fixed
order, each with its code: the packet must decode (`Illegal TFTP operation`) and be a request
(the same code), its mode must be octet (the same code), its file name must be accepted (`Access
violation`), a session slot must be free (`Not defined`). An acceptable request then binds a
transfer socket and starts its session there; without a socket it is refused with `Not defined`.

Every ERROR the server writes fits one datagram and reads back as an ERROR with its code
(`toBytes_error_datagram`). No state a server reaches runs more sessions than its settings allow,
one at least (`Server.withinCapacity_of_run`): only an admitted request adds a session, one, and
it is admitted only while a slot is free.
-/

namespace Tftp

open Tftp.Net NetM

/-- An ERROR message is written into one datagram of at most 516 bytes that reads back as an
ERROR with its code. -/
theorem toBytes_error_datagram (code : ErrorCode) (message : String) :
    ∃ bytes, (Packet.error code message).toBytes = .ok bytes ∧ bytes.length ≤ maxPacketSize ∧
      ∃ text, Packet.decode bytes = .ok (.error code text) := by
  refine ⟨_, toBytes_error code message, ?_, _, decode_error_bytes code fun h => ?_⟩
  · simp only [wordBytes, maxPacketSize, maxPayload, headerSize, List.length_append,
      List.length_cons, List.length_nil, List.length_take]
    omega
  · exact zero_not_mem_messageBytes message (List.mem_of_mem_take h)

namespace Server

/-! ## On any host -/

section Host

variable {m : Type → Type} [Monad m] [LawfulMonad m] [Host m]

/-- `x` sends one ERROR with `code` and `message` from the well-known socket to `dst`, and then
leaves the server as it was. -/
def Refuses (srv : Server) (dst : SocketAddr) (code : ErrorCode) (message : String)
    (x : m Server) : Prop :=
  ∃ bytes, (Packet.error code message).toBytes = .ok bytes ∧
    x = (Host.transmit srv.listen dst bytes >>= fun _ => pure srv)

theorem refuses_refuse (srv : Server) (dst : SocketAddr) (code : ErrorCode) (message : String) :
    srv.Refuses dst code message (srv.refuse dst code message >>= fun _ => pure srv : m Server) := by
  obtain ⟨bytes, hb, -⟩ := toBytes_error_datagram code message
  exact ⟨bytes, hb, by simp only [refuse, hb, bind_assoc, pure_bind]⟩

variable {srv : Server} {d : Datagram}

omit [LawfulMonad m] in
theorem dispatch_of_error {code : ErrorCode} {message : String}
    (h : Packet.decode (d.payload.take receiveBufferSize) = .ok (.error code message)) :
    srv.dispatch d = (pure srv : m Server) := by
  simp only [dispatch, h]

theorem dispatch_of_undecodable {e : CodecError}
    (h : Packet.decode (d.payload.take receiveBufferSize) = .error e) :
    srv.Refuses d.source .illegalOperation "malformed request" (srv.dispatch d : m Server) := by
  simp only [dispatch, h]
  exact refuses_refuse srv _ _ _

theorem dispatch_of_data {block : UInt16} {payload : List UInt8}
    (h : Packet.decode (d.payload.take receiveBufferSize) = .ok (.data block payload)) :
    srv.Refuses d.source .illegalOperation "expected a request" (srv.dispatch d : m Server) := by
  simp only [dispatch, h]
  exact refuses_refuse srv _ _ _

theorem dispatch_of_ack {block : UInt16}
    (h : Packet.decode (d.payload.take receiveBufferSize) = .ok (.ack block)) :
    srv.Refuses d.source .illegalOperation "expected a request" (srv.dispatch d : m Server) := by
  simp only [dispatch, h]
  exact refuses_refuse srv _ _ _

section Request

variable {op : Operation} {name mode : String}
  (h : Packet.decode (d.payload.take receiveBufferSize) = .ok (.request op name mode))
include h

theorem dispatch_of_mode (hm : isOctetMode mode = false) :
    srv.Refuses d.source .illegalOperation ("unsupported mode '" ++ mode ++ "'")
      (srv.dispatch d : m Server) := by
  simp only [dispatch, h, hm, Bool.not_false, if_true]
  exact refuses_refuse srv _ _ _

variable (hm : isOctetMode mode = true)
include hm

theorem dispatch_of_name {r : NameRejection} (hn : checkFileName name = .error r) :
    srv.Refuses d.source .accessViolation r.reason (srv.dispatch d : m Server) := by
  simp only [dispatch, h, hm, hn, Bool.not_true, Bool.false_eq_true, if_false]
  exact refuses_refuse srv _ _ _

variable (hn : checkFileName name = .ok ())
include hn

theorem dispatch_of_busy (hc : srv.capacity ≤ srv.sessions.length) :
    srv.Refuses d.source .notDefined "server busy" (srv.dispatch d : m Server) := by
  simp only [dispatch, h, hm, hn, Bool.not_true, Bool.false_eq_true, if_false, ge_iff_le, hc,
    if_true]
  exact refuses_refuse srv _ _ _

omit [LawfulMonad m] in
/-- An acceptable request while a slot is free binds a transfer socket; with one it starts the
session for the request there, without one it is refused. -/
theorem dispatch_of_free (hc : srv.sessions.length < srv.capacity) :
    srv.dispatch d = (Host.bindTransfer srv.settings.bindIp >>= fun a =>
      a.elim (srv.refuse d.source .notDefined "no transfer port available" >>= fun _ => pure srv)
        (srv.start op name d.source) : m Server) := by
  have hc' : ¬srv.capacity ≤ srv.sessions.length := by omega
  simp only [dispatch, h, hm, hn, Bool.not_true, Bool.false_eq_true, if_false, ge_iff_le, hc']
  congr 1
  funext a
  cases a <;> rfl

end Request

end Host

/-! ## Sessions on the simulated network -/

/-- The server runs no more sessions than its settings allow, one at least. -/
def WithinCapacity (srv : Server) : Prop := srv.sessions.length ≤ srv.capacity

/-- `srv'` has the settings of `srv` and at most one session more. -/
def GrowsByOne (srv srv' : Server) : Prop :=
  srv'.settings = srv.settings ∧ srv'.sessions.length ≤ srv.sessions.length + 1

/-- `srv'` has the settings of `srv` and no more sessions. -/
def Shrinks (srv srv' : Server) : Prop :=
  srv'.settings = srv.settings ∧ srv'.sessions.length ≤ srv.sessions.length

theorem Shrinks.growsByOne {srv srv' : Server} (h : srv.Shrinks srv') : srv.GrowsByOne srv' :=
  ⟨h.1, by have := h.2; omega⟩

variable {srv : Server} {n : Network}

theorem keep_growsByOne {srv₀ : Server} (hs : srv₀.Shrinks srv) (s : Session)
    (task : Option ServerTask) : Ensures (srv.keep s task) n fun srv' _ => srv₀.GrowsByOne srv' := by
  unfold keep
  cases task with
  | none => exact .release (.pure hs.growsByOne)
  | some t =>
    refine .now (.pure ⟨hs.1, ?_⟩)
    have := hs.2
    simp only [List.length_append, List.length_singleton]
    omega

/-- A server with another store has the same sessions. -/
theorem shrinks_store (srv : Server) (store : Store) : srv.Shrinks { srv with store } :=
  ⟨rfl, le_refl _⟩

theorem startRead_growsByOne (s : Session) (name : String) :
    Ensures (srv.startRead s name) n fun srv' _ => srv.GrowsByOne srv' := by
  unfold startRead
  rcases srv.store.openForRead name with ⟨store, r⟩
  dsimp only
  cases r with
  | error e => exact .any fun _ _ => keep_growsByOne (shrinks_store srv store) s none
  | ok h =>
    refine .any fun r _ => ?_
    obtain ⟨s', flow⟩ := r
    cases flow with
    | waiting st => exact keep_growsByOne (shrinks_store srv store) s' _
    | finished res => exact keep_growsByOne (shrinks_store srv _) s' none

theorem startWrite_growsByOne (s : Session) (name : String) :
    Ensures (srv.startWrite s name) n fun srv' _ => srv.GrowsByOne srv' := by
  unfold startWrite
  rcases srv.store.openForWrite name with ⟨store, r⟩
  dsimp only
  cases r with
  | error e => exact .any fun _ _ => keep_growsByOne (shrinks_store srv store) s none
  | ok h =>
    refine .any fun r _ => ?_
    cases r with
    | ok s' => exact keep_growsByOne (shrinks_store srv store) s' _
    | error e => exact keep_growsByOne (shrinks_store srv _) s none

theorem startDelete_growsByOne (s : Session) (name : String) :
    Ensures (srv.startDelete s name) n fun srv' _ => srv.GrowsByOne srv' := by
  unfold startDelete
  rcases srv.store.tryDelete name with ⟨store, r⟩
  dsimp only
  cases r with
  | error e => exact .any fun _ _ => keep_growsByOne (shrinks_store srv store) s none
  | ok u => exact .any fun _ _ => keep_growsByOne (shrinks_store srv store) s none

/-- Starting a session adds at most that session. -/
theorem start_growsByOne (op : Operation) (name : String) (peer a : SocketAddr) :
    Ensures (srv.start op name peer a) n fun srv' _ => srv.GrowsByOne srv' := by
  unfold start
  cases op with
  | read => exact startRead_growsByOne _ name
  | write => exact startWrite_growsByOne _ name
  | delete => exact startDelete_growsByOne _ name

theorem refuses_ensures {dst : SocketAddr} {code : ErrorCode} {message : String} {x : NetM Server}
    (hx : srv.Refuses dst code message x) : Ensures x n fun srv' _ => srv' = srv := by
  obtain ⟨bytes, -, rfl⟩ := hx
  exact .any fun _ _ => .pure rfl

/-- Handling a datagram at the well-known socket keeps the server within its capacity. -/
theorem dispatch_withinCapacity (hs : srv.WithinCapacity) (d : Datagram) :
    Ensures (srv.dispatch d) n fun srv' _ => srv'.settings = srv.settings ∧ srv'.WithinCapacity := by
  have hsame : ∀ {x : NetM Server} {code message}, srv.Refuses d.source code message x →
      Ensures x n fun srv' _ => srv'.settings = srv.settings ∧ srv'.WithinCapacity :=
    fun hx => (refuses_ensures hx).mono fun _ _ h => by
      subst h
      exact ⟨rfl, hs⟩
  rcases hp : Packet.decode (d.payload.take receiveBufferSize) with e | p
  · exact hsame (dispatch_of_undecodable hp)
  cases p with
  | error code message =>
    rw [dispatch_of_error (m := NetM) hp]
    exact .pure ⟨rfl, hs⟩
  | data block payload => exact hsame (dispatch_of_data hp)
  | ack block => exact hsame (dispatch_of_ack hp)
  | request op name mode =>
    cases hm : isOctetMode mode
    · exact hsame (dispatch_of_mode hp hm)
    rcases hn : checkFileName name with r | u
    · exact hsame (dispatch_of_name hp hm hn)
    by_cases hc : srv.capacity ≤ srv.sessions.length
    · exact hsame (dispatch_of_busy hp hm hn hc)
    -- a slot is free: the new session takes it
    rw [dispatch_of_free hp hm hn (by omega)]
    refine .bindTransfer (fun _ => hsame (refuses_refuse srv _ _ _)) fun n' a _ => ?_
    refine (start_growsByOne op name d.source a).mono fun srv' _ ⟨hset, hlen⟩ => ⟨hset, ?_⟩
    rw [WithinCapacity, capacity, hset]
    exact Nat.le_trans hlen (by rw [capacity] at hc; omega)

/-- Advancing a session leaves the sessions and settings to `settle`. -/
theorem advance_keeps (ss : ServerSession) (incoming : Incoming) :
    Ensures (srv.advance ss incoming) n fun r _ =>
      r.1.sessions = srv.sessions ∧ r.1.settings = srv.settings := by
  unfold advance
  split
  · refine .any fun r _ => ?_
    obtain ⟨s, flow⟩ := r
    cases flow with
    | waiting st => exact .now (.pure ⟨rfl, rfl⟩)
    | finished res => exact .release (.pure ⟨rfl, rfl⟩)
  · refine .any fun r _ => ?_
    obtain ⟨v, s, flow⟩ := r
    cases flow with
    | waiting st => exact .now (.pure ⟨rfl, rfl⟩)
    | finished res => exact .release (.pure ⟨rfl, rfl⟩)

theorem settle_shrinks (i : Nat) (ss : Option ServerSession) : srv.Shrinks (srv.settle i ss) := by
  cases ss with
  | some ss => exact ⟨rfl, by simp [settle]⟩
  | none => exact ⟨rfl, by simp only [settle, List.length_eraseIdx]; split <;> omega⟩

theorem deliver_shrinks (i : Nat) (d : Datagram) :
    Ensures (srv.deliver i d) n fun srv' _ => srv.Shrinks srv' := by
  unfold deliver
  split
  · exact .pure ⟨rfl, le_refl _⟩
  · refine .any fun r _ => ?_
    cases r with
    | none => exact .pure ⟨rfl, le_refl _⟩
    | some p =>
      refine .bind ((advance_keeps _ _).mono fun r _ ⟨hsess, hset⟩ => .pure ?_)
      obtain ⟨srv₁, o⟩ := r
      have : srv₁.Shrinks (srv₁.settle i o) := settle_shrinks i o
      exact ⟨this.1.trans hset, hsess ▸ this.2⟩

theorem expire_shrinks (i : Nat) : Ensures (srv.expire i) n fun srv' _ => srv.Shrinks srv' := by
  unfold expire
  split
  · exact .pure ⟨rfl, le_refl _⟩
  · refine .bind ((advance_keeps _ _).mono fun r _ ⟨hsess, hset⟩ => .pure ?_)
    obtain ⟨srv₁, o⟩ := r
    have : srv₁.Shrinks (srv₁.settle i o) := settle_shrinks i o
    exact ⟨this.1.trans hset, hsess ▸ this.2⟩

theorem WithinCapacity.of_shrinks {srv' : Server} (hs : srv.WithinCapacity) (h : srv.Shrinks srv') :
    srv'.WithinCapacity := by
  have := h.2
  rw [WithinCapacity, capacity, h.1]
  exact Nat.le_trans this hs

/-- Every step of a server's life, and every move of its environment, keeps its settings and its
sessions within capacity. -/
theorem Step.withinCapacity {p p' : Server × Network} (h : Step p p') (hs : p.1.WithinCapacity) :
    p'.1.settings = p.1.settings ∧ p'.1.WithinCapacity := by
  cases h with
  | dispatch srv n d => exact dispatch_withinCapacity hs d
  | deliver srv n i d =>
    have : Ensures (srv.deliver i d) n fun srv' _ => srv.Shrinks srv' := deliver_shrinks i d
    exact ⟨this.1, hs.of_shrinks this⟩
  | expire srv n i =>
    have : Ensures (srv.expire i) n fun srv' _ => srv.Shrinks srv' := expire_shrinks i
    exact ⟨this.1, hs.of_shrinks this⟩
  | stop srv n => exact ⟨rfl, hs⟩
  | network srv n n' hb => exact ⟨rfl, hs⟩
  | files srv n v => exact ⟨rfl, hs⟩

/-- Along every run the settings stay and the sessions stay within capacity. -/
theorem withinCapacity_of_run {p p' : Server × Network} (h : Relation.ReflTransGen Step p p')
    (hs : p.1.WithinCapacity) : p'.1.settings = p.1.settings ∧ p'.1.WithinCapacity := by
  refine holds_along_run (P := fun q => q.1.settings = p.1.settings ∧ q.1.WithinCapacity) h
    (fun hstep ih => ?_) ⟨rfl, hs⟩
  obtain ⟨hset, hcap⟩ := hstep.withinCapacity ih.2
  exact ⟨hset.trans ih.1, hcap⟩

/-- How a server answers a datagram at its well-known socket, on any host: an ERROR is ignored,
nothing sent and nothing started; every other datagram that is not an acceptable request is
refused with one ERROR from the well-known socket, the server left as it was, with the code of the
first check it fails: `Illegal TFTP operation` when it does not decode, is DATA or ACK, or asks
for a mode other than octet (before the name is looked at), `Access violation` with the reason when
the name is refused, `Not defined` when every slot is taken. An acceptable request with a slot
free binds a transfer socket and starts its one session there, or is refused with `Not defined`
when no socket binds. Every ERROR written fits a 516-byte datagram and reads back with its code.
And along every run of a server within its capacity, its settings stay and it never runs more
than `max maxSessions 1` sessions. -/
theorem dispatch_answers {m : Type → Type} [Monad m] [LawfulMonad m] [Host m] (srv : Server)
    (d : Datagram) :
    (∀ code message, Packet.decode (d.payload.take receiveBufferSize) = .ok (.error code message) →
      srv.dispatch d = (pure srv : m Server)) ∧
    (∀ e, Packet.decode (d.payload.take receiveBufferSize) = .error e →
      srv.Refuses d.source .illegalOperation "malformed request" (srv.dispatch d : m Server)) ∧
    (∀ block payload,
      Packet.decode (d.payload.take receiveBufferSize) = .ok (.data block payload) →
      srv.Refuses d.source .illegalOperation "expected a request" (srv.dispatch d : m Server)) ∧
    (∀ block, Packet.decode (d.payload.take receiveBufferSize) = .ok (.ack block) →
      srv.Refuses d.source .illegalOperation "expected a request" (srv.dispatch d : m Server)) ∧
    (∀ op name mode,
      Packet.decode (d.payload.take receiveBufferSize) = .ok (.request op name mode) →
      (isOctetMode mode = false → srv.Refuses d.source .illegalOperation
        ("unsupported mode '" ++ mode ++ "'") (srv.dispatch d : m Server)) ∧
      (isOctetMode mode = true →
        (∀ r, checkFileName name = .error r →
          srv.Refuses d.source .accessViolation r.reason (srv.dispatch d : m Server)) ∧
        (checkFileName name = .ok () →
          (max srv.settings.maxSessions 1 ≤ srv.sessions.length →
            srv.Refuses d.source .notDefined "server busy" (srv.dispatch d : m Server)) ∧
          (srv.sessions.length < max srv.settings.maxSessions 1 →
            ∃ k : Option SocketAddr → m Server,
              srv.dispatch d = (Host.bindTransfer srv.settings.bindIp >>= k) ∧
              srv.Refuses d.source .notDefined "no transfer port available" (k none) ∧
              ∀ a, k (some a) = srv.start op name d.source a)))) ∧
    (∀ code message bytes, (Packet.error code message).toBytes = .ok bytes →
      bytes.length ≤ maxPacketSize ∧ ∃ text, Packet.decode bytes = .ok (.error code text)) ∧
    ∀ p p' : Server × Network, Relation.ReflTransGen Step p p' →
      p.1.sessions.length ≤ max p.1.settings.maxSessions 1 →
      p'.1.settings = p.1.settings ∧ p'.1.sessions.length ≤ max p.1.settings.maxSessions 1 := by
  refine ⟨fun _ _ h => dispatch_of_error h, fun _ h => dispatch_of_undecodable h,
    fun _ _ h => dispatch_of_data h, fun _ h => dispatch_of_ack h,
    fun op name mode h => ⟨dispatch_of_mode h, fun hm => ⟨fun _ hn => dispatch_of_name h hm hn,
      fun hn => ⟨dispatch_of_busy h hm hn, fun hc => ?_⟩⟩⟩, fun code message bytes hb => ?_,
    fun p p' hrun hs => ?_⟩
  · exact ⟨_, dispatch_of_free h hm hn hc, refuses_refuse srv _ _ _, fun _ => rfl⟩
  · obtain ⟨bytes', hb', hlen, hread⟩ := toBytes_error_datagram code message
    rw [hb, Except.ok.injEq] at hb'
    exact hb' ▸ ⟨hlen, hread⟩
  · obtain ⟨hset, hcap⟩ := withinCapacity_of_run hrun hs
    refine ⟨hset, ?_⟩
    rw [WithinCapacity, capacity, hset] at hcap
    exact hcap

/-- A read request for `boot.img` at a server with no session running is taken: a transfer socket
is bound and the session starts on it. -/
theorem fresh_server_takes_read_request :
    Packet.decode ([0, 1] ++ Utf8.encode "boot.img" ++ [0] ++ Utf8.encode "octet" ++ [0]) =
        .ok (.request .read "boot.img" "octet") ∧
      ∃ k : Option SocketAddr → NetM Server,
        ((⟨.default, .ofIp .localhost 69, .ofVolume "/srv" {}, [], true⟩ : Server).dispatch
          ⟨.ofIp .localhost 4000,
            [0, 1] ++ Utf8.encode "boot.img" ++ [0] ++ Utf8.encode "octet" ++ [0]⟩ : NetM Server) =
          (Host.bindTransfer IpAddr.unspecified >>= k) ∧
        ∀ a, k (some a) = (⟨.default, .ofIp .localhost 69, .ofVolume "/srv" {}, [], true⟩ :
          Server).start .read "boot.img" (.ofIp .localhost 4000) a := by
  have hd : Packet.decode ([0, 1] ++ Utf8.encode "boot.img" ++ [0] ++ Utf8.encode "octet" ++ [0]) =
      .ok (.request .read "boot.img" "octet") := by decide
  have hk := ((((dispatch_answers (m := NetM)
    (⟨.default, .ofIp .localhost 69, .ofVolume "/srv" {}, [], true⟩ : Server)
    ⟨.ofIp .localhost 4000,
      [0, 1] ++ Utf8.encode "boot.img" ++ [0] ++ Utf8.encode "octet" ++ [0]⟩).2.2.2.2.1
    .read "boot.img" "octet" (by rw [← hd]; rfl)).2 (by decide)).2 (by decide)).2 (by decide)
  obtain ⟨k, hk, -, hstart⟩ := hk
  exact ⟨hd, k, hk, hstart⟩

end Server

end Tftp
