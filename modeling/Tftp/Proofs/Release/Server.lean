import Tftp.Proofs.Release.Tally
import Tftp.Transfer.Server
import Mathlib

/-!
# A server gives back every handle it takes

Whatever arrives at its sockets and whenever its waits run out, a server's arbiter table accounts
exactly for the handles its running sessions hold (`Server.Sound`, the `Tally.Sound` invariant
for the server's sessions): a read session holds one read handle of its file, a write session the
writer slot of its file, and every record counts those and nothing else. So a handle is given
back once its session ends, on every way it can end, and once no session runs every record is
idle.

The reader count of a record is a 32-bit number, and an admission that counted past it would
break the accounts. No hypothesis is needed for that: every running session owns a transfer
socket on the server's address (`Owned`), so fewer than `2 ^ 16` of them run at once.

Each handler has its lemma, stated with `NetM.Ensures` against the network it starts from;
`Server.Step` lists the events of a server's life and the moves of its environment, and
`Server.Step.sound` is what one of them keeps.
-/

namespace Tftp

open Tftp.Net NetM

namespace ServerTask

/-- Read handles of `name` a task holds. -/
def readsHeld (name : String) : ServerTask → Nat
  | sending h _ => if h.name = name then 1 else 0
  | receiving _ _ => 0

/-- Holds of `name`'s writer slot a task has. -/
def slotsHeld (name : String) : ServerTask → Nat
  | sending _ _ => 0
  | receiving h _ => if h.name = name then 1 else 0

end ServerTask

namespace Server

/-- How a server's sessions are counted: each owns its session's socket and holds its task's
handle. -/
def tally : Tally ServerSession where
  socket ss := ss.session.socket
  reads ss := ss.task.readsHeld
  slots ss := ss.task.slotsHeld
  reads_le_one ss name := by
    show ss.task.readsHeld name ≤ 1
    cases ss.task with
    | sending h st => exact ite_le_one le_rfl (Nat.zero_le 1)
    | receiving h st => exact Nat.zero_le 1

/-- Read handles of `name` held by the sessions. -/
abbrev readersOf (sessions : List ServerSession) (name : String) : Nat :=
  tally.readersOf sessions name

/-- Holds of `name`'s writer slot the sessions have. -/
abbrev holdersOf (sessions : List ServerSession) (name : String) : Nat :=
  tally.holdersOf sessions name

/-- The transfer sockets of the sessions. -/
abbrev socketsOf (sessions : List ServerSession) : List SocketAddr := tally.socketsOf sessions

/-- A server's table accounts for the handles of its sessions, and its sessions own their
sockets. -/
abbrev Sound (srv : Server) (n : Network) : Prop :=
  tally.Sound srv.store.table srv.settings.bindIp srv.sessions n

/-! ## Handlers -/

variable {srv : Server} {n : Network}

theorem keeps_refuse (srv : Server) (dst : SocketAddr) (code : ErrorCode) (message : String) :
    Keeps (srv.refuse dst code message : NetM Unit) fun _ => True := by
  unfold refuse
  split
  · exact (keeps_transmit _ _ _).bind fun _ _ => Keeps.pure trivial
  · exact Keeps.pure trivial

theorem keeps_deny (s : Session) (e : AccessError) :
    Keeps (deny s e : NetM Unit) fun _ => True :=
  (s.keeps_sendError _ _).bind fun _ _ => Keeps.pure trivial

/-- A refused request leaves the server as it was. -/
theorem Sound.refuse (hs : srv.Sound n) (dst : SocketAddr) (code : ErrorCode) (message : String) :
    Ensures (srv.refuse dst code message >>= fun _ => pure srv) n Sound :=
  .keeps (srv.keeps_refuse dst code message) fun _ _ _ hk => .pure (hs.mono hk)

/-- A session that is over at once closes its socket, which no running session owns. -/
theorem keep_none_sound {s : Session}
    (ho : Owned srv.settings.bindIp (socketsOf srv.sessions ++ [s.socket]) n)
    (ha : srv.store.table.Accounts (readersOf srv.sessions) (holdersOf srv.sessions)) :
    Ensures (srv.keep s none) n Sound :=
  .release (.pure ⟨ha, by simpa using ho.drop⟩)

/-- A session that goes on joins the running ones with its task's handles. -/
theorem keep_some_sound {s : Session} (t : ServerTask)
    (ho : Owned srv.settings.bindIp (socketsOf srv.sessions ++ [s.socket]) n)
    (ha : srv.store.table.Accounts (fun m => readersOf srv.sessions m + t.readsHeld m)
      (fun m => holdersOf srv.sessions m + t.slotsHeld m)) :
    Ensures (srv.keep s (some t)) n Sound :=
  .now (.pure (Tally.sound_snoc_iff.mpr ⟨ha, ho⟩))

section Start

variable {s : Session} {name : String}
  (ho : Owned srv.settings.bindIp (socketsOf srv.sessions ++ [s.socket]) n)
  (ha : srv.store.table.Accounts (readersOf srv.sessions) (holdersOf srv.sessions))
include ho ha

theorem startRead_sound : Ensures (srv.startRead s name) n Sound := by
  unfold startRead
  rcases hc : srv.store.openForRead name with ⟨store, r⟩
  dsimp only
  cases r with
  | error e =>
    have ha' := Store.openForRead_error hc ha
    exact .keeps (keeps_deny s e) fun _ n' _ hk => keep_none_sound (ho.mono hk) ha'
  | ok h =>
    have hb := Tally.readersOf_add_one_lt (ho.sublist (List.sublist_append_left _ _)) name
    obtain ⟨rfl, ha'⟩ := Store.openForRead_ok hc ha hb
    refine .keeps (Sending.keeps_start _ s h.file) fun r n' hr hk => ?_
    obtain ⟨s', flow⟩ := r
    dsimp only at hr ⊢
    rw [← hr] at ho
    cases flow with
    | waiting st => exact keep_some_sound (.sending h st) (ho.mono hk) ha'
    | finished res =>
      exact keep_none_sound (ho.mono hk) (Store.closeRead_accounts h ha').2

theorem startWrite_sound : Ensures (srv.startWrite s name) n Sound := by
  unfold startWrite
  rcases hc : srv.store.openForWrite name with ⟨store, r⟩
  dsimp only
  cases r with
  | error e =>
    have ha' := Store.openForWrite_error hc ha
    exact .keeps (keeps_deny s e) fun _ n' _ hk => keep_none_sound (ho.mono hk) ha'
  | ok h =>
    obtain ⟨rfl, ha'⟩ := Store.openForWrite_ok hc ha
    refine .keeps (s.keeps_send _) fun r n' hr hk => ?_
    cases r with
    | ok s' =>
      rw [← hr s' rfl] at ho
      exact keep_some_sound (.receiving h _) (ho.mono hk) ha'
    | error e =>
      exact keep_none_sound (ho.mono hk) (Store.abandonWrite_accounts h ha')

theorem startDelete_sound : Ensures (srv.startDelete s name) n Sound := by
  unfold startDelete
  have ha' := Store.tryDelete_accounts name ha
  rcases hc : srv.store.tryDelete name with ⟨store, r⟩
  rw [hc] at ha'
  dsimp only
  cases r with
  | error e => exact .keeps (keeps_deny s e) fun _ n' _ hk => keep_none_sound (ho.mono hk) ha'
  | ok u =>
    exact .keeps (s.keeps_send _) fun r n' hr hk => keep_none_sound (ho.mono hk) ha'

end Start

/-- A request gets a session on a socket that was just bound, at a free port of the server's
address. -/
theorem start_sound (hs : srv.Sound n) (op : Operation) (name : String) {peer a : SocketAddr}
    (ha : a ∉ socketsOf srv.sessions) (hb : n.isBound a = true)
    (hp : ∃ p, a = .ofIp srv.settings.bindIp p) : Ensures (srv.start op name peer a) n Sound := by
  have ho := hs.owned.snoc ha hb hp
  unfold start
  cases op with
  | read => exact startRead_sound ho hs.accounts
  | write => exact startWrite_sound ho hs.accounts
  | delete => exact startDelete_sound ho hs.accounts

theorem dispatch_sound (hs : srv.Sound n) (d : Datagram) : Ensures (srv.dispatch d) n Sound := by
  unfold dispatch
  dsimp only
  split
  · exact hs.refuse _ _ _
  · exact .pure hs
  · split
    · exact hs.refuse _ _ _
    · split
      · exact hs.refuse _ _ _
      · split
        · exact hs.refuse _ _ _
        · refine .bindTransfer (fun _ => hs.refuse _ _ _) fun n' a hbind => ?_
          obtain ⟨hp, hfree, hk, hb⟩ := Network.bindEphemeral_spec hbind
          -- the new socket was free, and every running session's socket is bound
          have ha : a ∉ socketsOf srv.sessions := fun hmem => by
            rw [hs.owned.bound a hmem] at hfree
            cases hfree
          exact start_sound (hs.mono hk) _ _ ha hb hp
  · exact hs.refuse _ _ _

/-- One step of a running session, against the counts `X` and `Y` of the other sessions: the
session goes on with its handle, or it is over, its handle given back and its socket closed. -/
theorem advance_sound {ss : ServerSession} (incoming : Incoming) {X Y : String → Nat}
    (ha : srv.store.table.Accounts (fun m => X m + ss.task.readsHeld m)
      (fun m => Y m + ss.task.slotsHeld m)) :
    Ensures (srv.advance ss incoming) n fun r n' =>
      r.1.sessions = srv.sessions ∧ r.1.settings = srv.settings ∧
      match r.2 with
      | some ss' => ss'.session.socket = ss.session.socket ∧ n.KeepsBound n' ∧
          r.1.store.table.Accounts (fun m => X m + ss'.task.readsHeld m)
            (fun m => Y m + ss'.task.slotsHeld m)
      | none => (∃ n₁, n.KeepsBound n₁ ∧ n' = n₁.close ss.session.socket) ∧
          r.1.store.table.Accounts X Y := by
  unfold advance
  split
  next h st hst =>
    rw [hst] at ha
    refine .keeps (Sending.keeps_step _ _ _ _) fun r n₁ hr hk => ?_
    obtain ⟨s, flow⟩ := r
    cases flow with
    | waiting st' => exact .now (.pure ⟨rfl, rfl, hr, hk, ha⟩)
    | finished res =>
      exact .release (.pure ⟨rfl, rfl, ⟨n₁, hk, by rw [← hr]⟩, (Store.closeRead_accounts h ha).2⟩)
  next h st hst =>
    have ha' : srv.store.table.Accounts X (withOne Y h.name) := by rw [hst] at ha; exact ha
    refine .keeps (Receiving.keeps_step _ _ _ _) fun r n₁ hr hk => ?_
    obtain ⟨v, s, flow⟩ := r
    cases flow with
    | waiting st' =>
      rw [hst] at ha
      exact .now (.pure ⟨rfl, rfl, hr, hk, ha⟩)
    | finished res =>
      refine .release (.pure ⟨rfl, rfl, ⟨n₁, hk, by rw [← hr]⟩, ?_⟩)
      cases res with
      | ok stats => exact (Store.closeWrite_accounts (s := { srv.store with volume := v }) h ha').2
      | error e => exact Store.abandonWrite_accounts (s := { srv.store with volume := v }) h ha'

/-- The session at index `i` takes a step and is put back in its place, or dropped. -/
theorem settle_sound {i : Nat} {ss ss₀ : ServerSession} {n₁ : Network} (hs : srv.Sound n)
    (hi : srv.sessions[i]? = some ss) (htask : ss₀.task = ss.task)
    (hsock : ss₀.session.socket = ss.session.socket) (hk : n.KeepsBound n₁)
    (incoming : Incoming) :
    Ensures (srv.advance ss₀ incoming) n₁ fun r n' => (r.1.settle i r.2).Sound n' := by
  have hlen : i < srv.sessions.length := (List.getElem?_eq_some_iff.mp hi).1
  -- the session that steps, against the others
  obtain ⟨ha, ho⟩ := hs.split hi
  have ha₀ : srv.store.table.Accounts
      (fun m => readersOf (srv.sessions.eraseIdx i) m + ss₀.task.readsHeld m)
      (fun m => holdersOf (srv.sessions.eraseIdx i) m + ss₀.task.slotsHeld m) := by
    rw [htask]
    exact ha
  have ho₁ : Owned srv.settings.bindIp
      (socketsOf (srv.sessions.eraseIdx i) ++ [ss₀.session.socket]) n₁ := by
    rw [hsock]
    exact ho.mono hk
  refine (advance_sound incoming ha₀).mono fun ⟨srv', o⟩ n' ⟨hsess, hsettings, hrest⟩ => ?_
  dsimp only at hsess hsettings hrest
  cases o with
  | none =>
    obtain ⟨⟨n₂, hk₂, rfl⟩, ha'⟩ := hrest
    have ho₂ := (ho₁.mono hk₂).drop
    rw [List.append_nil] at ho₂
    show tally.Sound srv'.store.table srv'.settings.bindIp (srv'.sessions.eraseIdx i) _
    rw [hsess, hsettings]
    exact ⟨ha', ho₂⟩
  | some ss' =>
    obtain ⟨hsock', hk₂, ha'⟩ := hrest
    have ho₂ := ho₁.mono hk₂
    rw [← hsock'] at ho₂
    show tally.Sound srv'.store.table srv'.settings.bindIp (srv'.sessions.set i ss') _
    rw [hsess, hsettings]
    exact Tally.Sound.set hlen ha' ho₂

theorem deliver_sound (hs : srv.Sound n) (i : Nat) (d : Datagram) :
    Ensures (srv.deliver i d) n Sound := by
  unfold deliver
  split
  · exact .pure hs
  · rename_i ss hi
    refine .keeps (ss.session.keeps_classify d) fun r n₁ hr hk => ?_
    cases r with
    | none => exact .pure (hs.mono hk)
    | some p =>
      obtain ⟨s, incoming⟩ := p
      refine .bind (settle_sound hs hi ?_ ?_ hk incoming)
      · rfl
      · exact hr s incoming rfl

theorem expire_sound (hs : srv.Sound n) (i : Nat) : Ensures (srv.expire i) n Sound := by
  unfold expire
  split
  · exact .pure hs
  · rename_i ss hi
    exact .bind (settle_sound hs hi rfl rfl (Network.KeepsBound.refl n) .timeout)

/-! ## Failed uploads -/

/-- An upload whose transfer failed is abandoned: its file is gone from the volume the transfer
left, unless removing it failed. -/
theorem advance_removes_failed_upload {ss : ServerSession} {h : WriteHandle} {st : Receiving}
    (ht : ss.task = .receiving h st) (incoming : Incoming) {v : Volume} {s : Session}
    {e : TransferError} {n₁ : Network}
    (hr : (Receiving.step srv.store.volume ss.session st incoming : NetM _).run n =
      ((v, s, .finished (.error e)), n₁)) :
    Ensures (srv.advance ss incoming) n fun r _ =>
      r.1.store.volume.contains h.name = false ∨ ∃ e', v.removeFile h.name = .error e' := by
  unfold advance
  rw [ht]
  exact .of_run hr (.release (.pure (Store.abandonWrite_removes h)))

/-- An upload whose block 0 cannot be acknowledged is abandoned at once. -/
theorem startWrite_removes_unacknowledged {s : Session} {name : String} {store : Store}
    {h : WriteHandle} (hc : srv.store.openForWrite name = (store, .ok h)) {e : TransferError}
    {n₁ : Network} (hs : (s.send (.ack 0) : NetM _).run n = (.error e, n₁)) :
    Ensures (srv.startWrite s name) n fun srv' _ =>
      srv'.store.volume.contains h.name = false ∨
        ∃ e', store.volume.removeFile h.name = .error e' := by
  unfold startWrite
  rw [hc]
  exact .of_run hs (.release (.pure (Store.abandonWrite_removes h)))

/-! ## Runs -/

/-- One event of a server's life, or a move of its environment. -/
inductive Step : Server × Network → Server × Network → Prop where
  /-- A datagram that reached the well-known socket is handled. -/
  | dispatch (srv : Server) (n : Network) (d : Datagram) :
      Step (srv, n) ((srv.dispatch d : NetM Server).run n)
  /-- A datagram that reached the socket of the session at index `i` is handled. -/
  | deliver (srv : Server) (n : Network) (i : Nat) (d : Datagram) :
      Step (srv, n) ((srv.deliver i d : NetM Server).run n)
  /-- The wait of the session at index `i` runs out. -/
  | expire (srv : Server) (n : Network) (i : Nat) :
      Step (srv, n) ((srv.expire i : NetM Server).run n)
  /-- The server stops taking requests. -/
  | stop (srv : Server) (n : Network) : Step (srv, n) ({ srv with accepting := false }, n)
  /-- The rest of the host moves the network on: datagrams arrive or are taken, the clock
  advances, other sockets come and go; the sessions' sockets stay bound. -/
  | network (srv : Server) (n n' : Network)
      (h : ∀ a ∈ socketsOf srv.sessions, n'.isBound a = true) : Step (srv, n) (srv, n')
  /-- Another process changes the files. -/
  | files (srv : Server) (n : Network) (v : Volume) :
      Step (srv, n) ({ srv with store := { srv.store with volume := v } }, n)

theorem Step.sound {p p' : Server × Network} (h : Step p p') (hs : p.1.Sound p.2) :
    p'.1.Sound p'.2 := by
  cases h with
  | dispatch srv n d => exact dispatch_sound hs d
  | deliver srv n i d => exact deliver_sound hs i d
  | expire srv n i => exact expire_sound hs i
  | stop srv n => exact ⟨hs.accounts, hs.owned⟩
  | network srv n n' hb => exact ⟨hs.accounts, hs.owned.nodup, hb, hs.owned.onIp⟩
  | files srv n v => exact ⟨hs.accounts, hs.owned⟩

end Server

end Tftp
