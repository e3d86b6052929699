import Tftp.Proofs.Release.Server
import Tftp.Transfer.Client
import Mathlib

/-!
# A client gives back every handle it takes

The client's side of `Tftp.Proofs.Release.Server`. A read holds the writer slot of the local file it
receives into, from its start until the transfer ends: `closeWrite` once the file is complete,
`abandonWrite` (which removes it) otherwise. A write holds a read handle of its local source from
its start until the transfer ends, whatever the outcome. With any number of operations in flight
on one client, its table accounts exactly for their handles (`Client.Sound`), so once none is in
flight every record is idle.

Each handler is stated against the handles and sockets of the client's other operations
(`Client.Outcome`): the operation goes on with its stage's handle and its own socket, or it is
over with neither.
-/

namespace Tftp

open Tftp.Net NetM

namespace ClientStage

/-- Read handles of `name` an operation holds: a write holds its source. -/
def readsHeld (name : String) : ClientStage → Nat
  | opening h _ => if h.name = name then 1 else 0
  | writing h _ _ => if h.name = name then 1 else 0
  | reading .. => 0
  | deleting => 0

/-- Holds of `name`'s writer slot an operation has: a read holds the file it receives into. -/
def slotsHeld (name : String) : ClientStage → Nat
  | reading h _ _ => if h.name = name then 1 else 0
  | _ => 0

end ClientStage

/-- The operations still in flight after a step: the one that goes on, or none. -/
def ClientFlow.runs : ClientFlow → List ClientRun
  | running run => [run]
  | finished _ => []

namespace Client

/-- How a client's operations in flight are counted: each owns its session's socket and holds
its stage's handle. -/
def tally : Tally ClientRun where
  socket run := run.session.socket
  reads run := run.stage.readsHeld
  slots run := run.stage.slotsHeld
  reads_le_one run name := by
    show run.stage.readsHeld name ≤ 1
    cases run.stage with
    | opening h source => exact ite_le_one le_rfl (Nat.zero_le 1)
    | writing h source st => exact ite_le_one le_rfl (Nat.zero_le 1)
    | reading h target st => exact Nat.zero_le 1
    | deleting => exact Nat.zero_le 1

/-- Read handles of `name` held by the operations. -/
abbrev readersOf (runs : List ClientRun) (name : String) : Nat := tally.readersOf runs name

/-- Holds of `name`'s writer slot the operations have. -/
abbrev holdersOf (runs : List ClientRun) (name : String) : Nat := tally.holdersOf runs name

/-- The transfer sockets of the operations. -/
abbrev socketsOf (runs : List ClientRun) : List SocketAddr := tally.socketsOf runs

/-- Where an operation stands after a step, against the handles `X`, `Y` and the sockets
`socks` of the other operations of a client with these settings: in flight with its stage's
handles and its own socket, or over with neither. -/
inductive Outcome (settings : Config.ClientSettings) (X Y : String → Nat)
    (socks : List SocketAddr) : Client × ClientFlow → Network → Prop where
  | running {c' : Client} {run : ClientRun} {n : Network} (hset : c'.settings = settings)
      (ha : c'.store.table.Accounts (fun m => X m + run.stage.readsHeld m)
        (fun m => Y m + run.stage.slotsHeld m))
      (ho : Owned settings.bindIp (socks ++ [run.session.socket]) n) :
      Outcome settings X Y socks (c', .running run) n
  | finished {c' : Client} {result : Except TransferError Summary} {n : Network}
      (hset : c'.settings = settings) (ha : c'.store.table.Accounts X Y)
      (ho : Owned settings.bindIp socks n) :
      Outcome settings X Y socks (c', .finished result) n

/-! ## Handlers -/

variable {c : Client} {n : Network} {X Y : String → Nat} {socks : List SocketAddr}

/-- A new session's socket was free: the others' sockets and it are owned. -/
theorem openSession_owned (ho : Owned c.settings.bindIp socks n) :
    Ensures (c.openSession : NetM _) n fun r n' => Owned c.settings.bindIp socks n' ∧
      ∀ s, r = .ok s → Owned c.settings.bindIp (socks ++ [s.socket]) n' := by
  unfold openSession
  refine .bindTransfer (fun _ => .pure ⟨ho, by simp⟩) fun n' a hbind => .pure ?_
  obtain ⟨hp, hfree, hk, hb⟩ := Network.bindEphemeral_spec hbind
  have ha : a ∉ socks := fun hmem => by
    rw [ho.bound a hmem] at hfree
    cases hfree
  refine ⟨ho.mono hk, ?_⟩
  rintro s ⟨⟩
  exact (ho.mono hk).snoc ha hb hp

/-- An operation that waits for the server goes on. -/
theorem wait_outcome {c₀ c' : Client} {op : Operation} {name : String} {s : Session}
    (stage : ClientStage) (hset : c'.settings = c.settings)
    (ha : c'.store.table.Accounts (fun m => X m + stage.readsHeld m)
      (fun m => Y m + stage.slotsHeld m))
    (ho : Owned c.settings.bindIp (socks ++ [s.socket]) n) :
    Ensures (c₀.wait op name s stage >>= fun flow => pure (c', flow)) n
      (Outcome c.settings X Y socks) :=
  .bind (.now (.pure (.pure (.running hset ha ho))))

/-- An operation that is over closes its socket, if it has one. -/
theorem conclude_outcome {c' : Client} {s : Option Session}
    {result : Except TransferError Summary}
    (hset : c'.settings = c.settings) (ha : c'.store.table.Accounts X Y)
    (ho : Owned c.settings.bindIp (socks ++ (s.map (·.socket)).toList) n) :
    Ensures (conclude s result >>= fun flow => pure (c', flow)) n
      (Outcome c.settings X Y socks) := by
  cases s with
  | none => exact .bind (.pure (.pure (.finished hset ha (by simpa using ho))))
  | some s =>
    exact .bind (.release (.pure (.pure (.finished hset ha (by simpa using ho.drop)))))

theorem failRead_outcome (h : WriteHandle) (s : Option Session) (e : TransferError)
    (ha : c.store.table.Accounts X (withOne Y h.name))
    (ho : Owned c.settings.bindIp (socks ++ (s.map (·.socket)).toList) n) :
    Ensures (c.failRead h s e) n (Outcome c.settings X Y socks) :=
  conclude_outcome rfl (Store.abandonWrite_accounts h ha) ho

theorem completeRead_outcome (h : WriteHandle) (target name : String) (s : Session)
    (stats : Stats) (ha : c.store.table.Accounts X (withOne Y h.name))
    (ho : Owned c.settings.bindIp (socks ++ [s.socket]) n) :
    Ensures (c.completeRead h target name s stats) n (Outcome c.settings X Y socks) := by
  have ha' := (Store.closeWrite_accounts h ha).2
  unfold completeRead
  dsimp only
  split
  · split
    · exact conclude_outcome rfl (Store.tryDelete_accounts target ha') ho
    · exact conclude_outcome rfl (Store.tryDelete_accounts target ha') ho
  · exact conclude_outcome rfl ha' ho

theorem endWrite_outcome (h : ReadHandle) (source name : String) (s : Option Session)
    (result : Except TransferError Stats) (ha : c.store.table.Accounts (withOne X h.name) Y)
    (ho : Owned c.settings.bindIp (socks ++ (s.map (·.socket)).toList) n) :
    Ensures (c.endWrite h source name s result) n (Outcome c.settings X Y socks) := by
  have ha' := (Store.closeRead_accounts h ha).2
  unfold endWrite
  dsimp only
  split
  · exact conclude_outcome rfl (Store.tryDelete_accounts source ha') ho
  · exact conclude_outcome rfl ha' ho

theorem beginRead_outcome (name : String) (ha : c.store.table.Accounts X Y)
    (ho : Owned c.settings.bindIp socks n) :
    Ensures (c.beginRead name) n (Outcome c.settings X Y socks) := by
  unfold beginRead
  split
  · exact .pure (.finished rfl ha ho)
  split
  · exact .pure (.finished rfl ha ho)
  dsimp only
  rcases hc : c.store.openForWrite
    (if c.settings.compress then compressedName name else name) with ⟨store, r⟩
  dsimp only
  cases r with
  | error e => exact .pure (.finished rfl (Store.openForWrite_error hc ha) ho)
  | ok h =>
    obtain ⟨hname, ha'⟩ := Store.openForWrite_ok hc ha
    rw [← hname] at ha'
    refine .bind ((openSession_owned ho).mono fun r n₁ ⟨ho₁, hnew⟩ => ?_)
    cases r with
    | error e => exact failRead_outcome h none e ha' (by simpa using ho₁)
    | ok s =>
      refine .keeps (s.keeps_sendRequest _) fun r n₂ hr hk => ?_
      have ho₂ := (hnew s rfl).mono hk
      cases r with
      | error e => exact failRead_outcome h (some s) e ha' ho₂
      | ok s' =>
        rw [← hr s' rfl] at ho₂
        exact wait_outcome (.reading h _ _) rfl ha' ho₂

theorem beginWrite_outcome (name : String) (ha : c.store.table.Accounts X Y)
    (ho : Owned c.settings.bindIp socks n) (hb : ∀ m, X m + 1 < 2 ^ 32) :
    Ensures (c.beginWrite name) n (Outcome c.settings X Y socks) := by
  unfold beginWrite
  split
  · exact .pure (.finished rfl ha ho)
  split
  · exact .pure (.finished rfl ha ho)
  dsimp only
  split
  · exact .pure (.finished rfl ha ho)
  rename_i c₁ source hpacked
  -- compressing the source first changes the volume only
  have hc₁ : c₁.settings = c.settings ∧ c₁.store.table = c.store.table := by
    split at hpacked
    · split at hpacked
      · cases hpacked
        exact ⟨rfl, rfl⟩
      · cases hpacked
    · cases hpacked
      exact ⟨rfl, rfl⟩
  obtain ⟨hset, htable⟩ := hc₁
  rw [← htable] at ha
  rw [← hset] at ho ⊢
  rcases hc : c₁.store.openForRead source with ⟨store, r⟩
  dsimp only
  cases r with
  | error e =>
    have ha' := Store.openForRead_error hc ha
    dsimp only
    split
    · exact .pure (.finished rfl (Store.tryDelete_accounts source ha') ho)
    · exact .pure (.finished rfl ha' ho)
  | ok h =>
    obtain ⟨rfl, ha'⟩ := Store.openForRead_ok hc ha (hb _)
    refine .bind ((openSession_owned ho).mono fun r n₁ ⟨ho₁, hnew⟩ => ?_)
    cases r with
    | error e => exact endWrite_outcome h _ name none _ ha' (by simpa using ho₁)
    | ok s =>
      refine .keeps (s.keeps_sendRequest _) fun r n₂ hr hk => ?_
      have ho₂ := (hnew s rfl).mono hk
      cases r with
      | error e => exact endWrite_outcome h _ name (some s) _ ha' ho₂
      | ok s' =>
        rw [← hr s' rfl] at ho₂
        exact wait_outcome (.opening h _) rfl ha' ho₂

theorem beginDelete_outcome (name : String) (ha : c.store.table.Accounts X Y)
    (ho : Owned c.settings.bindIp socks n) :
    Ensures (c.beginDelete name) n (Outcome c.settings X Y socks) := by
  unfold beginDelete
  refine .bind ((openSession_owned ho).mono fun r n₁ ⟨ho₁, hnew⟩ => ?_)
  cases r with
  | error e => exact .pure (.finished rfl ha ho₁)
  | ok s =>
    refine .keeps (s.keeps_sendRequest _) fun r n₂ hr hk => ?_
    have ho₂ := (hnew s rfl).mono hk
    cases r with
    | error e => exact conclude_outcome rfl ha ho₂
    | ok s' =>
      rw [← hr s' rfl] at ho₂
      exact wait_outcome .deleting rfl ha ho₂

theorem begin_outcome (op : Operation) (name : String) (ha : c.store.table.Accounts X Y)
    (ho : Owned c.settings.bindIp socks n) (hb : ∀ m, X m + 1 < 2 ^ 32) :
    Ensures (c.begin op name) n (Outcome c.settings X Y socks) := by
  cases op with
  | read => exact beginRead_outcome name ha ho
  | write => exact beginWrite_outcome name ha ho hb
  | delete => exact beginDelete_outcome name ha ho

section Step

variable (run : ClientRun) (incoming : Incoming)
  (ho : Owned c.settings.bindIp (socks ++ [run.session.socket]) n)
include ho

/-- A read takes the next block: it goes on, or it completes, or it fails and abandons its
file. -/
theorem step_reading_outcome {h : WriteHandle} {target : String} {st : Receiving}
    (hst : run.stage = .reading h target st) (ha : c.store.table.Accounts X (withOne Y h.name)) :
    Ensures (c.step run incoming) n (Outcome c.settings X Y socks) := by
  unfold step
  rw [hst]
  dsimp only
  refine .keeps (Receiving.keeps_step _ _ _ _) fun r n₁ hr hk => ?_
  obtain ⟨v, s, flow⟩ := r
  dsimp only at hr ⊢
  rw [← hr] at ho
  cases flow with
  | waiting st' => exact wait_outcome (.reading h target st') rfl ha (ho.mono hk)
  | finished res =>
    cases res with
    | ok stats =>
      exact completeRead_outcome (c := { c with store := { c.store with volume := v } })
        h target _ s stats ha (ho.mono hk)
    | error e =>
      exact failRead_outcome (c := { c with store := { c.store with volume := v } })
        h (some s) e ha (ho.mono hk)

/-- A write waits for the ACK of its request, then sends its first block. -/
theorem step_opening_outcome {h : ReadHandle} {source : String}
    (hst : run.stage = .opening h source) (ha : c.store.table.Accounts (withOne X h.name) Y) :
    Ensures (c.step run incoming) n (Outcome c.settings X Y socks) := by
  unfold step
  rw [hst]
  dsimp only
  refine .keeps (keeps_awaitAck _ _ _) fun r n₁ hr hk => ?_
  obtain ⟨s, res⟩ := r
  dsimp only at hr ⊢
  rw [← hr] at ho
  have ho₁ := ho.mono hk
  -- still waiting for the ACK of block 0, refused, or acknowledged
  rcases res with _ | (e | u)
  · exact wait_outcome (.opening h source) rfl ha ho₁
  · exact endWrite_outcome h source _ (some s) _ ha ho₁
  · refine .keeps (Sending.keeps_start _ _ _) fun r n₂ hr' hk' => ?_
    obtain ⟨s', flow⟩ := r
    dsimp only at hr' ⊢
    rw [← hr'] at ho₁
    cases flow with
    | waiting st => exact wait_outcome (.writing h source st) rfl ha (ho₁.mono hk')
    | finished r => exact endWrite_outcome h source _ (some s') r ha (ho₁.mono hk')

/-- A write takes the ACK of its last block: it goes on, or it ends and releases its source. -/
theorem step_writing_outcome {h : ReadHandle} {source : String} {st : Sending}
    (hst : run.stage = .writing h source st) (ha : c.store.table.Accounts (withOne X h.name) Y) :
    Ensures (c.step run incoming) n (Outcome c.settings X Y socks) := by
  unfold step
  rw [hst]
  dsimp only
  refine .keeps (Sending.keeps_step _ _ _ _) fun r n₁ hr hk => ?_
  obtain ⟨s, flow⟩ := r
  dsimp only at hr ⊢
  rw [← hr] at ho
  cases flow with
  | waiting st' => exact wait_outcome (.writing h source st') rfl ha (ho.mono hk)
  | finished r => exact endWrite_outcome h source _ (some s) r ha (ho.mono hk)

/-- A delete holds no handle; it waits for its ACK and then ends. -/
theorem step_deleting_outcome (hst : run.stage = .deleting) (ha : c.store.table.Accounts X Y) :
    Ensures (c.step run incoming) n (Outcome c.settings X Y socks) := by
  unfold step
  rw [hst]
  dsimp only
  refine .keeps (keeps_awaitAck _ _ _) fun r n₁ hr hk => ?_
  obtain ⟨s, res⟩ := r
  dsimp only at hr ⊢
  rw [← hr] at ho
  have ho₁ := ho.mono hk
  rcases res with _ | (e | u)
  · exact wait_outcome .deleting rfl ha ho₁
  · -- out of retries, the client tells the server it gave up
    split
    · rename_i heq
      cases heq
    · rename_i heq
      cases heq
    · rename_i heq
      cases heq
      refine .keeps (s.keeps_sendError _ _) fun s' n₂ hs' hk' => ?_
      rw [← hs'] at ho₁
      exact conclude_outcome rfl ha (ho₁.mono hk')
    · rename_i heq
      cases heq
      exact conclude_outcome rfl ha ho₁
  · exact conclude_outcome rfl ha ho₁

theorem step_outcome
    (ha : c.store.table.Accounts (fun m => X m + run.stage.readsHeld m)
      (fun m => Y m + run.stage.slotsHeld m)) :
    Ensures (c.step run incoming) n (Outcome c.settings X Y socks) := by
  -- once the stage is known, `ha` counts its one handle
  cases hst : run.stage with
  | reading h target st =>
    rw [hst] at ha
    exact step_reading_outcome run incoming ho hst ha
  | opening h source =>
    rw [hst] at ha
    exact step_opening_outcome run incoming ho hst ha
  | writing h source st =>
    rw [hst] at ha
    exact step_writing_outcome run incoming ho hst ha
  | deleting =>
    rw [hst] at ha
    exact step_deleting_outcome run incoming ho hst ha

end Step

theorem deliver_outcome (run : ClientRun) (d : Datagram)
    (ha : c.store.table.Accounts (fun m => X m + run.stage.readsHeld m)
      (fun m => Y m + run.stage.slotsHeld m))
    (ho : Owned c.settings.bindIp (socks ++ [run.session.socket]) n) :
    Ensures (c.deliver run d) n (Outcome c.settings X Y socks) := by
  unfold deliver
  refine .keeps (run.session.keeps_classify d) fun r n₁ hr hk => ?_
  cases r with
  | none => exact .pure (.running rfl ha (ho.mono hk))
  | some p =>
    obtain ⟨s, incoming⟩ := p
    rw [← hr s incoming rfl] at ho
    exact step_outcome { run with session := s } incoming (ho.mono hk) ha

/-- A read that failed abandons the file it received into: the file is gone, unless removing it
failed. -/
theorem failRead_removes (h : WriteHandle) (s : Option Session) (e : TransferError) :
    Ensures (c.failRead h s e) n fun r _ =>
      r.1.store.volume.contains h.name = false ∨
        ∃ e', c.store.volume.removeFile h.name = .error e' := by
  unfold failRead
  cases s with
  | none => exact .bind (.pure (.pure (Store.abandonWrite_removes h)))
  | some s => exact .bind (.release (.pure (.pure (Store.abandonWrite_removes h))))

/-- A read whose transfer failed abandons the file it was receiving into. -/
theorem step_removes_failed_read {run : ClientRun} {h : WriteHandle} {target : String}
    {st : Receiving} (hst : run.stage = .reading h target st) (incoming : Incoming) {v : Volume}
    {s : Session} {e : TransferError} {n₁ : Network}
    (hr : (Receiving.step c.store.volume run.session st incoming : NetM _).run n =
      ((v, s, .finished (.error e)), n₁)) :
    Ensures (c.step run incoming) n fun r _ =>
      r.1.store.volume.contains h.name = false ∨ ∃ e', v.removeFile h.name = .error e' := by
  unfold step
  rw [hst]
  exact .of_run hr (failRead_removes (c := { c with store := { c.store with volume := v } })
    h (some s) e)

/-! ## Runs -/

/-- The operations in flight once the one at index `k` took a step. -/
def settleRuns (runs : List ClientRun) (k : Nat) : ClientFlow → List ClientRun
  | .running run => runs.set k run
  | .finished _ => runs.eraseIdx k

/-- A client's table accounts for the handles of its operations in flight, and those own their
sockets. -/
abbrev Sound (c : Client) (runs : List ClientRun) (n : Network) : Prop :=
  tally.Sound c.store.table c.settings.bindIp runs n

/-- A new operation that goes on joins the others. -/
theorem Outcome.sound_append {runs : List ClientRun} {r : Client × ClientFlow}
    (h : Outcome c.settings (readersOf runs) (holdersOf runs) (socketsOf runs) r n) :
    r.1.Sound (runs ++ r.2.runs) n := by
  cases h with
  | running hset ha ho =>
    rw [← hset] at ho
    exact Tally.sound_snoc_iff.mpr ⟨ha, ho⟩
  | finished hset ha ho =>
    rw [← hset] at ho
    simpa [ClientFlow.runs] using (⟨ha, ho⟩ : tally.Sound _ _ runs n)

/-- An operation in flight takes its place again, or leaves. -/
theorem Outcome.sound_settle {runs : List ClientRun} {k : Nat} {run : ClientRun}
    {r : Client × ClientFlow} (hk : runs[k]? = some run)
    (h : Outcome c.settings (readersOf (runs.eraseIdx k)) (holdersOf (runs.eraseIdx k))
      (socketsOf (runs.eraseIdx k)) r n) :
    r.1.Sound (settleRuns runs k r.2) n := by
  have hlen : k < runs.length := (List.getElem?_eq_some_iff.mp hk).1
  cases h with
  | running hset ha ho =>
    rw [← hset] at ho
    exact Tally.Sound.set hlen ha ho
  | finished hset ha ho =>
    rw [← hset] at ho
    exact ⟨ha, ho⟩

/-- The client and its operations once a new one started. -/
def launch (runs : List ClientRun) (r : (Client × ClientFlow) × Network) :
    Client × List ClientRun × Network :=
  (r.1.1, runs ++ r.1.2.runs, r.2)

/-- The client and its operations once the one at index `k` took a step. -/
def resume (runs : List ClientRun) (k : Nat) (r : (Client × ClientFlow) × Network) :
    Client × List ClientRun × Network :=
  (r.1.1, settleRuns runs k r.1.2, r.2)

/-- One event of a client's life, or a move of its environment. -/
inductive Step : Client × List ClientRun × Network → Client × List ClientRun × Network → Prop
    where
  /-- A new operation starts. -/
  | begin (c : Client) (runs : List ClientRun) (n : Network) (op : Operation) (name : String) :
      Step (c, runs, n) (launch runs ((c.begin op name : NetM _).run n))
  /-- A datagram that reached the socket of the operation at index `k` is handled. -/
  | deliver (c : Client) (n : Network) {runs : List ClientRun} {k : Nat} {run : ClientRun}
      (hk : runs[k]? = some run) (d : Datagram) :
      Step (c, runs, n) (resume runs k ((c.deliver run d : NetM _).run n))
  /-- The wait of the operation at index `k` runs out. -/
  | timeout (c : Client) (n : Network) {runs : List ClientRun} {k : Nat} {run : ClientRun}
      (hk : runs[k]? = some run) :
      Step (c, runs, n) (resume runs k ((c.step run .timeout : NetM _).run n))
  /-- The rest of the host moves the network on; the operations' sockets stay bound. -/
  | network (c : Client) (runs : List ClientRun) (n n' : Network)
      (h : ∀ a ∈ socketsOf runs, n'.isBound a = true) : Step (c, runs, n) (c, runs, n')
  /-- Another process changes the local files. -/
  | files (c : Client) (runs : List ClientRun) (n : Network) (v : Volume) :
      Step (c, runs, n) ({ c with store := { c.store with volume := v } }, runs, n)

theorem Step.sound {p p' : Client × List ClientRun × Network} (h : Step p p')
    (hs : p.1.Sound p.2.1 p.2.2) : p'.1.Sound p'.2.1 p'.2.2 := by
  cases h with
  | begin c runs n op name =>
    exact Outcome.sound_append
      (begin_outcome op name hs.accounts hs.owned (Tally.readersOf_add_one_lt hs.owned))
  | deliver c n hk d =>
    have hsplit := hs.split hk
    exact Outcome.sound_settle hk (deliver_outcome _ d hsplit.1 hsplit.2)
  | timeout c n hk =>
    have hsplit := hs.split hk
    exact Outcome.sound_settle hk (step_outcome _ .timeout hsplit.2 hsplit.1)
  | network c runs n n' hb => exact ⟨hs.accounts, hs.owned.nodup, hb, hs.owned.onIp⟩
  | files c runs n v => exact ⟨hs.accounts, hs.owned⟩

end Client

/-! ## Both machines -/

/-- In every run of a server from its start, with any number of sessions, any datagrams from
anyone and any lapse of time, the table accounts exactly for the handles the running sessions
hold: each handle is given back once its session ends, whichever way it ends, so once no session
runs every record is idle. The same holds of a client and the operations it has in flight. An
upload whose transfer fails, or whose block 0 cannot be acknowledged, is abandoned, and so is a
client's read whose transfer fails: the file is gone, unless removing it failed. -/
theorem sessions_give_back_their_handles :
    (∀ (settings : Config.ServerSettings) (listen : SocketAddr) (root : String) (v : Volume)
        (n₀ : Network) (srv : Server) (n : Network),
      Relation.ReflTransGen Server.Step ({ settings, listen, store := .ofVolume root v }, n₀)
          (srv, n) →
        srv.store.table.Accounts (Server.readersOf srv.sessions) (Server.holdersOf srv.sessions) ∧
          (srv.sessions = [] → ∀ name, (srv.store.table.getD name).isIdle = true)) ∧
    (∀ (settings : Config.ClientSettings) (root : String) (v : Volume) (n₀ : Network)
        (c : Client) (runs : List ClientRun) (n : Network),
      Relation.ReflTransGen Client.Step ({ settings, store := .ofVolume root v }, [], n₀)
          (c, runs, n) →
        c.store.table.Accounts (Client.readersOf runs) (Client.holdersOf runs) ∧
          (runs = [] → ∀ name, (c.store.table.getD name).isIdle = true)) ∧
    (∀ (srv : Server) (ss : ServerSession) (h : WriteHandle) (st : Receiving)
        (incoming : Incoming) (n : Network) (v : Volume) (s : Session) (e : TransferError)
        (n₁ : Network),
      ss.task = .receiving h st →
      (Receiving.step srv.store.volume ss.session st incoming : NetM _).run n =
        ((v, s, .finished (.error e)), n₁) →
      Ensures (srv.advance ss incoming) n fun r _ =>
        r.1.store.volume.contains h.name = false ∨ ∃ e', v.removeFile h.name = .error e') ∧
    (∀ (srv : Server) (s : Session) (name : String) (store : Store) (h : WriteHandle)
        (n : Network) (e : TransferError) (n₁ : Network),
      srv.store.openForWrite name = (store, .ok h) →
      (s.send (.ack 0) : NetM _).run n = (.error e, n₁) →
      Ensures (srv.startWrite s name) n fun srv' _ =>
        srv'.store.volume.contains h.name = false ∨
          ∃ e', store.volume.removeFile h.name = .error e') ∧
    (∀ (c : Client) (run : ClientRun) (h : WriteHandle) (target : String) (st : Receiving)
        (incoming : Incoming) (n : Network) (v : Volume) (s : Session) (e : TransferError)
        (n₁ : Network),
      run.stage = .reading h target st →
      (Receiving.step c.store.volume run.session st incoming : NetM _).run n =
        ((v, s, .finished (.error e)), n₁) →
      Ensures (c.step run incoming) n fun r _ =>
        r.1.store.volume.contains h.name = false ∨ ∃ e', v.removeFile h.name = .error e') := by
  refine ⟨fun settings listen root v n₀ srv n hrun => ?_,
    fun settings root v n₀ c runs n hrun => ?_,
    fun srv ss h st incoming n v s e n₁ ht hr =>
      Server.advance_removes_failed_upload ht incoming hr,
    fun srv s name store h n e n₁ hc hs => Server.startWrite_removes_unacknowledged hc hs,
    fun c run h target st incoming n v s e n₁ hst hr =>
      Client.step_removes_failed_read hst incoming hr⟩
  · -- a server starts with no session, and every step keeps its accounts
    have hs := holds_along_run hrun Server.Step.sound (Tally.sound_nil _ _)
    exact ⟨hs.accounts, hs.isIdle⟩
  · have hs := holds_along_run hrun Client.Step.sound (Tally.sound_nil _ _)
    exact ⟨hs.accounts, hs.isIdle⟩

/-- A peer that reports a full disk in the middle of an upload makes the receive fail, and the
upload is abandoned. -/
theorem upload_abandoned_on_peer_error :
    (({ session := Session.withPeer (.ofIp .localhost 1024) (.ofIp .localhost 2000) 3,
        task := .receiving ⟨"a", ⟨.inode 0, .writeOnly, 0⟩⟩
          (Receiving.start ⟨.inode 0, .writeOnly, 0⟩),
        deadline := 0 } : ServerSession).task =
      .receiving ⟨"a", ⟨.inode 0, .writeOnly, 0⟩⟩ (Receiving.start ⟨.inode 0, .writeOnly, 0⟩)) ∧
    (Receiving.step ({} : Volume)
        (Session.withPeer (.ofIp .localhost 1024) (.ofIp .localhost 2000) 3)
        (Receiving.start ⟨.inode 0, .writeOnly, 0⟩) (.packet (.error .diskFull "full")) :
        NetM _).run (Network.empty true) =
      (({}, { (Session.withPeer (.ofIp .localhost 1024) (.ofIp .localhost 2000) 3) with
          phase := .aborted }, .finished (.error (.peer .diskFull "full"))),
        Network.empty true) ∧
    Ensures (({ settings := .default, listen := .ofIp .localhost 69, store := .ofVolume "" {} } :
        Server).advance
        { session := Session.withPeer (.ofIp .localhost 1024) (.ofIp .localhost 2000) 3,
          task := .receiving ⟨"a", ⟨.inode 0, .writeOnly, 0⟩⟩
            (Receiving.start ⟨.inode 0, .writeOnly, 0⟩),
          deadline := 0 }
        (.packet (.error .diskFull "full"))) (Network.empty true) fun r _ =>
      r.1.store.volume.contains "a" = false ∨ ∃ e', ({} : Volume).removeFile "a" = .error e' :=
  ⟨rfl, rfl,
    sessions_give_back_their_handles.2.2.1 _ _ ⟨"a", ⟨.inode 0, .writeOnly, 0⟩⟩ _ _ _ _ _ _ _ rfl rfl⟩

end Tftp
