import Tftp.Proofs.Session.Wiretap
import Mathlib

/-!
# The retry budget

A session waits for one packet at a time. The awaited packet ends the run of soft failures
(`Session.accept` sets the count to 0). Every other response goes to `Session.reject`: a peer
ERROR ends the session at once, and anything else (a timeout, a datagram from the peer that does
not decode, a stale ACK, a duplicate DATA, a packet of the wrong kind) is a soft failure, after
which the outstanding packet is sent once more. The `maxRetries`-th soft failure in a row ends the
session instead, with nothing sent.

`Session.rejectAll` is a wait fed responses none of which is the awaited one; the three machines
that wait (`Sending.step`, `Receiving.step` and `awaitAck`) hand every such response to
`Session.reject` and keep waiting as they were, so a run of them is `rejectAll`. Its runs are
`rejectAll_run_soft`, `rejectAll_run_exhausted` and `rejectAll_run_peer`. From them: a peer that
stays silent sees the outstanding packet exactly `maxRetries` times (`silent_peer_run`), and an
unanswered delete puts exactly its request and one ERROR on the wire (`drive_beginDelete_silent`).
-/

namespace Tftp

open Tftp.Net

/-- Whether a response is an ERROR from the peer, the one response that ends a wait at once. -/
def Incoming.isPeerError : Incoming → Bool
  | .packet (.error _ _) => true
  | _ => false

/-- How a machine stands once `Session.reject` took a response it was not waiting for: waiting as
it was, or finished with the failure. -/
def Flow.ofReject {σ : Type} (st : σ) : Except TransferError Unit → Flow σ
  | .ok () => .waiting st
  | .error e => .finished (.error e)

/-- How `awaitAck` stands once `Session.reject` took a response other than the ACK: still
waiting, or failed. -/
def awaitOutcome : Except TransferError Unit → Option (Except TransferError Unit)
  | .ok () => none
  | .error e => some (.error e)

namespace Session

variable {m : Type → Type} [Monad m] [Host m]

/-- A wait fed responses none of which is the awaited one: each goes to `reject`, until one ends
the session. -/
def rejectAll (s : Session) : List Incoming → m (Session × Except TransferError Unit)
  | [] => pure (s, .ok ())
  | i :: is => do
    match ← s.reject i with
    | (s, .ok ()) => s.rejectAll is
    | (s, .error e) => pure (s, .error e)

theorem reject_of_not_isPeerError (s : Session) {i : Incoming} (hi : i.isPeerError = false) :
    (s.reject i : m _) = s.retry := by
  unfold reject
  split
  · simp [Incoming.isPeerError] at hi
  · rfl

/-! ## One response -/

variable {w : Wiretap}

/-- A soft failure within the budget: counted, and the outstanding packet sent once more. -/
theorem retry_run_resend (hd : w.Delivers) (s : Session) (h : s.retries + 1 < s.maxRetries) :
    (s.retry : TapM _).run w =
      (({ s with retries := s.retries + 1 }, .ok ()), w.record s.outstanding) := by
  rw [retry, if_neg (by simp only; omega)]
  cases hl : s.lastSent with
  | none =>
    simp only [StateM.run_pure]
    simp [outstanding, hl]
  | some bytes =>
    simp only
    rw [StateM.run_bind_of_run (transmitBytes_run hd _ bytes)]
    simp [outstanding, hl]
    rfl

/-- The soft failure that spends the budget: the session aborts and nothing is sent. -/
theorem retry_run_exhausted (s : Session) (h : s.maxRetries ≤ s.retries + 1) :
    (s.retry : TapM _).run w =
      (({ s with retries := s.retries + 1, phase := .aborted },
        .error (.retriesExhausted (s.retries + 1))), w) := by
  rw [retry, if_pos (by simp only; omega)]
  rfl

theorem reject_run_resend (hd : w.Delivers) (s : Session) {i : Incoming}
    (hi : i.isPeerError = false) (h : s.retries + 1 < s.maxRetries) :
    (s.reject i : TapM _).run w =
      (({ s with retries := s.retries + 1 }, .ok ()), w.record s.outstanding) := by
  rw [reject_of_not_isPeerError (m := TapM) s hi, retry_run_resend hd s h]

theorem reject_run_exhausted (s : Session) {i : Incoming} (hi : i.isPeerError = false)
    (h : s.maxRetries ≤ s.retries + 1) :
    (s.reject i : TapM _).run w =
      (({ s with retries := s.retries + 1, phase := .aborted },
        .error (.retriesExhausted (s.retries + 1))), w) := by
  rw [reject_of_not_isPeerError (m := TapM) s hi, retry_run_exhausted s h]

/-- A peer ERROR ends the session at once, with nothing sent. -/
theorem reject_run_peer (s : Session) (code : ErrorCode) (message : String) :
    (s.reject (.packet (.error code message)) : TapM _).run w =
      (({ s with phase := .aborted }, .error (.peer code message)), w) := rfl

/-! ## A run of responses -/

theorem rejectAll_run_nil (s : Session) : (s.rejectAll [] : TapM _).run w = ((s, .ok ()), w) :=
  rfl

theorem rejectAll_run_cons {s s₁ : Session} {i : Incoming} {w₁ : Wiretap}
    (is : List Incoming) (h : (s.reject i : TapM _).run w = ((s₁, .ok ()), w₁)) :
    (s.rejectAll (i :: is) : TapM _).run w = (s₁.rejectAll is : TapM _).run w₁ := by
  rw [rejectAll, StateM.run_bind_of_run h]

theorem rejectAll_run_cons_error {s s₁ : Session} {i : Incoming} {w₁ : Wiretap} {e : TransferError}
    (is : List Incoming) (h : (s.reject i : TapM _).run w = ((s₁, .error e), w₁)) :
    (s.rejectAll (i :: is) : TapM _).run w = ((s₁, .error e), w₁) := by
  rw [rejectAll, StateM.run_bind_of_run h]
  rfl

/-- Responses after a run that left the session waiting are taken from where it left off. -/
theorem rejectAll_run_append {s s' : Session} {w' : Wiretap} {pre : List Incoming}
    (h : (s.rejectAll pre : TapM _).run w = ((s', .ok ()), w')) (rest : List Incoming) :
    (s.rejectAll (pre ++ rest) : TapM _).run w = (s'.rejectAll rest : TapM _).run w' := by
  induction pre generalizing s w with
  | nil =>
    rw [rejectAll_run_nil] at h
    cases h
    rfl
  | cons i pre ih =>
    -- the first response either left the session waiting, and the rest is the induction, or
    -- ended it, which contradicts `h`
    rcases hr : (s.reject i : TapM _).run w with ⟨⟨s₁, r₁ | ⟨⟩⟩, w₁⟩
    · rw [rejectAll_run_cons_error pre hr] at h
      cases h
    · rw [rejectAll_run_cons pre hr] at h
      rw [List.cons_append, rejectAll_run_cons _ hr, ih h]

/-- Soft failures that stay within the budget: each is counted and followed by the outstanding
packet, sent once more. -/
theorem rejectAll_run_soft (hd : w.Delivers) {s : Session} {is : List Incoming}
    (hsoft : ∀ i ∈ is, i.isPeerError = false) (h : s.retries + is.length < s.maxRetries) :
    (s.rejectAll is : TapM _).run w =
      (({ s with retries := s.retries + is.length }, .ok ()),
        w.record (List.replicate is.length s.outstanding).flatten) := by
  induction is generalizing s w with
  | nil => simp [rejectAll_run_nil]
  | cons i is ih =>
    have hi : i.isPeerError = false := hsoft i List.mem_cons_self
    have hs : s.retries + 1 < s.maxRetries := by
      simp only [List.length_cons] at h
      omega
    rw [rejectAll_run_cons is (reject_run_resend hd s hi hs),
      ih (hd.record _) (fun i hmem => hsoft i (List.mem_cons_of_mem _ hmem))
        (by simp only [List.length_cons] at h ⊢; omega)]
    simp only [outstanding_retries, Wiretap.record_record, List.length_cons, List.replicate_succ,
      List.flatten_cons]
    congr 3
    omega

/-- The soft failure that spends the budget ends the session with `RetriesExhausted`; the ones
before it each sent the outstanding packet once more, and it sends nothing. -/
theorem rejectAll_run_exhausted (hd : w.Delivers) {s : Session} {is : List Incoming}
    (hsoft : ∀ i ∈ is, i.isPeerError = false) (hlive : s.retries < s.maxRetries)
    (h : s.maxRetries ≤ s.retries + is.length) :
    (s.rejectAll is : TapM _).run w =
      (({ s with retries := s.maxRetries, phase := .aborted },
        .error (.retriesExhausted s.maxRetries)),
        w.record (List.replicate (s.maxRetries - s.retries - 1) s.outstanding).flatten) := by
  induction is generalizing s w with
  | nil =>
    simp only [List.length_nil] at h
    omega
  | cons i is ih =>
    have hi : i.isPeerError = false := hsoft i List.mem_cons_self
    by_cases hlast : s.retries + 1 = s.maxRetries
    · -- this response spends the budget
      rw [rejectAll_run_cons_error is (reject_run_exhausted s hi hlast.ge), hlast]
      simp [← hlast]
    · -- this one is resent, and the budget is spent later
      have hs : s.retries + 1 < s.maxRetries := by omega
      rw [rejectAll_run_cons is (reject_run_resend hd s hi hs),
        ih (hd.record _) (fun i hmem => hsoft i (List.mem_cons_of_mem _ hmem)) hs
          (by simp only [List.length_cons] at h ⊢; omega)]
      have hcount : s.maxRetries - s.retries - 1 = (s.maxRetries - (s.retries + 1) - 1) + 1 := by
        omega
      simp only [outstanding_retries, Wiretap.record_record, hcount, List.replicate_succ,
        List.flatten_cons]

/-- A peer ERROR after soft failures within the budget ends the session at once: the soft
failures each sent the outstanding packet once more, the ERROR nothing. -/
theorem rejectAll_run_peer (hd : w.Delivers) {s : Session} {pre : List Incoming}
    (hsoft : ∀ i ∈ pre, i.isPeerError = false) (h : s.retries + pre.length < s.maxRetries)
    (code : ErrorCode) (message : String) (post : List Incoming) :
    (s.rejectAll (pre ++ .packet (.error code message) :: post) : TapM _).run w =
      (({ s with retries := s.retries + pre.length, phase := .aborted },
        .error (.peer code message)),
        w.record (List.replicate pre.length s.outstanding).flatten) := by
  rw [rejectAll_run_append (rejectAll_run_soft hd hsoft h),
    rejectAll_run_cons_error post (reject_run_peer _ code message)]

/-- A peer that stays silent after a DATA or ACK sees it exactly `maxRetries` times: once sent,
then sent again after each timeout but the last, which ends the session. -/
theorem silent_peer_run (hd : w.Delivers) {s : Session} (h0 : s.retries = 0)
    (hm : 0 < s.maxRetries) {p : Packet} {bytes : List UInt8} (hb : p.toBytes = .ok bytes)
    {k : Nat} (hk : s.maxRetries ≤ k) :
    (s.send p : TapM _).run w =
      (.ok { s with lastSent := some bytes, phase := .exchanging },
        w.record [⟨s.socket, s.peer.addr, bytes⟩]) ∧
    ({ s with lastSent := some bytes, phase := .exchanging }.rejectAll (List.replicate k .timeout) :
        TapM _).run (w.record [⟨s.socket, s.peer.addr, bytes⟩]) =
      (({ s with lastSent := some bytes, retries := s.maxRetries, phase := .aborted },
        .error (.retriesExhausted s.maxRetries)),
        w.record (List.replicate s.maxRetries ⟨s.socket, s.peer.addr, bytes⟩)) := by
  refine ⟨send_run hd s hb, ?_⟩
  rw [rejectAll_run_exhausted (hd.record _) (by simp [Incoming.isPeerError]) (by simp only; omega)
    (by simp only [List.length_replicate]; omega)]
  -- the first copy and the `maxRetries - 1` sent again
  simp only [outstanding, h0, Option.toList_some, List.map_cons, List.map_nil, Nat.sub_zero,
    List.flatten_replicate_singleton, Wiretap.record_record, List.singleton_append]
  rw [← List.replicate_succ, Nat.sub_add_cancel hm]

end Session

/-! ## The machines that wait -/

section Machines

variable {m : Type → Type} [Monad m] [Host m] {w w' : Wiretap}

namespace Sending

theorem step_of_ne {v : Volume} {s : Session} {st : Sending} {i : Incoming}
    (hi : i ≠ .packet (.ack st.block)) : (step v s st i : m _) = step.reject s st i := by
  unfold step
  split
  · rename_i b
    have hb : (b == st.block) = false := beq_false_of_ne fun e => hi (e ▸ rfl)
    rw [if_neg (by simp [hb])]
  · rfl

/-- A response other than the awaited ACK goes to `Session.reject`; the sender waits as it was or
finishes with the failure. -/
theorem step_run_of_ne {v : Volume} {s s' : Session} {st : Sending} {i : Incoming}
    {r : Except TransferError Unit} (hi : i ≠ .packet (.ack st.block))
    (h : (s.reject i : TapM _).run w = ((s', r), w')) :
    (step v s st i : TapM _).run w = ((s', Flow.ofReject st r), w') := by
  rw [step_of_ne hi, step.reject, StateM.run_bind_of_run h]
  cases r <;> rfl

end Sending

namespace Receiving

theorem step_of_ne {v : Volume} {s : Session} {st : Receiving} {i : Incoming}
    (hi : ∀ payload, i ≠ .packet (.data (st.block + 1) payload)) :
    (step v s st i : m _) = step.reject v s st i := by
  unfold step
  split
  · rename_i b payload
    have hb : (b == st.block + 1) = false := beq_false_of_ne fun e => hi payload (e ▸ rfl)
    rw [if_neg (by simp [hb])]
  · rfl

/-- A response other than the awaited DATA goes to `Session.reject`; the receiver waits as it was
or finishes with the failure, its file untouched. -/
theorem step_run_of_ne {v : Volume} {s s' : Session} {st : Receiving} {i : Incoming}
    {r : Except TransferError Unit} (hi : ∀ payload, i ≠ .packet (.data (st.block + 1) payload))
    (h : (s.reject i : TapM _).run w = ((s', r), w')) :
    (step v s st i : TapM _).run w = ((v, s', Flow.ofReject st r), w') := by
  rw [step_of_ne hi, step.reject, StateM.run_bind_of_run h]
  cases r <;> rfl

end Receiving

theorem awaitAck_of_ne {s : Session} {block : UInt16} {i : Incoming}
    (hi : i ≠ .packet (.ack block)) : (awaitAck s block i : m _) = awaitAck.reject s i := by
  unfold awaitAck
  split
  · rename_i b
    have hb : (b == block) = false := beq_false_of_ne fun e => hi (e ▸ rfl)
    rw [if_neg (by simp [hb])]
  · rfl

/-- A response other than the awaited ACK goes to `Session.reject`: still waiting, or failed. -/
theorem awaitAck_run_of_ne {s s' : Session} {block : UInt16} {i : Incoming}
    {r : Except TransferError Unit} (hi : i ≠ .packet (.ack block))
    (h : (s.reject i : TapM _).run w = ((s', r), w')) :
    (awaitAck s block i : TapM _).run w = ((s', awaitOutcome r), w') := by
  rw [awaitAck_of_ne hi, awaitAck.reject, StateM.run_bind_of_run h]
  cases r <;> rfl

end Machines

/-! ## The awaited packet -/

section Awaited

variable {w : Wiretap}

/-- Reading and sending the next block leaves the count of soft failures alone. -/
theorem Sending.retries_next_run (v : Volume) (s : Session) (file : OpenFile) (block : UInt16)
    (stats : Stats) : ((Sending.next v s file block stats : TapM _).run w).1.1.retries = s.retries := by
  unfold Sending.next
  split
  · obtain ⟨w₁, he⟩ := s.exists_sendError_run .notDefined "file read error" (w := w)
    rw [StateM.run_bind_of_run he]
    rfl
  · dsimp only
    rcases hsend : (s.send _ : TapM _).run w with ⟨r, w₁⟩
    rw [StateM.run_bind_of_run hsend]
    cases r with
    | error e => rfl
    | ok s' => exact Session.retries_of_send_run _ (congrArg Prod.fst hsend)

/-- The awaited ACK ends the run of soft failures, whatever the sender does next. -/
theorem Sending.retries_step_run_ack (v : Volume) (s : Session) (st : Sending) :
    ((Sending.step v s st (.packet (.ack st.block)) : TapM _).run w).1.1.retries = 0 := by
  simp only [Sending.step, beq_self_eq_true, if_true]
  split
  · rfl
  · rw [Sending.retries_next_run]
    rfl

/-- The awaited DATA ends the run of soft failures, whatever the receiver does next. -/
theorem Receiving.retries_step_run_data (v : Volume) (s : Session) (st : Receiving)
    (payload : List UInt8) :
    ((Receiving.step v s st (.packet (.data (st.block + 1) payload)) : TapM _).run w).1.2.1.retries
      = 0 := by
  simp only [Receiving.step, beq_self_eq_true, if_true]
  split
  · obtain ⟨w₁, he⟩ := s.accept.exists_sendError_run .notDefined "file write error" (w := w)
    rw [StateM.run_bind_of_run he]
    rfl
  · rcases hsend : (s.accept.send (.ack (st.block + 1)) : TapM _).run w with ⟨r, w₁⟩
    rw [StateM.run_bind_of_run hsend]
    cases r with
    | error e => rfl
    | ok s' =>
      have h0 : s'.retries = 0 := Session.retries_of_send_run _ (congrArg Prod.fst hsend)
      dsimp only
      split
      · exact h0
      · exact h0

/-- The awaited ACK ends the run of soft failures. -/
theorem retries_awaitAck_run_ack (s : Session) (block : UInt16) :
    ((awaitAck s block (.packet (.ack block)) : TapM _).run w).1.1.retries = 0 := by
  simp only [awaitAck, beq_self_eq_true, if_true]
  rfl

end Awaited

/-! ## An unanswered delete -/

namespace Client

variable {m : Type → Type} [Monad m] [Host m]

/-- A client operation fed the outcomes of its waits one by one, until it finishes. -/
def drive (c : Client) : ClientFlow → List Incoming → m (Client × ClientFlow)
  | .running run, i :: is => do
    let r ← c.step run i
    r.1.drive r.2 is
  | flow, _ => pure (c, flow)

/-- The wait of a delete for the server's answer. -/
def deleting (c : Client) (name : String) (s : Session) (now : Nat) : ClientRun :=
  { operation := .delete, name, session := s, stage := .deleting, deadline := now + c.window }

variable {w : Wiretap}

theorem drive_finished (c : Client) (r : Except TransferError Summary) (is : List Incoming) :
    (c.drive (.finished r) is : m _) = pure (c, .finished r) := by
  cases is <;> rfl

theorem openSession_run (c : Client) :
    (c.openSession : TapM _).run w =
      (.ok (Session.withServer (.ofIp c.settings.bindIp w.nextPort.toUInt16) c.settings.server
        c.settings.transfer.maxRetries), { w with nextPort := w.nextPort + 1 }) := rfl

theorem drive_run_cons (c : Client) (run : ClientRun) (i : Incoming) (is : List Incoming) :
    (c.drive (.running run) (i :: is) : TapM _).run w =
      ((c.step run i : TapM _) >>= fun r => r.1.drive r.2 is).run w := rfl

/-- A timeout within the budget: the delete waits again, with nothing sent, for its request is
never sent again. -/
theorem step_deleting_run_timeout (hd : w.Delivers) (c : Client) (name : String) {s : Session}
    (now : Nat) (hl : s.lastSent = none) (h : s.retries + 1 < s.maxRetries) :
    (c.step (c.deleting name s now) .timeout : TapM _).run w =
      ((c, .running (c.deleting name { s with retries := s.retries + 1 } w.now)), w) := by
  have hr := Session.reject_run_resend hd s (i := .timeout) rfl h
  rw [show s.outstanding = [] by simp [Session.outstanding, hl], Wiretap.record_nil] at hr
  simp only [step, deleting]
  rw [StateM.run_bind_of_run (awaitAck_run_of_ne (by simp) hr)]
  rfl

/-- The timeout that spends the budget: the client tells the server it gave up, once, and the
delete fails with `RetriesExhausted`. -/
theorem step_deleting_run_exhausted (hd : w.Delivers) (c : Client) (name : String) {s : Session}
    (now : Nat) {err : List UInt8}
    (herr : (Packet.error .notDefined "no ack received").toBytes = .ok err)
    (h : s.maxRetries ≤ s.retries + 1) :
    (c.step (c.deleting name s now) .timeout : TapM _).run w =
      ((c, .finished (.error (.retriesExhausted (s.retries + 1)))),
        w.record [⟨s.socket, s.peer.addr, err⟩]) := by
  have hr := Session.reject_run_exhausted s (i := .timeout) (w := w) rfl h
  simp only [step, deleting]
  rw [StateM.run_bind_of_run (awaitAck_run_of_ne (by simp) hr)]
  simp only [awaitOutcome]
  rw [StateM.run_bind_of_run (Session.sendError_run hd _ herr)]
  rfl

/-- A delete whose server stays silent sends nothing more until its budget is spent, then one
ERROR, and fails with `RetriesExhausted`. -/
theorem drive_deleting_silent (hd : w.Delivers) (c : Client) (name : String) {s : Session}
    (now : Nat) {err : List UInt8}
    (herr : (Packet.error .notDefined "no ack received").toBytes = .ok err)
    (hl : s.lastSent = none) (hlive : s.retries < s.maxRetries) {k : Nat}
    (hk : s.maxRetries ≤ s.retries + k) :
    (c.drive (.running (c.deleting name s now)) (List.replicate k .timeout) : TapM _).run w =
      ((c, .finished (.error (.retriesExhausted s.maxRetries))),
        w.record [⟨s.socket, s.peer.addr, err⟩]) := by
  induction k generalizing s now with
  | zero => omega
  | succ k ih =>
    rw [List.replicate_succ, drive_run_cons]
    by_cases hlast : s.retries + 1 = s.maxRetries
    · -- this timeout spends the budget
      rw [StateM.run_bind_of_run (step_deleting_run_exhausted hd c name now herr hlast.ge), hlast]
      exact congrArg (StateT.run · _) (drive_finished c _ _)
    · rw [StateM.run_bind_of_run (step_deleting_run_timeout hd c name now hl (by omega))]
      exact ih w.now hl (by simp only; omega) (by simp only; omega)

/-- A delete that gets no answer puts exactly its request and then one ERROR on the wire, both
from its transfer socket to the server's address, and fails with `RetriesExhausted` after
`max maxRetries 1` waits. -/
theorem drive_beginDelete_silent (hd : w.Delivers) (c : Client) {name : String}
    {req err : List UInt8} (hreq : (Packet.deleteRequest name).toBytes = .ok req)
    (herr : (Packet.error .notDefined "no ack received").toBytes = .ok err) {k : Nat}
    (hk : max c.settings.transfer.maxRetries 1 ≤ k) :
    (c.beginDelete name >>= fun r => r.1.drive r.2 (List.replicate k .timeout) : TapM _).run w =
      ((c, .finished (.error (.retriesExhausted (max c.settings.transfer.maxRetries 1)))),
        { w with nextPort := w.nextPort + 1 }.record
          [⟨.ofIp c.settings.bindIp w.nextPort.toUInt16, c.settings.server, req⟩,
            ⟨.ofIp c.settings.bindIp w.nextPort.toUInt16, c.settings.server, err⟩]) := by
  let s := Session.withServer (.ofIp c.settings.bindIp w.nextPort.toUInt16) c.settings.server
    c.settings.transfer.maxRetries
  have hbegin : (c.beginDelete name : TapM _).run w =
      ((c, .running (c.deleting name { s with phase := .exchanging } w.now)),
        { w with nextPort := w.nextPort + 1 }.record [⟨s.socket, s.peer.addr, req⟩]) := by
    simp only [beginDelete]
    rw [StateM.run_bind_of_run (openSession_run c)]
    dsimp only
    rw [StateM.run_bind_of_run (Session.sendRequest_run (w := { w with nextPort := w.nextPort + 1 })
      hd _ hreq)]
    rfl
  rw [StateM.run_bind_of_run hbegin]
  dsimp only
  rw [drive_deleting_silent (Wiretap.Delivers.record (w := { w with nextPort := w.nextPort + 1 }) hd _)
    c name w.now herr rfl (by simp [s, Session.withServer])
      (by simpa [s, Session.withServer] using hk)]
  simp only [Wiretap.record_record]
  rfl

end Client

/-! ## The budget -/

/-- The retry budget of a session. The awaited packet ends a run of soft failures, whatever the
machine does next. Every other response goes to `Session.reject`, the machine waiting as it was.
Over soft failures within the budget the outstanding packet is sent once after each; the soft
failure that spends the budget ends the session with `RetriesExhausted` and sends nothing; a peer
ERROR ends it at once. So a silent peer sees a DATA or ACK exactly `maxRetries` times, and a delete
that gets no answer sends exactly its request and then one ERROR. -/
theorem retry_budget :
    (∀ (v : Volume) (s : Session) (st : Sending) (w : Wiretap),
      ((Sending.step v s st (.packet (.ack st.block)) : TapM _).run w).1.1.retries = 0) ∧
    (∀ (v : Volume) (s : Session) (st : Receiving) (payload : List UInt8) (w : Wiretap),
      ((Receiving.step v s st (.packet (.data (st.block + 1) payload)) : TapM _).run w).1.2.1.retries
        = 0) ∧
    (∀ (s : Session) (block : UInt16) (w : Wiretap),
      ((awaitAck s block (.packet (.ack block)) : TapM _).run w).1.1.retries = 0) ∧
    (∀ (v : Volume) (s s' : Session) (st : Sending) (i : Incoming) (r : Except TransferError Unit)
      (w w' : Wiretap), i ≠ .packet (.ack st.block) →
      (s.reject i : TapM _).run w = ((s', r), w') →
      (Sending.step v s st i : TapM _).run w = ((s', Flow.ofReject st r), w')) ∧
    (∀ (v : Volume) (s s' : Session) (st : Receiving) (i : Incoming)
      (r : Except TransferError Unit) (w w' : Wiretap),
      (∀ payload, i ≠ .packet (.data (st.block + 1) payload)) →
      (s.reject i : TapM _).run w = ((s', r), w') →
      (Receiving.step v s st i : TapM _).run w = ((v, s', Flow.ofReject st r), w')) ∧
    (∀ (s s' : Session) (block : UInt16) (i : Incoming) (r : Except TransferError Unit)
      (w w' : Wiretap), i ≠ .packet (.ack block) →
      (s.reject i : TapM _).run w = ((s', r), w') →
      (awaitAck s block i : TapM _).run w = ((s', awaitOutcome r), w')) ∧
    (∀ (s : Session) (is : List Incoming) (w : Wiretap), w.Delivers →
      (∀ i ∈ is, i.isPeerError = false) → s.retries + is.length < s.maxRetries →
      (s.rejectAll is : TapM _).run w =
        (({ s with retries := s.retries + is.length }, .ok ()),
          w.record (List.replicate is.length s.outstanding).flatten)) ∧
    (∀ (s : Session) (is : List Incoming) (w : Wiretap), w.Delivers →
      (∀ i ∈ is, i.isPeerError = false) → s.retries < s.maxRetries →
      s.maxRetries ≤ s.retries + is.length →
      (s.rejectAll is : TapM _).run w =
        (({ s with retries := s.maxRetries, phase := .aborted },
          .error (.retriesExhausted s.maxRetries)),
          w.record (List.replicate (s.maxRetries - s.retries - 1) s.outstanding).flatten)) ∧
    (∀ (s : Session) (pre post : List Incoming) (code : ErrorCode) (message : String)
      (w : Wiretap), w.Delivers →
      (∀ i ∈ pre, i.isPeerError = false) → s.retries + pre.length < s.maxRetries →
      (s.rejectAll (pre ++ .packet (.error code message) :: post) : TapM _).run w =
        (({ s with retries := s.retries + pre.length, phase := .aborted },
          .error (.peer code message)),
          w.record (List.replicate pre.length s.outstanding).flatten)) ∧
    (∀ (s : Session) (p : Packet) (bytes : List UInt8) (k : Nat) (w : Wiretap), w.Delivers →
      s.retries = 0 → 0 < s.maxRetries → p.toBytes = .ok bytes → s.maxRetries ≤ k →
      (s.send p : TapM _).run w =
        (.ok { s with lastSent := some bytes, phase := .exchanging },
          w.record [⟨s.socket, s.peer.addr, bytes⟩]) ∧
      ({ s with lastSent := some bytes, phase := .exchanging }.rejectAll
          (List.replicate k .timeout) : TapM _).run (w.record [⟨s.socket, s.peer.addr, bytes⟩]) =
        (({ s with lastSent := some bytes, retries := s.maxRetries, phase := .aborted },
          .error (.retriesExhausted s.maxRetries)),
          w.record (List.replicate s.maxRetries ⟨s.socket, s.peer.addr, bytes⟩))) ∧
    (∀ (c : Client) (name : String) (req err : List UInt8) (k : Nat) (w : Wiretap), w.Delivers →
      (Packet.deleteRequest name).toBytes = .ok req →
      (Packet.error .notDefined "no ack received").toBytes = .ok err →
      max c.settings.transfer.maxRetries 1 ≤ k →
      (c.beginDelete name >>= fun r => r.1.drive r.2 (List.replicate k .timeout) : TapM _).run w =
        ((c, .finished (.error (.retriesExhausted (max c.settings.transfer.maxRetries 1)))),
          { w with nextPort := w.nextPort + 1 }.record
            [⟨.ofIp c.settings.bindIp w.nextPort.toUInt16, c.settings.server, req⟩,
              ⟨.ofIp c.settings.bindIp w.nextPort.toUInt16, c.settings.server, err⟩])) :=
  ⟨fun v s st _ => Sending.retries_step_run_ack v s st,
    fun v s st payload _ => Receiving.retries_step_run_data v s st payload,
    fun s block _ => retries_awaitAck_run_ack s block,
    fun _ _ _ _ _ _ _ _ hi h => Sending.step_run_of_ne hi h,
    fun _ _ _ _ _ _ _ _ hi h => Receiving.step_run_of_ne hi h,
    fun _ _ _ _ _ _ _ hi h => awaitAck_run_of_ne hi h,
    fun _ _ _ hd hsoft h => Session.rejectAll_run_soft hd hsoft h,
    fun _ _ _ hd hsoft hlive h => Session.rejectAll_run_exhausted hd hsoft hlive h,
    fun _ _ post code message _ hd hsoft h => Session.rejectAll_run_peer hd hsoft h code message post,
    fun _ _ _ _ _ hd h0 hm hb hk => Session.silent_peer_run hd h0 hm hb hk,
    fun c _ _ _ _ _ hd hreq herr hk => Client.drive_beginDelete_silent hd c hreq herr hk⟩

/-- A server session created with a budget of 0 retries still has one attempt: the client that
stays silent after the ACK of block 0 receives it once, and the session ends at the first
timeout. -/
theorem silent_peer_single_ack :
    Wiretap.faithful.Delivers ∧
    (Session.withPeer (.ofIp .localhost 1024) (.ofIp .localhost 5000) 0).retries = 0 ∧
    0 < (Session.withPeer (.ofIp .localhost 1024) (.ofIp .localhost 5000) 0).maxRetries ∧
    (Packet.ack 0).toBytes = .ok [0, 4, 0, 0] ∧
    (Session.withPeer (.ofIp .localhost 1024) (.ofIp .localhost 5000) 0).maxRetries ≤ 1 ∧
    ({ Session.withPeer (.ofIp .localhost 1024) (.ofIp .localhost 5000) 0 with
        lastSent := some [0, 4, 0, 0], phase := .exchanging }.rejectAll [.timeout] : TapM _).run
        (Wiretap.faithful.record [⟨.ofIp .localhost 1024, .ofIp .localhost 5000, [0, 4, 0, 0]⟩]) =
      (({ Session.withPeer (.ofIp .localhost 1024) (.ofIp .localhost 5000) 0 with
          lastSent := some [0, 4, 0, 0], retries := 1, phase := .aborted },
        .error (.retriesExhausted 1)),
        Wiretap.faithful.record [⟨.ofIp .localhost 1024, .ofIp .localhost 5000, [0, 4, 0, 0]⟩]) :=
  have hd := Wiretap.delivers_faithful
  have h0 : (Session.withPeer (.ofIp .localhost 1024) (.ofIp .localhost 5000) 0).retries = 0 := rfl
  have hm : 0 < (Session.withPeer (.ofIp .localhost 1024) (.ofIp .localhost 5000) 0).maxRetries :=
    by decide
  have hb : (Packet.ack 0).toBytes = .ok [0, 4, 0, 0] := by decide
  have hk : (Session.withPeer (.ofIp .localhost 1024) (.ofIp .localhost 5000) 0).maxRetries ≤ 1 :=
    by decide
  ⟨hd, h0, hm, hb, hk, (retry_budget.2.2.2.2.2.2.2.2.2.1 _ _ _ 1 _ hd h0 hm hb hk).2⟩

end Tftp
