import Tftp.Transfer.Stream
import Tftp.Net.Network
import Tftp.Proofs.Net.Runs
import Mathlib

/-!
# Sockets of the transfer machines

What the machines do to the sockets of the simulated network. Sending a datagram and reading the
clock never unbind a socket (`Network.KeepsBound`); a socket is bound only by `bindEphemeral`, at a
port that no bound socket overlaps (`Network.bindEphemeral_spec`), and unbound only by `close`.
No operation of a session changes the session's own socket: `NetM.Keeps` states a computation's
result property together with the bound sockets it keeps, and each operation of `Session`,
`Sending` and `Receiving` has its `Keeps` lemma.

So the live sessions of a machine hold sockets that are bound, pairwise distinct and all on the
machine's address (`Owned`): there are at most `UInt16.size` of them (`Owned.length_le`).
-/

namespace Tftp.Net

/-! ## The network's bound sockets -/

namespace Network

/-- Every socket bound in `n` is still bound in `n'`. -/
def KeepsBound (n n' : Network) : Prop := ∀ a, n.isBound a = true → n'.isBound a = true

theorem KeepsBound.refl (n : Network) : n.KeepsBound n := fun _ h => h

theorem KeepsBound.trans {n₁ n₂ n₃ : Network} (h₁ : n₁.KeepsBound n₂) (h₂ : n₂.KeepsBound n₃) :
    n₁.KeepsBound n₃ := fun a h => h₂ a (h₁ a h)

theorem isBound_eq_any_map (n : Network) (a : SocketAddr) :
    n.isBound a = (n.sockets.map (·.addr)).any (· == a) := by
  simp [isBound, List.any_map, Function.comp_def]

theorem map_addr_enqueue (sockets : List Socket) (dst : SocketAddr) (seq : Nat) (d : Datagram) :
    (enqueue sockets dst seq d).map (·.addr) = sockets.map (·.addr) := by
  unfold enqueue
  split
  · apply List.ext_getElem (by simp)
    intro j h₁ h₂
    simp only [List.getElem_map, List.getElem_modify]
    split <;> rfl
  · rfl

theorem keepsBound_send (n : Network) (src dst : SocketAddr) (payload : List UInt8) :
    n.KeepsBound (n.send src dst payload).1 := by
  intro a ha
  unfold send
  split
  · exact ha
  split
  · exact ha
  split
  · exact ha
  rw [isBound_eq_any_map] at ha ⊢
  simpa [map_addr_enqueue] using ha

theorem isBound_close {n : Network} {a b : SocketAddr} (hb : n.isBound b = true) (hne : b ≠ a) :
    (n.close a).isBound b = true := by
  simp only [isBound, close, List.any_filter, List.any_eq_true, Bool.and_eq_true,
    bne_iff_ne, ne_eq, beq_iff_eq] at hb ⊢
  obtain ⟨s, hs, rfl⟩ := hb
  exact ⟨s, hs, hne, rfl⟩

theorem port_ofIp (ip : IpAddr) (p : UInt16) : (SocketAddr.ofIp ip p).port = p := by
  cases ip <;> rfl

theorem overlaps_self (a : SocketAddr) : overlaps a a = true := by
  simp [overlaps]

theorem bind_spec {n n' : Network} {addr : SocketAddr} (h : n.bind addr = .ok n') :
    n.isBound addr = false ∧ n.KeepsBound n' ∧ n'.isBound addr = true := by
  unfold bind at h
  split at h
  · cases h
  · rename_i hfree
    cases h
    refine ⟨?_, fun a ha => ?_, ?_⟩
    · rw [Bool.eq_false_iff]
      intro hb
      simp only [isBound, List.any_eq_true, beq_iff_eq] at hb
      obtain ⟨s, hs, hsa⟩ := hb
      refine hfree (List.any_eq_true.mpr ⟨s, hs, ?_⟩)
      rw [← hsa]
      exact overlaps_self s.addr
    · unfold isBound at ha ⊢
      rw [List.any_append, ha, Bool.true_or]
    · simp [isBound]

/-- A transfer socket is bound on the requested address, at a port that was free, and binding it
unbinds nothing. -/
theorem bindEphemeral_spec {n n' : Network} {ip : IpAddr} {addr : SocketAddr}
    (h : n.bindEphemeral ip = some (n', addr)) :
    (∃ p, addr = .ofIp ip p) ∧ n.isBound addr = false ∧ n.KeepsBound n' ∧
      n'.isBound addr = true := by
  unfold bindEphemeral at h
  -- the ports are tried in turn; each try binds on `ip` or moves to the next port
  generalize ephemeralTries = k at h
  generalize n.nextPort = port at h
  induction k generalizing port with
  | zero => simp [bindEphemeral.go] at h
  | succ k ih =>
    simp only [bindEphemeral.go] at h
    split at h
    · rename_i n₁ hb
      simp only [Option.some.injEq, Prod.mk.injEq] at h
      obtain ⟨rfl, rfl⟩ := h
      obtain ⟨hfree, hkeep, hnew⟩ := bind_spec hb
      exact ⟨⟨_, rfl⟩, hfree, hkeep, hnew⟩
    · exact ih _ h

end Network

/-! ## Computations on the network -/

namespace NetM

/-- From every network, `x` returns a result satisfying `q` and keeps every bound socket bound. -/
def Keeps {α : Type} (x : NetM α) (q : α → Prop) : Prop :=
  ∀ n, q (x.run n).1 ∧ n.KeepsBound (x.run n).2

namespace Keeps

variable {α β : Type} {x : NetM α} {q : α → Prop}

theorem pure {a : α} (h : q a) : Keeps (Pure.pure a) q :=
  fun n => ⟨h, Network.KeepsBound.refl n⟩

theorem bind {f : α → NetM β} {r : β → Prop} (hx : Keeps x q) (hf : ∀ a, q a → Keeps (f a) r) :
    Keeps (x >>= f) r := by
  intro n
  obtain ⟨hq, hb⟩ := hx n
  obtain ⟨hr, hb'⟩ := hf _ hq (x.run n).2
  exact ⟨hr, hb.trans hb'⟩

end Keeps

/-- The network's send: what it answers, and the network it leaves. -/
theorem run_transmit (src dst : SocketAddr) (payload : List UInt8) (n : Network) :
    (Host.transmit src dst payload : NetM (Except Errno Nat)).run n =
      ((n.send src dst payload).2, (n.send src dst payload).1) := rfl

theorem keeps_transmit (src dst : SocketAddr) (payload : List UInt8) :
    Keeps (Host.transmit src dst payload : NetM (Except Errno Nat)) fun _ => True :=
  fun n => ⟨trivial, Network.keepsBound_send n src dst payload⟩

theorem run_bindTransfer (ip : IpAddr) (n : Network) :
    (Host.bindTransfer ip : NetM (Option SocketAddr)).run n =
      match n.bindEphemeral ip with
      | some (n', addr) => (some addr, n')
      | none => (none, n) := by
  show (match n.bindEphemeral ip with
      | some (n', addr) => (some addr, n')
      | none => (none, n)) = _
  rfl

/-- Run from the network `n`, `x` ends with a result and a network that satisfy `P`. -/
def Ensures {α : Type} (x : NetM α) (n : Network) (P : α → Network → Prop) : Prop :=
  P (x.run n).1 (x.run n).2

namespace Ensures

variable {α β : Type} {n : Network} {P : β → Network → Prop}

theorem pure {b : β} (h : P b n) : Ensures (Pure.pure b) n P := h

theorem bind {x : NetM α} {f : α → NetM β} (h : Ensures x n fun a n' => Ensures (f a) n' P) :
    Ensures (x >>= f) n P := h

/-- A computation whose run is known may run first. -/
theorem of_run {x : NetM α} {f : α → NetM β} {a : α} {n₁ : Network} (hx : x.run n = (a, n₁))
    (h : Ensures (f a) n₁ P) : Ensures (x >>= f) n P := by
  unfold Ensures
  rw [StateM.run_bind_of_run hx]
  exact h

/-- Whatever a computation returns, `f` gives what `P` asks. -/
theorem any {x : NetM α} {f : α → NetM β} (h : ∀ a n', Ensures (f a) n' P) :
    Ensures (x >>= f) n P :=
  h _ _

theorem mono {Q : β → Network → Prop} {x : NetM β} (h : Ensures x n P)
    (hPQ : ∀ b n', P b n' → Q b n') : Ensures x n Q := hPQ _ _ h

/-- A computation that keeps every bound socket bound may run first: what follows it starts
from a network that still binds what `n` binds. -/
theorem keeps {x : NetM α} {q : α → Prop} {f : α → NetM β} (hx : Keeps x q)
    (hf : ∀ a n', q a → n.KeepsBound n' → Ensures (f a) n' P) : Ensures (x >>= f) n P :=
  hf _ _ (hx n).1 (hx n).2

theorem release {a : SocketAddr} {f : Unit → NetM β} (h : Ensures (f ()) (n.close a) P) :
    Ensures (Host.release a >>= f) n P := h

theorem now {f : Nat → NetM β} (h : Ensures (f n.now) n P) : Ensures (Host.now >>= f) n P := h

theorem bindTransfer {ip : IpAddr} {f : Option SocketAddr → NetM β}
    (hnone : n.bindEphemeral ip = none → Ensures (f none) n P)
    (hsome : ∀ n' a, n.bindEphemeral ip = some (n', a) → Ensures (f (some a)) n' P) :
    Ensures (Host.bindTransfer ip >>= f) n P := by
  apply Ensures.bind
  unfold Ensures
  rw [run_bindTransfer]
  split
  · rename_i n' a h
    exact hsome n' a h
  · rename_i h
    exact hnone h

end Ensures

end NetM

/-! ## Sockets owned by live sessions -/

/-- The sockets of a machine's live sessions: each bound, no two the same, all on address `ip`. -/
structure Owned (ip : IpAddr) (socks : List SocketAddr) (n : Network) : Prop where
  nodup : socks.Nodup
  bound : ∀ a ∈ socks, n.isBound a = true
  onIp : ∀ a ∈ socks, ∃ p, a = .ofIp ip p

namespace Owned

variable {ip : IpAddr} {socks : List SocketAddr} {n : Network}

theorem nil (ip : IpAddr) (n : Network) : Owned ip [] n :=
  ⟨List.nodup_nil, by simp, by simp⟩

/-- Distinct sockets on one address differ in their ports, of which there are `UInt16.size`. -/
theorem length_le (h : Owned ip socks n) : socks.length ≤ UInt16.size := by
  have hinj : ∀ a ∈ socks, ∀ b ∈ socks, a.port.toFin = b.port.toFin → a = b := by
    intro a ha b hb hab
    obtain ⟨p, rfl⟩ := h.onIp a ha
    obtain ⟨q, rfl⟩ := h.onIp b hb
    rw [Network.port_ofIp, Network.port_ofIp] at hab
    rw [UInt16.toFin_inj.mp hab]
  have hnd := h.nodup.map_on hinj
  simpa using hnd.length_le_card

/-- Each owned socket carries at most one of what its session holds, so a machine holds fewer
than a 32-bit count can reach. -/
theorem sum_add_one_lt {α : Type} {l : List α} {sock : α → SocketAddr} {held : α → Nat}
    (h : Owned ip (l.map sock) n) (hle : ∀ a, held a ≤ 1) : (l.map held).sum + 1 < 2 ^ 32 := by
  have hlen : (l.map sock).length ≤ UInt16.size := h.length_le
  have hsum : (l.map held).sum ≤ l.length := by
    simpa using List.sum_le_card_nsmul (l.map held) 1 (by
      intro k hk
      obtain ⟨a, -, rfl⟩ := List.mem_map.mp hk
      exact hle a)
  simp only [List.length_map, UInt16.size] at hlen
  omega

theorem mono {n' : Network} (h : Owned ip socks n) (hk : n.KeepsBound n') : Owned ip socks n' :=
  ⟨h.nodup, fun a ha => hk a (h.bound a ha), h.onIp⟩

theorem sublist {socks' : List SocketAddr} (h : Owned ip socks n) (hs : socks'.Sublist socks) :
    Owned ip socks' n :=
  ⟨h.nodup.sublist hs, fun a ha => h.bound a (hs.subset ha), fun a ha => h.onIp a (hs.subset ha)⟩

theorem close {a : SocketAddr} (h : Owned ip socks n) (ha : a ∉ socks) :
    Owned ip socks (n.close a) :=
  ⟨h.nodup, fun b hb => Network.isBound_close (h.bound b hb) (fun e => ha (e ▸ hb)), h.onIp⟩

theorem perm {socks' : List SocketAddr} (h : Owned ip socks n) (hp : socks.Perm socks') :
    Owned ip socks' n :=
  ⟨hp.nodup_iff.mp h.nodup, fun a ha => h.bound a (hp.mem_iff.mpr ha),
    fun a ha => h.onIp a (hp.mem_iff.mpr ha)⟩

/-- Closing one owned socket leaves the others owned. -/
theorem drop {pre post : List SocketAddr} {a : SocketAddr} (h : Owned ip (pre ++ a :: post) n) :
    Owned ip (pre ++ post) (n.close a) := by
  have ha : a ∉ pre ++ post := (List.nodup_cons.mp (List.nodup_middle.mp h.nodup)).1
  exact (h.sublist ((List.Sublist.refl pre).append (List.sublist_cons_self a post))).close ha

theorem snoc {a : SocketAddr} (h : Owned ip socks n) (ha : a ∉ socks) (hb : n.isBound a = true)
    (hp : ∃ p, a = .ofIp ip p) : Owned ip (socks ++ [a]) n := by
  refine ⟨List.nodup_append.mpr ⟨h.nodup, List.nodup_singleton a, ?_⟩, ?_, ?_⟩
  · intro x hx y hy hxy
    rw [List.mem_singleton] at hy
    rw [hxy, hy] at hx
    exact ha hx
  · intro x hx
    rcases List.mem_append.mp hx with hx | hx
    · exact h.bound x hx
    · rw [List.mem_singleton.mp hx]
      exact hb
  · intro x hx
    rcases List.mem_append.mp hx with hx | hx
    · exact h.onIp x hx
    · rw [List.mem_singleton.mp hx]
      exact hp

end Owned

end Tftp.Net

namespace Tftp

open Tftp.Net NetM

/-! ## A session keeps its socket -/

namespace Session

theorem keeps_transmitBytes (s : Session) (bytes : List UInt8) :
    Keeps (s.transmitBytes bytes : NetM _) fun _ => True := by
  unfold transmitBytes
  refine (keeps_transmit _ _ _).bind fun r _ => ?_
  cases r <;> exact Keeps.pure trivial

theorem keeps_sendRequest (s : Session) (p : Packet) :
    Keeps (s.sendRequest p : NetM _) fun r => ∀ s', r = .ok s' → s'.socket = s.socket := by
  unfold sendRequest
  split
  · exact Keeps.pure (by simp)
  · refine (s.keeps_transmitBytes _).bind fun r _ => ?_
    cases r <;> exact Keeps.pure (by simp)

theorem keeps_send (s : Session) (p : Packet) :
    Keeps (s.send p : NetM _) fun r => ∀ s', r = .ok s' → s'.socket = s.socket := by
  unfold send
  split
  · exact Keeps.pure (by simp)
  · refine (s.keeps_transmitBytes _).bind fun r _ => ?_
    cases r <;> exact Keeps.pure (by simp)

theorem keeps_sendError (s : Session) (code : ErrorCode) (message : String) :
    Keeps (s.sendError code message : NetM _) fun s' => s'.socket = s.socket := by
  unfold sendError
  dsimp only
  split
  · exact (s.keeps_transmitBytes _).bind fun _ _ => Keeps.pure rfl
  · exact Keeps.pure rfl

theorem keeps_rejectStranger (s : Session) (src : SocketAddr) :
    Keeps (s.rejectStranger src : NetM _) fun _ => True := by
  unfold rejectStranger
  dsimp only
  split
  · exact (keeps_transmit _ _ _).bind fun _ _ => Keeps.pure trivial
  · exact Keeps.pure trivial

theorem keeps_classify (s : Session) (d : Datagram) :
    Keeps (s.classify d : NetM _) fun r => ∀ s' i, r = some (s', i) → s'.socket = s.socket := by
  unfold classify
  dsimp only
  split
  · exact (s.keeps_rejectStranger _).bind fun _ _ => Keeps.pure (by simp)
  · rename_i s' hs
    have hsock : s'.socket = s.socket := by
      split at hs
      · split at hs <;> cases hs
        rfl
      · split at hs <;> cases hs
        rfl
    split <;> exact Keeps.pure (by simp [hsock])

theorem keeps_retry (s : Session) :
    Keeps (s.retry : NetM _) fun r => r.1.socket = s.socket := by
  unfold retry
  dsimp only
  split
  · exact Keeps.pure rfl
  · split
    · exact (Session.keeps_transmitBytes _ _).bind fun _ _ => Keeps.pure rfl
    · exact Keeps.pure rfl

theorem keeps_reject (s : Session) (incoming : Incoming) :
    Keeps (s.reject incoming : NetM _) fun r => r.1.socket = s.socket := by
  unfold reject
  split
  · exact Keeps.pure rfl
  · exact s.keeps_retry

end Session

/-! ## The stop-and-wait machines keep their session's socket -/

namespace Sending

theorem keeps_next (v : Volume) (s : Session) (file : OpenFile) (block : UInt16) (stats : Stats) :
    Keeps (next v s file block stats : NetM _) fun r => r.1.socket = s.socket := by
  unfold next
  split
  · exact (s.keeps_sendError _ _).bind fun _ hs => Keeps.pure hs
  · dsimp only
    refine (s.keeps_send _).bind fun r hr => ?_
    cases r with
    | error e => exact Keeps.pure rfl
    | ok s' => exact Keeps.pure (hr s' rfl)

theorem keeps_start (v : Volume) (s : Session) (file : OpenFile) :
    Keeps (start v s file : NetM _) fun r => r.1.socket = s.socket :=
  keeps_next v s file 0 {}

theorem keeps_step_reject (s : Session) (st : Sending) (incoming : Incoming) :
    Keeps (step.reject s st incoming : NetM _) fun r => r.1.socket = s.socket := by
  unfold step.reject
  refine (s.keeps_reject incoming).bind fun r hr => ?_
  obtain ⟨s', res⟩ := r
  cases res <;> exact Keeps.pure hr

theorem keeps_step (v : Volume) (s : Session) (st : Sending) (incoming : Incoming) :
    Keeps (step v s st incoming : NetM _) fun r => r.1.socket = s.socket := by
  unfold step
  split
  · split
    · dsimp only
      split
      · exact Keeps.pure rfl
      · exact keeps_next v s.accept st.file st.block _
    · exact keeps_step_reject s st _
  · exact keeps_step_reject s st _

end Sending

namespace Receiving

theorem keeps_step_reject (v : Volume) (s : Session) (st : Receiving) (incoming : Incoming) :
    Keeps (step.reject v s st incoming : NetM _) fun r => r.2.1.socket = s.socket := by
  unfold step.reject
  refine (s.keeps_reject incoming).bind fun r hr => ?_
  obtain ⟨s', res⟩ := r
  cases res <;> exact Keeps.pure hr

theorem keeps_step (v : Volume) (s : Session) (st : Receiving) (incoming : Incoming) :
    Keeps (step v s st incoming : NetM _) fun r => r.2.1.socket = s.socket := by
  unfold step
  dsimp only
  split
  · split
    · split
      · exact (s.accept.keeps_sendError _ _).bind fun _ hs => Keeps.pure hs
      · refine (s.accept.keeps_send _).bind fun r hr => ?_
        cases r with
        | error e => exact Keeps.pure rfl
        | ok s' =>
          dsimp only
          split
          · exact Keeps.pure (hr s' rfl)
          · exact Keeps.pure (hr s' rfl)
    · exact keeps_step_reject v s st _
  · exact keeps_step_reject v s st _

end Receiving

theorem keeps_awaitAck_reject (s : Session) (incoming : Incoming) :
    Keeps (awaitAck.reject s incoming : NetM _) fun r => r.1.socket = s.socket := by
  unfold awaitAck.reject
  refine (s.keeps_reject incoming).bind fun r hr => ?_
  obtain ⟨s', res⟩ := r
  cases res <;> exact Keeps.pure hr

theorem keeps_awaitAck (s : Session) (block : UInt16) (incoming : Incoming) :
    Keeps (awaitAck s block incoming : NetM _) fun r => r.1.socket = s.socket := by
  unfold awaitAck
  split
  · split
    · exact Keeps.pure rfl
    · exact keeps_awaitAck_reject s _
  · exact keeps_awaitAck_reject s _

end Tftp
